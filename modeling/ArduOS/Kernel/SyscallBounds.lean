import ArduOS.Kernel.CardImage
import ArduOS.Kernel.HeapStrings
import ArduOS.Kernel.Segments

/-!
# The heap indices of system calls

Each loop of the system calls that goes through the heap tests one end of it
only, and adds addresses in `int`.  A call keeps to the heap exactly when no
address it uses is negative, and nothing it writes runs past the largest `int`.
-/

namespace ArduOS

open Library

def Access.InHeap : Access -> Prop
  | .heapRead c => 0 <= c ∧ c < GLOBAL_HEAP_SIZE
  | .heapWrite c => 0 <= c ∧ c < GLOBAL_HEAP_SIZE
  | _ => True

namespace Kernel

variable {sd : SdFat}

/-- Every heap access between the two states is one to a cell of the heap. -/
def HeapInRange (k k' : Kernel sd) : Prop :=
  forall a, a ∈ k'.log.drop k.log.length -> a.InHeap

def InRangeIff (ok : Prop) (k k' : Kernel sd) : Prop :=
  exists new, k'.log = k.log ++ new ∧ ((forall a, a ∈ new -> a.InHeap) <-> ok)

section Compose

variable {ok ok' : Prop} {k k' k'' : Kernel sd}

theorem InRangeIff.heapInRange (h : InRangeIff ok k k') : HeapInRange k k' <-> ok := by
  rcases h with ⟨new, hlog, hnew⟩
  unfold HeapInRange
  rw [hlog, List.drop_left]
  exact hnew

theorem InRangeIff.congr (h : InRangeIff ok k k') (hok : ok <-> ok') :
    InRangeIff ok' k k' := by
  rcases h with ⟨new, hlog, hnew⟩
  exact ⟨new, hlog, hnew.trans hok⟩

theorem InRangeIff.trans (h : InRangeIff ok k k') (h' : InRangeIff ok' k' k'') :
    InRangeIff (ok ∧ ok') k k'' := by
  rcases h with ⟨new, hlog, hnew⟩
  rcases h' with ⟨new', hlog', hnew'⟩
  refine ⟨new ++ new', by rw [hlog', hlog, List.append_assoc], ?_⟩
  rw [← hnew, ← hnew']
  constructor
  · intro hall
    exact ⟨fun a ha => hall a (List.mem_append_left new' ha),
      fun a ha => hall a (List.mem_append_right new ha)⟩
  · rintro ⟨hall, hall'⟩ a ha
    rcases List.mem_append.mp ha with hin | hin
    · exact hall a hin
    · exact hall' a hin

theorem InRangeIff.absorb (h : InRangeIff ok k k') (h' : InRangeIff ok' k' k'')
    (hok : ok -> ok') : InRangeIff ok k k'' :=
  (h.trans h').congr ⟨And.left, fun hk => ⟨hk, hok hk⟩⟩

theorem InRangeIff.of_effect (h : Effect Access.InHeap k k') : InRangeIff True k k' := by
  rcases h.logged with ⟨new, hlog, hnew⟩
  exact ⟨new, hlog, iff_true_intro hnew⟩

theorem InRangeIff.of_quiet (h : Quiet k k') : InRangeIff True k k' := .of_effect h.effect

theorem InRangeIff.effect (h : InRangeIff ok k k') (h' : Effect Access.InHeap k' k'') :
    InRangeIff ok k k'' :=
  h.absorb (.of_effect h') fun _ => trivial

theorem InRangeIff.after (h : Effect Access.InHeap k k') (h' : InRangeIff ok k' k'') :
    InRangeIff ok k k'' :=
  ((InRangeIff.of_effect h).trans h').congr (iff_of_eq (true_and ok))

end Compose

/-!
## Cells and strings
-/

theorem heapGet_inRangeIff (k : Kernel sd) (c : Int) :
    InRangeIff (0 <= c ∧ c < GLOBAL_HEAP_SIZE) k (k.heapGet c).2 := by
  refine ⟨[.heapRead c], rfl, ?_⟩
  simp [Access.InHeap]

theorem heapSet_inRangeIff (k : Kernel sd) (c val : Int) :
    InRangeIff (0 <= c ∧ c < GLOBAL_HEAP_SIZE) k (k.heapSet c val) := by
  refine ⟨[.heapWrite c], rfl, ?_⟩
  simp [Access.InHeap]

/-- The test before the write leaves the lower end open. -/
theorem heapSetBelow_inRangeIff (k : Kernel sd) (c val : Int) :
    InRangeIff (0 <= c) k (k.heapSetBelow c val) := by
  unfold heapSetBelow
  split
  · rename_i hbelow
    exact (k.heapSet_inRangeIff c val).congr ⟨And.left, fun hlo => ⟨hlo, hbelow⟩⟩
  · rename_i habove
    apply (InRangeIff.of_quiet (Quiet.refl k)).congr
    have hsize : (GLOBAL_HEAP_SIZE : Int) = 1024 := rfl
    constructor
    · intro _
      omega
    · exact fun _ => trivial

theorem forLoop_inRangeIff (k : Kernel sd) (n : Nat)
    {f : Nat -> Kernel sd -> Kernel sd} {ok : Nat -> Prop}
    (h : forall i k', InRangeIff (ok i) k' (f i k')) :
    InRangeIff (forall i, i < n -> ok i) k (forLoop n f k) := by
  induction n with
  | zero =>
      apply (InRangeIff.of_quiet (Quiet.refl k)).congr
      constructor
      · intro _ i hi
        omega
      · exact fun _ => trivial
  | succ n ih =>
      apply (ih.trans (h n (forLoop n f k))).congr
      constructor
      · rintro ⟨hall, hlast⟩ i hi
        by_cases hin : i = n
        · rw [hin]
          exact hlast
        · exact hall i (by omega)
      · intro hall
        exact ⟨fun i hi => hall i (by omega), hall n (by omega)⟩

/-- The values of an `int`. -/
def IsInt (x : Int) : Prop := -32768 <= x ∧ x < 32768

theorem writeString_inRangeIff (k : Kernel sd) {addr : Int} (haddr : IsInt addr)
    (str : List Byte) :
    InRangeIff (0 <= addr ∧ addr + str.length <= 32767) k (k.writeString addr str) := by
  rcases haddr with ⟨hlo, hhi⟩
  have hloop := k.forLoop_inRangeIff str.length fun (i : Nat) k' =>
    heapSetBelow_inRangeIff k' (int16 (addr + i)) (ofChar (bufferOf str i))
  unfold writeString
  apply (hloop.trans (heapSetBelow_inRangeIff _ (int16 (addr + str.length)) 0)).congr
  constructor
  · rintro ⟨hall, hend⟩
    have hcell : forall i : Nat, i <= str.length -> 0 <= int16 (addr + i) := by
      intro i hi
      by_cases heq : i = str.length
      · rw [heq]
        exact hend
      · exact hall i (by omega)
    have hfirst := hcell 0 (Nat.zero_le _)
    have hstart : 0 <= addr := by
      unfold int16 at hfirst
      omega
    refine ⟨hstart, ?_⟩
    by_contra hover
    have hwrap := hcell (32768 - addr).toNat (by omega)
    unfold int16 at hwrap
    omega
  · rintro ⟨hstart, hroom⟩
    constructor
    · intro i hi
      rw [int16_eq_self (by omega) (by omega)]
      omega
    · rw [int16_eq_self (by omega) (by omega)]
      omega

theorem readString_inRangeIff (k : Kernel sd) (stop : Int -> Bool) {addr : Int}
    (haddr : IsInt addr) :
    InRangeIff (0 <= addr) k (k.readString 31 belowHeapSize stop addr).2 := by
  have hsize : (GLOBAL_HEAP_SIZE : Int) = 1024 := rfl
  rcases haddr with ⟨hlo, hhi⟩
  let inv : Nat -> List Byte × Kernel sd -> Prop := fun i s =>
    if i = 0 then s.2 = k else addr < 1024 ∧ InRangeIff (0 <= addr) k s.2
  have hloop := forExit_ends (n := 31) (f := readStringTurn belowHeapSize stop addr)
    (s := ([], k)) inv
    (fun s => InRangeIff (0 <= addr) k s.2) rfl (by
      rintro i ⟨chars, k'⟩ hi hinv
      simp only [readStringTurn]
      cases hrange : belowHeapSize (int16 (addr + i)) with
      | false =>
          simp only [Bool.false_eq_true, not_false_eq_true, if_true, Flow.Ends]
          unfold belowHeapSize at hrange
          rw [decide_eq_false_iff_not] at hrange
          by_cases hzero : i = 0
          · -- the string starts past the end of the heap
            subst hzero
            have hsame : k' = k := hinv
            rw [hsame]
            apply (InRangeIff.of_quiet (Quiet.refl k)).congr
            rw [Nat.cast_zero, Int.add_zero, int16_eq_self hlo hhi] at hrange
            exact ⟨fun _ => by omega, fun _ => trivial⟩
          · have hread : addr < 1024 ∧ InRangeIff (0 <= addr) k k' := by
              simpa [inv, hzero] using hinv
            exact hread.right
      | true =>
          unfold belowHeapSize at hrange
          rw [decide_eq_true_eq] at hrange
          have hcell := k'.heapGet_inRangeIff (int16 (addr + i))
          have hnext : addr < 1024 ∧ InRangeIff (0 <= addr) k
              (k'.heapGet (int16 (addr + i))).2 := by
            by_cases hzero : i = 0
            · subst hzero
              have hsame : k' = k := hinv
              rw [hsame] at hcell ⊢
              rw [Nat.cast_zero, Int.add_zero, int16_eq_self hlo hhi] at hrange hcell ⊢
              exact ⟨by omega, hcell.congr (by omega)⟩
            · have hread : addr < 1024 ∧ InRangeIff (0 <= addr) k k' := by
                simpa [inv, hzero] using hinv
              refine ⟨hread.left, hread.right.absorb hcell ?_⟩
              intro hstart
              rw [int16_eq_self (by omega) (by omega)] at hrange ⊢
              omega
          simp only [not_true_eq_false, if_false]
          split
          · exact hnext.right
          · exact hnext)
  rw [readString_eq]
  generalize forExit 31 _ _ = flow at hloop ⊢
  cases flow with
  | next s =>
      have hread : addr < 1024 ∧ InRangeIff (0 <= addr) k s.2 := hloop
      exact hread.right
  | exit s => exact hloop

/-!
## Addresses
-/

/-- The segment of a task is a part of the heap. -/
def SegmentInHeap (k : Kernel sd) (t : TaskId) : Prop :=
  forall v, 0 <= v -> v < (k.tasks t).heapLimit ->
    0 <= (k.tasks t).heapBase + v ∧ (k.tasks t).heapBase + v < GLOBAL_HEAP_SIZE

section Address

variable {k : Kernel sd} {t : TaskId}

theorem SegmentInHeap.congr {k' : Kernel sd} (h : SegmentInHeap k t)
    (hbase : (k'.tasks t).heapBase = (k.tasks t).heapBase)
    (hlimit : (k'.tasks t).heapLimit = (k.tasks t).heapLimit) : SegmentInHeap k' t := by
  unfold SegmentInHeap
  rw [hbase, hlimit]
  exact h

/-- The translation makes no address negative, and no negative one valid. -/
theorem SegmentInHeap.getPhysAddr_nonneg (h : SegmentInHeap k t) (addr : Int) :
    0 <= k.getPhysAddr t addr <-> 0 <= addr := by
  unfold getPhysAddr
  split
  · rename_i hin
    have hcell := h addr hin.left hin.right
    omega
  · rfl

theorem SegmentInHeap.isInt (h : SegmentInHeap k t) {addr : Int} (haddr : IsInt addr) :
    IsInt (k.getPhysAddr t addr) := by
  unfold getPhysAddr
  split
  · rename_i hin
    have hsize : (GLOBAL_HEAP_SIZE : Int) = 1024 := rfl
    have hcell := h addr hin.left hin.right
    unfold IsInt
    omega
  · exact haddr

theorem Reachable.segmentInHeap (hk : Reachable k) (hactive : (k.tasks t).taskState ≠ .free) :
    SegmentInHeap k t := by
  have hbase : (k.tasks t).heapBase ≠ -1 := hk.activeSegments t hactive
  have hblock : k.records.block (.segment t) =
      some ((k.tasks t).heapBase, (k.tasks t).heapLimit) := if_neg hbase
  have hproper := hk.heapSound.proper (.segment t) _ _ hblock
  intro v hlo hhi
  omega

end Address

/-!
## getcwd and exec
-/

section Calls

variable {k : Kernel sd} {t : TaskId}

/-- The working directory, if it is asked for, has to end below the largest `int`. -/
def GetcwdFits (k : Kernel sd) (t : TaskId) (bufAddr : Int) : Prop :=
  bufAddr ≠ 0 -> 0 <= bufAddr ∧
    k.getPhysAddr t bufAddr + (k.tasks t).cwd.length <= 32767

theorem getcwdWith_inRangeIff (hseg : SegmentInHeap k t) {bufAddr : Int}
    (hbuf : IsInt bufAddr) :
    InRangeIff (GetcwdFits k t bufAddr) k (k.getcwdWith t bufAddr) := by
  unfold getcwdWith GetcwdFits
  split
  · rename_i hzero
    apply (InRangeIff.of_quiet (Quiet.refl k)).congr
    exact ⟨fun _ hne => absurd hzero hne, fun _ => trivial⟩
  · rename_i hne
    apply (k.writeString_inRangeIff (hseg.isInt hbuf) (k.tasks t).cwd).congr
    rw [hseg.getPhysAddr_nonneg]
    exact ⟨fun h _ => h, fun h => h hne⟩

theorem inHeap_permits (t : TaskId) : Permits Access.InHeap t (VM_STACK_SIZE - 1) :=
  ⟨Int.le_refl _, fun _ _ _ => trivial, fun _ _ => trivial, fun _ _ => trivial⟩

def ExecFits (cmdAddr argAddr : Int) : Prop := 0 <= cmdAddr ∧ 0 <= argAddr

theorem execWith_inRangeIff (hseg : SegmentInHeap k t) (waitOpt : Int)
    {cmdAddr argAddr : Int} (hcmd : IsInt cmdAddr) (harg : IsInt argAddr) :
    InRangeIff (ExecFits cmdAddr argAddr) k (k.execWith t waitOpt cmdAddr argAddr) := by
  have hread := k.readString_inRangeIff isNullOrSpace (hseg.isInt hcmd)
  have hphys : IsInt (if argAddr ≠ 0 then k.getPhysAddr t argAddr else argAddr) ∧
      (0 <= (if argAddr ≠ 0 then k.getPhysAddr t argAddr else argAddr) <->
        0 <= argAddr) := by
    split
    · exact ⟨hseg.isInt harg, hseg.getPhysAddr_nonneg argAddr⟩
    · exact ⟨harg, Iff.rfl⟩
  unfold execWith
  simp only
  rw [hseg.getPhysAddr_nonneg] at hread
  generalize k.readString 31 belowHeapSize isNullOrSpace (k.getPhysAddr t cmdAddr) = read
    at hread ⊢
  rcases read with ⟨cmdStr, k₁⟩
  simp only at hread ⊢
  generalize (if argAddr ≠ 0 then k.getPhysAddr t argAddr else argAddr) = physArg
    at hphys ⊢
  have hreadArg : InRangeIff (ExecFits cmdAddr argAddr) k (if physArg ≠ 0 then
      k₁.readString 31 belowHeapSize isNull physArg else ([], k₁)).2 := by
    unfold ExecFits
    rw [← hphys.right]
    split
    · exact hread.trans (k₁.readString_inRangeIff isNull hphys.left)
    · apply hread.congr
      omega
  generalize (if physArg ≠ 0 then k₁.readString 31 belowHeapSize isNull physArg
    else ([], k₁)) = readArg at hreadArg ⊢
  rcases readArg with ⟨argStr, k₂⟩
  simp only at hreadArg ⊢
  cases k₂.freeSlot with
  | none => exact hreadArg.effect (k₂.stdWrite_quiet _ _).effect
  | some child =>
      exact hreadArg.effect (execLoad_effect (inHeap_permits t) k₂ child _ _ waitOpt)

/-!
## chdir
-/

def stringAt (k : Kernel sd) (n : Nat) (addr : Int) : List Byte :=
  cString (((List.range n).takeWhile fun (i : Nat) => belowHeapSize (int16 (addr + i)) &&
    ! isNull (k.globalHeap (int16 (addr + i)))).map fun (i : Nat) =>
      toChar (k.globalHeap (int16 (addr + i))))

def chdirTargetAt (k : Kernel sd) (t : TaskId) (argAddr : Int) : List Byte :=
  k.chdirTarget t (k.stringAt 31 (k.getPhysAddr t argAddr))

def enteredCwd (target : List Byte) : List Byte :=
  if (target.take 31).length > 1 ∧ (target.take 31).getLast? ≠ some (ascii '/') then
    target.take 31 ++ text "/"
  else target.take 31

def ChdirFits (k : Kernel sd) (t : TaskId) (argAddr bufAddr : Int) : Prop :=
  argAddr ≠ 0 -> 0 <= argAddr ∧ 0 <= bufAddr ∧
    (bufAddr ≠ 0 -> (k.chdirCheck (k.chdirTargetAt t argAddr)).1 = true ->
      k.getPhysAddr t bufAddr + (enteredCwd (k.chdirTargetAt t argAddr)).length <= 32767)

theorem chdirEnter_cwd (k : Kernel sd) (t : TaskId) (target : List Byte) :
    ((k.chdirEnter t target).tasks t).cwd = enteredCwd target := by
  simp [chdirEnter, enteredCwd, modifyTask]

theorem chdirWith_inRangeIff (hseg : SegmentInHeap k t) {argAddr bufAddr : Int}
    (harg : IsInt argAddr) (hbuf : IsInt bufAddr) :
    InRangeIff (ChdirFits k t argAddr bufAddr) k (k.chdirWith t argAddr bufAddr) := by
  unfold chdirWith ChdirFits
  by_cases hzero : argAddr = 0
  · rw [if_pos hzero]
    apply (InRangeIff.of_quiet (Quiet.refl k)).congr
    exact ⟨fun _ hne => absurd hzero hne, fun _ => trivial⟩
  · rw [if_neg hzero]
    have hread := k.readString_inRangeIff isNull (hseg.isInt harg)
    rw [hseg.getPhysAddr_nonneg] at hread
    have hpath : cString (k.readString 31 belowHeapSize isNull
        (k.getPhysAddr t argAddr)).1 = k.stringAt 31 (k.getPhysAddr t argAddr) := by
      rw [readString_fst]
      rfl
    have htouches := readString_touches (R := fun _ => True) (W := fun _ => True) k 31
      belowHeapSize isNull (k.getPhysAddr t argAddr) fun _ _ _ _ => trivial
    have htarget : k.chdirTargetAt t argAddr =
        k.chdirTarget t (k.stringAt 31 (k.getPhysAddr t argAddr)) := rfl
    rw [← hpath] at htarget
    have htasks := htouches.tasks
    have hcard := htouches.card
    clear hpath htouches
    generalize k.readString 31 belowHeapSize isNull (k.getPhysAddr t argAddr) = read
      at hread htarget htasks hcard ⊢
    rcases read with ⟨pathStr, k₁⟩
    simp only at hread htarget htasks hcard ⊢
    have hsame : k₁.chdirTarget t (cString pathStr) = k.chdirTargetAt t argAddr := by
      rw [htarget]
      unfold chdirTarget resolvePath
      rw [htasks]
    rw [hsame]
    generalize k.chdirTargetAt t argAddr = target
    have hchecked : (k₁.chdirCheck target).1 = (k.chdirCheck target).1 ∧
        Quiet k₁ (k₁.chdirCheck target).2 ∧
        (k₁.chdirCheck target).2.tasks = k₁.tasks := by
      unfold chdirCheck
      rw [hcard]
      split
      · exact ⟨rfl, Quiet.refl k₁, rfl⟩
      · exact ⟨rfl, withCard_quiet k₁ _, rfl⟩
    rw [← hchecked.left]
    generalize k₁.chdirCheck target = checked at hchecked ⊢
    rcases checked with ⟨success, k₂⟩
    simp only at hchecked ⊢
    have hready := hread.effect hchecked.right.left.effect
    have htasks₂ : k₂.tasks = k.tasks := hchecked.right.right.trans htasks
    have hnonneg := hseg.getPhysAddr_nonneg bufAddr
    have hint := hseg.isInt hbuf
    by_cases hnobuf : bufAddr = 0
    · -- without a buffer only the path matters
      have hdone : InRangeIff (0 <= argAddr) k (if success = true then
          (k₂.chdirEnter t target) else k₂) := by
        split
        · exact hready.effect (chdirEnter_effect (inHeap_permits t) k₂ target)
        · exact hready
      simp only [hnobuf, ne_eq, not_true_eq_false, if_false]
      apply hdone.congr
      constructor
      · exact fun h _ => ⟨h, Int.le_refl 0, False.elim⟩
      · exact fun h => (h hzero).left
    · simp only [ne_eq, hnobuf, not_false_eq_true, if_true, true_implies]
      cases success with
      | true =>
          have hentered := hready.effect (chdirEnter_effect (inHeap_permits t) k₂ target)
          have hphys : (k₂.chdirEnter t target).getPhysAddr t bufAddr =
              k.getPhysAddr t bufAddr := by
            apply getPhysAddr_congr
            · simp [chdirEnter, modifyTask, htasks₂]
            · simp [chdirEnter, modifyTask, htasks₂]
          simp only [if_true]
          rw [hphys, chdirEnter_cwd]
          apply (hentered.trans (writeString_inRangeIff _ hint _)).congr
          rw [hnonneg]
          exact ⟨fun h _ => ⟨h.left, h.right.left, fun _ => h.right.right⟩,
            fun h => ⟨(h hzero).left, (h hzero).right.left, (h hzero).right.right trivial⟩⟩
      | false =>
          have hphys : k₂.getPhysAddr t bufAddr = k.getPhysAddr t bufAddr :=
            getPhysAddr_congr (by rw [htasks₂]) (by rw [htasks₂]) bufAddr
          simp only [Bool.false_eq_true, if_false]
          rw [hphys]
          apply (hready.trans (k₂.heapSetBelow_inRangeIff _ (-1))).congr
          rw [hnonneg]
          exact ⟨fun h _ => ⟨h.left, h.right, fun hcontra => by cases hcontra⟩,
            fun h => ⟨(h hzero).left, (h hzero).right.left⟩⟩

/-!
## ls
-/

def LsFits (k : Kernel sd) (t : TaskId) (selector bufSize bufAddr : Int) : Prop :=
  0 <= bufAddr ∧ ((sd.openPath k.card (k.lsTargetPath t selector)).1.isSome = true ->
    k.getPhysAddr t bufAddr + bufSize <= 32768)

structure ListedInRange (addr : Int) (fits : Prop) (k : Kernel sd) (s : Int × Kernel sd) :
    Prop where
  nonneg : 0 <= s.1
  /-- What was written fits if the buffer does, and started at the address. -/
  inRange : exists ok, InRangeIff ok k s.2 ∧ (fits -> ok) ∧ (0 < s.1 -> ok -> 0 <= addr)
  room : 0 <= addr -> addr + s.1 <= 32767

section Listing

variable {addr bufSize : Int} {fits : Prop}

theorem ListedInRange.put {s : Int × Kernel sd} (h : ListedInRange addr fits k s)
    (haddr : IsInt addr) (hfits : fits -> 0 <= addr) (val : Int) :
    ListedInRange addr fits k (lsPut addr bufSize s val) := by
  have hsize : (GLOBAL_HEAP_SIZE : Int) = 1024 := rfl
  rcases s with ⟨writtenLen, k'⟩
  rcases haddr with ⟨hlo, hhi⟩
  have hnonneg : 0 <= writtenLen := h.nonneg
  have hroom : 0 <= addr -> addr + writtenLen <= 32767 := h.room
  unfold lsPut
  simp only
  split
  · split
    · rename_i hbelow
      rcases h.inRange with ⟨ok, hok, hofFits, hstart⟩
      have hcell : 0 <= addr -> int16 (addr + writtenLen) = addr + writtenLen := by
        intro hge
        have hle := hroom hge
        exact int16_eq_self (by omega) (by omega)
      constructor
      · simp only
        omega
      · refine ⟨_, hok.trans (k'.heapSet_inRangeIff (int16 (addr + writtenLen)) val),
          ?_, ?_⟩
        · intro hf
          have hge := hfits hf
          refine ⟨hofFits hf, ?_, hbelow⟩
          rw [hcell hge]
          omega
        · rintro _ ⟨hokay, hge, _⟩
          by_cases hzero : writtenLen = 0
          · rw [hzero, Int.add_zero, int16_eq_self hlo hhi] at hge
            exact hge
          · exact hstart (by omega) hokay
      · intro hge
        rw [hcell hge] at hbelow
        simp only
        omega
    · exact h
  · exact h

theorem ListedInRange.entry {s : Int × Kernel sd} (h : ListedInRange addr fits k s)
    (haddr : IsInt addr) (hfits : fits -> 0 <= addr) (entry : List Byte × Bool) :
    ListedInRange addr fits k (lsEntry addr bufSize s entry) := by
  unfold lsEntry
  apply ListedInRange.put _ haddr hfits
  induction lsName entry generalizing s with
  | nil => exact h
  | cons c name ih => exact ih (h.put haddr hfits (ofChar c))

theorem ListedInRange.entries {s : Int × Kernel sd} (h : ListedInRange addr fits k s)
    (haddr : IsInt addr) (hfits : fits -> 0 <= addr)
    (entries : List (List Byte × Bool)) :
    ListedInRange addr fits k (entries.foldl (lsEntry addr bufSize) s) := by
  induction entries generalizing s with
  | nil => exact h
  | cons entry entries ih => exact ih (h.entry haddr hfits entry)

end Listing

theorem lsList_inRangeIff (k : Kernel sd) (dir : sd.File) {addr : Int} (bufSize : Int)
    (haddr : IsInt addr) :
    InRangeIff (0 <= addr ∧ addr + bufSize <= 32768) k (k.lsList dir addr bufSize) := by
  have hclear := k.forLoop_inRangeIff bufSize.toNat fun (i : Nat) k' =>
    heapSetBelow_inRangeIff k' (int16 (addr + i)) 0
  unfold lsList
  simp only
  generalize forLoop bufSize.toNat (fun i k =>
    Kernel.heapSetBelow k (int16 (addr + i)) 0) k = k₁ at hclear ⊢
  have hcleared := hclear.effect (withCard_quiet k₁ (sd.entries k₁.card dir).2).effect
  have hlisted : ListedInRange addr (0 <= addr ∧ addr + bufSize <= 32768)
      (k₁.withCard (sd.entries k₁.card dir).2)
      ((sd.entries k₁.card dir).1.foldl (lsEntry addr bufSize)
        (0, k₁.withCard (sd.entries k₁.card dir).2)) := by
    apply ListedInRange.entries _ haddr And.left
    constructor
    · exact Int.le_refl 0
    · exact ⟨True, .of_quiet (Quiet.refl _), fun _ => trivial,
        fun hcontra => absurd hcontra (Int.lt_irrefl 0)⟩
    · intro _
      simp only
      unfold IsInt at haddr
      omega
  generalize (sd.entries k₁.card dir).1.foldl (lsEntry addr bufSize)
    (0, k₁.withCard (sd.entries k₁.card dir).2) = listed at hlisted ⊢
  rcases listed with ⟨writtenLen, k₂⟩
  rcases hlisted with ⟨hnonneg, ⟨ok, hok, hofFits, hstart⟩, hroom⟩
  simp only at hnonneg hok hstart hroom ⊢
  rcases haddr with ⟨hlo, hhi⟩
  apply ((hcleared.trans hok).trans
    (k₂.heapSetBelow_inRangeIff (int16 (addr + writtenLen)) 0)).congr
  constructor
  · rintro ⟨⟨hcells, hokay⟩, hend⟩
    have hge : 0 <= addr := by
      by_cases hzero : writtenLen = 0
      · rw [hzero, Int.add_zero, int16_eq_self hlo hhi] at hend
        exact hend
      · exact hstart (by omega) hokay
    refine ⟨hge, ?_⟩
    by_contra hover
    have hwrap := hcells (32768 - addr).toNat (by omega)
    unfold int16 at hwrap
    omega
  · rintro ⟨hge, hfit⟩
    have hle := hroom hge
    refine ⟨⟨?_, hofFits ⟨hge, hfit⟩⟩, ?_⟩
    · intro i hi
      rw [int16_eq_self (by omega) (by omega)]
      omega
    · rw [int16_eq_self (by omega) (by omega)]
      omega

theorem lsWith_inRangeIff (hseg : SegmentInHeap k t) (selector bufSize : Int)
    {bufAddr : Int} (hbuf : IsInt bufAddr) :
    InRangeIff (LsFits k t selector bufSize bufAddr) k
      (k.lsWith t selector bufSize bufAddr) := by
  have hnonneg := hseg.getPhysAddr_nonneg bufAddr
  have hint := hseg.isInt hbuf
  have hopened := (closeFile_quiet k t).trans
    (withCard_quiet _ (sd.openPath k.card (k.lsTargetPath t selector)).2)
  have hcard : (k.closeFile t).card = k.card := rfl
  unfold lsWith LsFits
  cases hdir : sd.openPath k.card (k.lsTargetPath t selector) with
  | mk dir card =>
      rw [hdir] at hopened
      simp only [hcard, hdir]
      generalize (k.closeFile t).withCard card = k₁ at hopened ⊢
      cases dir with
      | none =>
          simp only [Option.isSome_none, Bool.false_eq_true, false_implies, and_true]
          rw [← hnonneg]
          exact .after hopened.effect (k₁.heapSetBelow_inRangeIff _ (-1))
      | some dir =>
          simp only [Option.isSome_some, true_implies]
          rw [← hnonneg]
          have hlisted := InRangeIff.after hopened.effect
            (k₁.lsList_inRangeIff dir bufSize hint)
          cases (k.tasks t).file with
          | none => exact hlisted
          | some file => exact hlisted.effect (lsReopen_quiet _ t _).effect

/-!
## System calls
-/

theorem stackPop_inHeap (k : Kernel sd) (t : TaskId) :
    Effect Access.InHeap k (k.stackPop t).2 := stackPop_effect k trivial

theorem stackPop_segmentInHeap (h : SegmentInHeap k t) :
    SegmentInHeap (k.stackPop t).2 t := by
  apply h.congr
  · simp [stackPop, modifyTask]
  · simp [stackPop, modifyTask]

theorem stackPop_lsFits (k : Kernel sd) (t : TaskId) (selector bufSize bufAddr : Int) :
    LsFits (k.stackPop t).2 t selector bufSize bufAddr <->
      LsFits k t selector bufSize bufAddr := by
  have hpath : (k.stackPop t).2.lsTargetPath t selector = k.lsTargetPath t selector := by
    simp [lsTargetPath, resolvePath, stackPop, modifyTask, note]
  unfold LsFits
  rw [hpath, stackPop_getPhysAddr]
  rfl

theorem stackPop_chdirFits (k : Kernel sd) (t : TaskId) (argAddr bufAddr : Int) :
    ChdirFits (k.stackPop t).2 t argAddr bufAddr <-> ChdirFits k t argAddr bufAddr := by
  have htarget : (k.stackPop t).2.chdirTargetAt t argAddr = k.chdirTargetAt t argAddr := by
    unfold chdirTargetAt
    rw [stackPop_getPhysAddr]
    simp [chdirTarget, resolvePath, stringAt, stackPop, modifyTask, note]
  have hcheck : forall target, ((k.stackPop t).2.chdirCheck target).1 =
      (k.chdirCheck target).1 := by
    intro target
    unfold chdirCheck
    split <;> rfl
  unfold ChdirFits
  rw [htarget, hcheck, stackPop_getPhysAddr]

theorem stackPop_getcwdFits (k : Kernel sd) (t : TaskId) (bufAddr : Int) :
    GetcwdFits (k.stackPop t).2 t bufAddr <-> GetcwdFits k t bufAddr := by
  have hcwd : ((k.stackPop t).2.tasks t).cwd = (k.tasks t).cwd := by
    simp [stackPop, modifyTask]
  unfold GetcwdFits
  rw [hcwd, stackPop_getPhysAddr]

/-- The operands of the system call fit, its id already popped. -/
def OperandsFit (k : Kernel sd) (t : TaskId) (sysId : Int) : Prop :=
  if sysId = 1 then LsFits k t (k.operand t 0) (k.operand t 1) (k.operand t 2)
  else if sysId = 2 then ExecFits (k.operand t 1) (k.operand t 2)
  else if sysId = 3 then ChdirFits k t (k.operand t 0) (k.operand t 1)
  else if sysId = 4 then GetcwdFits k t (k.operand t 0)
  else True

/--
With any operands, a system call keeps to the heap if and only if the addresses
among them are not negative and what it writes ends below the largest `int`.
-/
theorem system_call_in_heap (hseg : SegmentInHeap k t) {sysId : Int}
    (hoperands : forall n, 0 <= n -> n < sysOperands sysId -> IsInt (k.operand t n)) :
    HeapInRange k (k.systemCall t sysId) <-> OperandsFit k t sysId := by
  have hfirst := k.stackPop_inHeap t
  have hsecond := hfirst.trans ((k.stackPop t).2.stackPop_inHeap t)
  have hthird := hsecond.trans (((k.stackPop t).2.stackPop t).2.stackPop_inHeap t)
  have hseg₁ := stackPop_segmentInHeap hseg
  have hseg₂ := stackPop_segmentInHeap hseg₁
  have hseg₃ := stackPop_segmentInHeap hseg₂
  unfold systemCall OperandsFit
  unfold sysOperands at hoperands
  split
  · rename_i hid
    rw [if_pos hid] at hoperands
    rw [syscallLs_eq]
    have hls := lsWith_inRangeIff hseg₃ (k.operand t 0) (k.operand t 1)
      (hoperands 2 (by omega) (by omega))
    rw [(InRangeIff.after hthird hls).heapInRange, stackPop_lsFits, stackPop_lsFits,
      stackPop_lsFits]
  · rename_i hls
    rw [if_neg hls] at hoperands
    split
    · rename_i hid
      rw [if_pos hid] at hoperands
      rw [syscallExec_eq]
      exact (InRangeIff.after hthird (execWith_inRangeIff hseg₃ (k.operand t 0)
        (hoperands 1 (by omega) (by omega)) (hoperands 2 (by omega) (by omega)))).heapInRange
    · rename_i hexec
      rw [if_neg hexec] at hoperands
      split
      · rename_i hid
        rw [if_pos hid] at hoperands
        rw [syscallChdir_eq]
        have hchdir := chdirWith_inRangeIff hseg₂ (hoperands 0 (by omega) (by omega))
          (hoperands 1 (by omega) (by omega))
        rw [(InRangeIff.after hsecond hchdir).heapInRange, stackPop_chdirFits,
          stackPop_chdirFits]
      · rename_i hchdir
        rw [if_neg hchdir] at hoperands
        split
        · rename_i hid
          rw [if_pos hid] at hoperands
          rw [syscallGetcwd_eq]
          have hgetcwd := getcwdWith_inRangeIff hseg₁ (hoperands 0 (by omega) (by omega))
          rw [(InRangeIff.after hfirst hgetcwd).heapInRange, stackPop_getcwdFits]
        · exact (InRangeIff.of_quiet (Quiet.refl k)).heapInRange

end Calls

def thirdInstruction (code : List Byte) : Kernel CardImage.sdFat :=
  (boot (CardImage.ofProgram 16#8 code 1)).run
    (.arrive runRequest.bytes :: List.replicate 7 .turn)

def getcwdCode (low high : Byte) : List Byte :=
  [0x10#8, low, high, 0x10#8, 0x04#8, 0x00#8, 0x30#8]

def callingGetcwd (low high : Byte) : Kernel CardImage.sdFat :=
  (((thirdInstruction (getcwdCode low high)).fetchByte 1).2.stackPop 1).2

set_option maxRecDepth 4000 in
/-- A buffer in the segment of the task. -/
theorem system_call_in_heap_segment :
    HeapInRange (callingGetcwd 3#8 0#8) ((callingGetcwd 3#8 0#8).systemCall 1 4) := by
  have hstate : ((callingGetcwd 3#8 0#8).tasks 1).heapBase = 128 ∧
      ((callingGetcwd 3#8 0#8).tasks 1).heapLimit = 16 ∧
      (callingGetcwd 3#8 0#8).operand 1 0 = 3 ∧
      ((callingGetcwd 3#8 0#8).tasks 1).cwd = text "/" := by decide +kernel
  have hgeneral : forall k : Kernel CardImage.sdFat, (k.tasks 1).heapBase = 128 ∧
      (k.tasks 1).heapLimit = 16 ∧ k.operand 1 0 = 3 ∧ (k.tasks 1).cwd = text "/" ->
        HeapInRange k (k.systemCall 1 4) := by
    rintro k ⟨hbase, hlimit, hbuf, hcwd⟩
    have hseg : SegmentInHeap k 1 := by
      intro v hlo hhi
      rw [hlimit] at hhi
      rw [hbase]
      exact ⟨by omega, by simp only [GLOBAL_HEAP_SIZE]; omega⟩
    have hoperands : forall n, 0 <= n -> n < sysOperands 4 -> IsInt (k.operand 1 n) := by
      intro n hlo hhi
      have hzero : n = 0 := by
        have hone : sysOperands 4 = 1 := rfl
        omega
      rw [hzero, hbuf]
      exact ⟨by decide, by decide⟩
    refine (system_call_in_heap hseg hoperands).mpr ?_
    intro _
    have hlength : (text "/").length = 1 := by decide
    rw [hbuf]
    unfold getPhysAddr
    rw [hlimit, hbase, hcwd, hlength, if_pos ⟨by decide, by decide⟩]
    exact ⟨by decide, by decide⟩
  exact hgeneral _ hstate

set_option maxRecDepth 4000 in
/-- A buffer at address -1: the slash is written in front of the heap. -/
theorem getcwd_leaves_heap :
    Reachable (thirdInstruction (getcwdCode 0xFF#8 0xFF#8)) ∧
      ((thirdInstruction (getcwdCode 0xFF#8 0xFF#8)).tasks 1).taskState = .running ∧
      (callingGetcwd 0xFF#8 0xFF#8).operand 1 0 = -1 ∧
      ¬ HeapInRange (callingGetcwd 0xFF#8 0xFF#8)
        ((callingGetcwd 0xFF#8 0xFF#8).systemCall 1 4) := by
  have hreach : Reachable (thirdInstruction (getcwdCode 0xFF#8 0xFF#8)) := ⟨_, _, rfl⟩
  have hstate : ((thirdInstruction (getcwdCode 0xFF#8 0xFF#8)).tasks 1).taskState =
        .running ∧
      (callingGetcwd 0xFF#8 0xFF#8).operand 1 0 = -1 := by decide +kernel
  have hwrite : Access.heapWrite (-1) ∈
      ((callingGetcwd 0xFF#8 0xFF#8).systemCall 1 4).log.drop
        (callingGetcwd 0xFF#8 0xFF#8).log.length := by decide +kernel
  refine ⟨hreach, hstate.left, hstate.right, ?_⟩
  intro hrange
  have hcell := hrange _ hwrite
  exact absurd hcell.left (by decide)

end Kernel
end ArduOS
