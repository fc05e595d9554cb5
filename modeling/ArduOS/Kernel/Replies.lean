import ArduOS.Kernel.AbsolutePaths
import ArduOS.Kernel.ParentDirectories
import ArduOS.Kernel.Printing
import ArduOS.Kernel.RemoteExec
import ArduOS.Kernel.Rendering
import ArduOS.Kernel.SharedInput

/-!
# What the daemon answers

The answer to a request of the host is a function of the state in which the daemon finds
it: of the working directory, of the request and of what the card says.
-/

namespace ArduOS

open Library Hal

namespace Kernel

variable {sd : SdFat}

/-!
## Answers
-/

def chdirReply (k : Kernel sd) (payload : List Byte) : List (Bool × List Byte) :=
  let target := k.chdirTarget 0 (cString (payload.take 31))
  if (k.chdirCheck target).1 then
    [(false, enteredCwd target), (false, text "\n")]
  else [(true, text "Error: Invalid directory\n")]

def listedPath (k : Kernel sd) (payload : List Byte) : List Byte :=
  let args := cString (payload.take 31)
  if payload.length > 0 then
    if args.length > 0 then k.resolvePath 0 args else (k.tasks 0).cwd
  else (k.tasks 0).cwd

/-- A listing whose first character is -1 cannot be told from a failure. -/
def lsReply (k : Kernel sd) (payload : List Byte) : List (Bool × List Byte) :=
  match sd.openPath k.card (k.listedPath payload) with
  | (some dir, card) =>
      let listing := (render (sd.entries card dir).1).take 127
      if listing.head? = some 0xFF#8 then
        [(true, text "Error: ls failed (Invalid directory)\n")]
      else if listing = [] then []
      else [(false, listing)]
  | (none, _) => [(true, text "Error: ls failed (Invalid directory)\n")]

def getcwdReply (k : Kernel sd) : List (Bool × List Byte) :=
  [(false, (k.tasks 0).cwd), (false, text "\n")]

/-- The answer to a request other than `SYS_EXEC`. -/
def reply (k : Kernel sd) (cmdId : BitVec 16) (payload : List Byte) :
    List (Bool × List Byte) :=
  if cmdId = SYS_LS then k.lsReply payload
  else if cmdId = SYS_CHDIR then k.chdirReply payload
  else if cmdId = SYS_GETCWD then k.getcwdReply
  else []

/-!
## Code that sends nothing
-/

section Silent

variable {k : Kernel sd}

theorem heapSetBelow_serialOut (k : Kernel sd) (c val : Int) :
    (k.heapSetBelow c val).serialOut = k.serialOut := by
  unfold heapSetBelow
  split <;> rfl

theorem writeString_serialOut (k : Kernel sd) (addr : Int) (str : List Byte) :
    (k.writeString addr str).serialOut = k.serialOut := by
  unfold writeString
  rw [heapSetBelow_serialOut]
  exact forLoop_view k Kernel.serialOut fun _ _ _ => heapSetBelow_serialOut _ _ _

theorem chdirWith_serialOut (k : Kernel sd) (t : TaskId) (argAddr bufAddr : Int) :
    (k.chdirWith t argAddr bufAddr).serialOut = k.serialOut := by
  unfold chdirWith
  split
  · rfl
  · have hread := k.readString_serialOut 31 belowHeapSize isNull (k.getPhysAddr t argAddr)
    generalize k.readString 31 belowHeapSize isNull (k.getPhysAddr t argAddr) = read
      at hread ⊢
    rcases read with ⟨pathStr, k₁⟩
    simp only at hread ⊢
    have hchecked : (k₁.chdirCheck (k₁.chdirTarget t (cString pathStr))).2.serialOut =
        k.serialOut := by
      unfold chdirCheck
      split
      · exact hread
      · exact hread
    split
    · split
      · rw [writeString_serialOut]
        exact hchecked
      · exact hchecked
    · split
      · rw [heapSetBelow_serialOut]
        exact hchecked
      · exact hchecked

theorem lsPut_serialOut (bufAddr bufSize val : Int) (s : Int × Kernel sd) :
    (lsPut bufAddr bufSize s val).2.serialOut = s.2.serialOut := by
  unfold lsPut
  simp only
  split
  · split <;> rfl
  · rfl

theorem lsPuts_serialOut (bufAddr bufSize : Int) (vals : List Int) (s : Int × Kernel sd) :
    (vals.foldl (lsPut bufAddr bufSize) s).2.serialOut = s.2.serialOut := by
  induction vals generalizing s with
  | nil => rfl
  | cons val vals ih => exact (ih _).trans (lsPut_serialOut bufAddr bufSize val s)

theorem lsList_serialOut (k : Kernel sd) (dir : sd.File) (bufAddr bufSize : Int) :
    (k.lsList dir bufAddr bufSize).serialOut = k.serialOut := by
  unfold lsList
  simp only
  rw [heapSetBelow_serialOut, lsEntries_eq, lsPuts_serialOut]
  exact forLoop_view k Kernel.serialOut fun _ _ _ => heapSetBelow_serialOut _ _ _

theorem lsReopen_serialOut (k : Kernel sd) (t : TaskId) (pos : BitVec 32) :
    (k.lsReopen t pos).serialOut = k.serialOut := by
  unfold lsReopen
  simp only
  split
  · unfold seekFile
    split
    · rfl
    · rfl
  · rfl

theorem lsWith_serialOut (k : Kernel sd) (t : TaskId) (selector bufSize bufAddr : Int) :
    (k.lsWith t selector bufSize bufAddr).serialOut = k.serialOut := by
  unfold lsWith
  simp only
  split
  · split
    · rw [lsReopen_serialOut]
      exact lsList_serialOut _ _ _ _
    · exact lsList_serialOut _ _ _ _
  · exact heapSetBelow_serialOut _ _ _

end Silent

/-!
## A request that has been copied
-/

structure Prepared (payload : List Byte) (k k' : Kernel sd) : Prop where
  task : k'.tasks 0 = { k.tasks 0 with sp := -1 }
  heap : k'.globalHeap = placed k.globalHeap 1 payload
  card : k'.card = k.card
  out : k'.serialOut = k.serialOut

section Answers

variable {k k' : Kernel sd} {payload : List Byte}

theorem commStored_prepared (hbase : (k.tasks 0).heapBase = 0)
    (hlimit : (k.tasks 0).heapLimit = 128) {cmdId : BitVec 16} (hcmd : cmdId ≠ SYS_EXEC)
    (hlen : payload.length <= 244) :
    Prepared payload k (k.commStored 0 cmdId payload) ∧
      ((k.note (.dispatch cmdId payload)).commStorePayload 0 payload).1 = 1 := by
  have hstored := commStorePayload_eq (k := k.note (.dispatch cmdId payload)) hbase hlimit
    hlen
  rw [hstored]
  unfold commStored
  simp only [hstored, if_neg hcmd]
  refine ⟨⟨?_, rfl, rfl, rfl⟩, trivial⟩
  simp [modifyTask, place, note]

theorem Prepared.holds (h : Prepared payload k k') :
    HoldsString k'.globalHeap 1 payload 31 := by
  rw [h.heap]
  exact ⟨fun i _ hi => placed_cell k.globalHeap 1 hi,
    fun _ => placed_end k.globalHeap 1 payload⟩

theorem commGetcwd_prints (h : AbsoluteCwd (k.tasks 0).cwd) :
    Prints k (k.commGetcwd 0) k.getcwdReply := by
  have hzero := k.stackPush_operand 0 0
  have hcall : (k.stackPush 0 0).systemCall 0 4 = ((k.stackPush 0 0).stackPop 0).2 := by
    show (k.stackPush 0 0).syscallGetcwd 0 = _
    rw [syscallGetcwd_eq, hzero]
    rfl
  have hcwd : ((((k.stackPush 0 0).stackPop 0).2).tasks 0).cwd = (k.tasks 0).cwd := by
    simp [stackPush, stackPop, modifyTask, note]
  have hfits := h.fits
  unfold commGetcwd
  simp only
  rw [hcall, hcwd]
  generalize hpopped : ((k.stackPush 0 0).stackPop 0).2 = k₁
  have hsilent : k₁.serialOut = k.serialOut := by
    rw [← hpopped]
    rfl
  have hdirectory := k₁.stdWrite_prints FD_STDOUT h.noNul (by omega)
  have hline := (k₁.stdWrite FD_STDOUT (k.tasks 0).cwd).stdWrite_prints FD_STDOUT
    (show 0#8 ∉ text "\n" by decide) (by decide)
  exact (hdirectory.trans hline).of_serialOut hsilent

theorem reportsError_eq (hbase : (k.tasks 0).heapBase = 0) (offset : Int) :
    k.reportsError 0 offset =
      (decide (k.globalHeap offset = -1), k.note (.heapRead offset)) := by
  unfold reportsError
  rw [hbase, if_pos (by decide), Int.zero_add]
  rfl

/-- The first cell of a string that begins with a slash does not look like a failure. -/
theorem stored_slash (heap : Int -> Int) (addr : Int) {str : List Byte}
    (h : str.head? = some (ascii '/')) :
    stored heap addr (str.map ofChar ++ [0]) addr ≠ -1 := by
  rcases List.head?_eq_some_iff.mp h with ⟨rest, rfl⟩
  have hcell := stored_at heap addr ((ascii '/' :: rest).map ofChar ++ [0]) 0
  rw [Nat.cast_zero, Int.add_zero] at hcell
  rw [hcell]
  show ofChar (ascii '/') ≠ -1
  decide

theorem chdirGoal_pushed (h : Prepared payload k k') (hbase : (k.tasks 0).heapBase = 0) :
    let k₁ := (k'.stackPush 0 64).stackPush 0 1
    k₁.operand 0 0 = 1 ∧ k₁.operand 0 1 = 64 ∧
      k₁.tasks 0 = { k.tasks 0 with sp := 1, stack := (k₁.tasks 0).stack } ∧
      k₁.chdirGoal 0 = k.chdirTarget 0 (cString (payload.take 31)) ∧
      (k₁.Enterable (k₁.chdirGoal 0) <->
        (k.chdirCheck (k.chdirTarget 0 (cString (payload.take 31)))).1 = true) := by
  intro k₁
  have hfirst : k₁.operand 0 0 = 1 := stackPush_operand _ 0 1
  have hsecond : k₁.operand 0 1 = 64 :=
    (stackPush_operand_succ (k'.stackPush 0 64) 0 1 0 (Int.le_refl 0)).trans
      (stackPush_operand k' 0 64)
  have htask : k₁.tasks 0 = { k.tasks 0 with sp := 1, stack := (k₁.tasks 0).stack } := by
    simp [k₁, stackPush, modifyTask, note, h.task]
  have hphys : k₁.getPhysAddr 0 1 = 1 := by
    apply getPhysAddr_daemon
    rw [htask]
    exact hbase
  have hread : (k₁.readString 31 belowHeapSize isNull 1).1 = cString (payload.take 31) :=
    k₁.readString_cString h.holds (by decide) (by decide)
  have hcwd : (k₁.tasks 0).cwd = (k.tasks 0).cwd := by rw [htask]
  have hgoal : k₁.chdirGoal 0 = k.chdirTarget 0 (cString (payload.take 31)) := by
    unfold chdirGoal chdirPath
    rw [hfirst, hphys, hread, cString_cString, chdirTarget_congr hcwd]
  refine ⟨hfirst, hsecond, htask, hgoal, ?_⟩
  have hcard : k₁.card = k.card := h.card
  rw [hgoal, chdirCheck_fst, Enterable, Enterable, hcard]

/-- What the call of the daemon leaves: its answer is in the working directory and cell 64. -/
structure ChdirAnswered (k k' : Kernel sd) (success : Bool) (target : List Byte) : Prop where
  base : (k'.tasks 0).heapBase = 0
  out : k'.serialOut = k.serialOut
  cwd : (k'.tasks 0).cwd = if success then enteredCwd target else (k.tasks 0).cwd
  failed : k'.globalHeap 64 = -1 <-> success = false

theorem systemCall_chdir_answered (h : Prepared payload k k')
    (hbase : (k.tasks 0).heapBase = 0) (hcwd : AbsoluteCwd (k.tasks 0).cwd) :
    let target := k.chdirTarget 0 (cString (payload.take 31))
    ChdirAnswered k (((k'.stackPush 0 64).stackPush 0 1).systemCall 0 3)
      (k.chdirCheck target).1 target := by
  intro target
  rcases chdirGoal_pushed h hbase with ⟨hfirst, hsecond, htask, hgoal, henter⟩
  have hpushed : ((k'.stackPush 0 64).stackPush 0 1).serialOut = k.serialOut := h.out
  show ChdirAnswered k (((k'.stackPush 0 64).stackPush 0 1).syscallChdir 0) _ _
  generalize (k'.stackPush 0 64).stackPush 0 1 = k₁
    at hfirst hsecond htask hgoal henter hpushed ⊢
  have harg : k₁.operand 0 0 ≠ 0 := by
    rw [hfirst]
    decide
  have hbase₁ : (k₁.tasks 0).heapBase = 0 := by
    rw [htask]
    exact hbase
  have hsame : (k₁.tasks 0).cwd = (k.tasks 0).cwd := by rw [htask]
  have hout : (k₁.syscallChdir 0).serialOut = k.serialOut := by
    rw [syscallChdir_eq, chdirWith_serialOut]
    exact hpushed
  rcases k₁.syscallChdir_checked 0 harg with ⟨k₂, _, _, hentered, hrefused⟩
  rw [hsecond, if_pos (by decide), getPhysAddr_daemon hbase₁] at hentered hrefused
  cases hsuccess : (k.chdirCheck target).1 with
  | true =>
      have hin := henter.mpr hsuccess
      have hcaller := (syscallChdir_entered harg hin).caller
      rcases chdirTarget_absolute hcwd (noNul_cString (payload.take 31)) with
        ⟨hstarts, hnul⟩
      rcases enteredCwd_printable hstarts hnul with ⟨hhead, _, hfits⟩
      rw [hgoal] at hentered hcaller hin
      refine ⟨?_, hout, ?_, ?_⟩
      · rw [hcaller]
        exact hbase₁
      · rw [hcaller]
        rfl
      · have hsize : (GLOBAL_HEAP_SIZE : Int) = 1024 := rfl
        rw [hentered hin, writeString_globalHeap _ (by decide) (by omega)]
        have hslash := stored_slash (k₂.chdirEnter 0 target).globalHeap 64 hhead
        exact ⟨fun hfailed => absurd hfailed hslash, fun hfailed => by cases hfailed⟩
  | false =>
      have hout' : ¬ k₁.Enterable (k₁.chdirGoal 0) := by
        intro hin
        rw [henter.mp hin] at hsuccess
        cases hsuccess
      have hcaller := (syscallChdir_refused harg hout').caller
      refine ⟨?_, hout, ?_, ?_⟩
      · rw [hcaller]
        exact hbase₁
      · rw [hcaller]
        exact hsame
      · rw [hrefused hout', heapSetBelow, if_pos (by decide)]
        simp [heapSet]

theorem commChdir_prints (h : Prepared payload k k') (hbase : (k.tasks 0).heapBase = 0)
    (hcwd : AbsoluteCwd (k.tasks 0).cwd) :
    Prints k (k'.commChdir 0 1) (k.chdirReply payload) := by
  rcases chdirTarget_absolute hcwd (noNul_cString (payload.take 31)) with ⟨hstarts, hnul⟩
  rcases enteredCwd_printable hstarts hnul with ⟨_, hprintable, hfits⟩
  have hanswered := systemCall_chdir_answered h hbase hcwd
  unfold commChdir chdirReply
  simp only at hanswered ⊢
  generalize ((k'.stackPush 0 64).stackPush 0 1).systemCall 0 3 = k₁ at hanswered ⊢
  rw [reportsError_eq hanswered.base]
  simp only
  have hnoted : (k₁.note (.heapRead 64)).serialOut = k.serialOut := hanswered.out
  have hdirectory : ((k₁.note (.heapRead 64)).tasks 0).cwd = (k₁.tasks 0).cwd := rfl
  rw [hdirectory, hanswered.cwd]
  generalize k₁.note (.heapRead 64) = k₂ at hnoted ⊢
  cases hsuccess : (k.chdirCheck (k.chdirTarget 0 (cString (payload.take 31)))).1 with
  | true =>
      have hfine : k₁.globalHeap 64 ≠ -1 := by
        intro hfailed
        have hcontra := hanswered.failed.mp hfailed
        rw [hsuccess] at hcontra
        cases hcontra
      rw [if_neg (by simpa using hfine)]
      have hline := (k₂.stdWrite FD_STDOUT
        (enteredCwd (k.chdirTarget 0 (cString (payload.take 31))))).stdWrite_prints FD_STDOUT
          (show 0#8 ∉ text "\n" by decide) (by decide)
      exact ((k₂.stdWrite_prints FD_STDOUT hprintable (by omega)).trans hline).of_serialOut
        hnoted
  | false =>
      have hfailed := hanswered.failed.mpr hsuccess
      rw [if_pos (by simpa using hfailed)]
      exact (k₂.stdWrite_prints FD_STDERR
        (show 0#8 ∉ text "Error: Invalid directory\n" by decide) (by decide)).of_serialOut
          hnoted

/-!
## Listings
-/

theorem noNul_entryName (entry : List Byte × Bool) : 0#8 ∉ entryName entry :=
  noNul_of_beginning (List.take_prefix 31 _) (noNul_cString entry.1)

theorem noNul_render (entries : List (List Byte × Bool)) : 0#8 ∉ render entries := by
  intro hmem
  rcases List.mem_flatMap.mp hmem with ⟨entry, _, hentry⟩
  unfold renderEntry at hentry
  rcases List.mem_append.mp hentry with hname | hline
  · rcases List.mem_append.mp hname with hname | hslash
    · exact noNul_entryName entry hname
    · split at hslash
      · exact absurd hslash (by decide)
      · cases hslash
  · exact absurd hline (by decide)

theorem toChar_ofChar (c : Byte) : toChar (ofChar c) = c := BitVec.ofInt_toInt

theorem isNull_ofChar (c : Byte) : isNull (ofChar c) = decide (c = 0#8) := by
  unfold isNull ofChar
  rw [decide_eq_decide]
  constructor
  · intro hzero
    exact BitVec.toInt_inj.mp hzero
  · rintro rfl
    rfl

theorem readString_listing (k : Kernel sd) {listing : List Byte} (hnul : 0#8 ∉ listing)
    (hlen : listing.length <= 127)
    (hcells : forall i : Nat, i < 128 ->
      k.globalHeap i = ((listing[i]?).map ofChar).getD 0) :
    (k.readString 127 belowHeapSize isNull 0).1 = listing := by
  have hcell : forall i : Nat, i < 128 -> int16 (0 + (i : Int)) = i ∧
      belowHeapSize (i : Int) = true := by
    intro i hi
    refine ⟨?_, ?_⟩
    · rw [Int.zero_add]
      exact int16_eq_self (by omega) (by omega)
    · unfold belowHeapSize
      rw [decide_eq_true_eq]
      have hsize : (GLOBAL_HEAP_SIZE : Int) = 1024 := rfl
      omega
  have hread : (listing.take 127).takeWhile (fun c => c != 0#8) = listing := by
    rw [List.take_of_length_le hlen]
    exact cString_eq_self hnul
  rw [readString_fst, ← hread]
  apply takeWhile_range_eq
  · intro i hi hin
    have hbyte : (listing[i]?).map ofChar = some (ofChar (listing.get ⟨i, hi⟩)) := by
      simp [hi]
    rw [(hcell i (by omega)).left, (hcell i (by omega)).right, hcells i (by omega), hbyte,
      Option.getD_some, toChar_ofChar, isNull_ofChar, Bool.true_and]
    exact ⟨rfl, rfl⟩
  · intro hlt
    rw [(hcell _ (by omega)).left, hcells _ (by omega), List.getElem?_eq_none (Nat.le_refl _)]
    simp [isNull]

theorem pushed_three (k : Kernel sd) (t : TaskId) (third second first : Int) :
    let k₁ := ((k.stackPush t third).stackPush t second).stackPush t first
    k₁.operand t 0 = first ∧ k₁.operand t 1 = second ∧ k₁.operand t 2 = third ∧
      SameTasks t k (((k₁.stackPop t).2.stackPop t).2.stackPop t).2 := by
  intro k₁
  have hfirst : k₁.operand t 0 = first := stackPush_operand _ t first
  have hsecond : k₁.operand t 1 = second :=
    (stackPush_operand_succ _ t first 0 (Int.le_refl 0)).trans (stackPush_operand _ t second)
  have hthird : k₁.operand t 2 = third :=
    ((stackPush_operand_succ _ t first 1 (by decide)).trans
      (stackPush_operand_succ _ t second 0 (Int.le_refl 0))).trans
        (stackPush_operand k t third)
  have hpushed : SameTasks t k k₁ := ((k.stackPush_sameTasks t third).trans
    (stackPush_sameTasks _ t second)).trans (stackPush_sameTasks _ t first)
  exact ⟨hfirst, hsecond, hthird, ((hpushed.trans (stackPop_sameTasks _ t)).trans
    (stackPop_sameTasks _ t)).trans (stackPop_sameTasks _ t)⟩

theorem systemCall_ls_pushed (k : Kernel sd) (t : TaskId) (bufAddr bufSize selector : Int) :
    exists k₁, SameTasks t k k₁ ∧ k₁.serialOut = k.serialOut ∧
      (((k.stackPush t bufAddr).stackPush t bufSize).stackPush t selector).systemCall t 1 =
        k₁.lsWith t selector bufSize bufAddr := by
  rcases k.pushed_three t bufAddr bufSize selector with ⟨hfirst, hsecond, hthird, hsame⟩
  refine ⟨_, hsame, rfl, ?_⟩
  show Kernel.syscallLs _ t = _
  rw [syscallLs_eq, hfirst, hsecond, hthird]

structure LsAnswered (k k' : Kernel sd) (payload : List Byte) : Prop where
  base : (k'.tasks 0).heapBase = 0
  out : k'.serialOut = k.serialOut
  listed : forall dir card, sd.openPath k.card (k.listedPath payload) = (some dir, card) ->
    forall i : Nat, i < 128 -> k'.globalHeap i =
      ((((render (sd.entries card dir).1).take 127)[i]?).map ofChar).getD 0
  failed : forall card, sd.openPath k.card (k.listedPath payload) = (none, card) ->
    k'.globalHeap 0 = -1

/-- The daemon has no program file, so that nothing is reopened. -/
theorem lsWith_answered {k₁ : Kernel sd} {selector : Int}
    (hbase : (k₁.tasks 0).heapBase = 0) (hfile : (k₁.tasks 0).file = none)
    (hout : k₁.serialOut = k.serialOut) (hcard : k₁.card = k.card)
    (hpath : k₁.lsTargetPath 0 selector = k.listedPath payload) :
    LsAnswered k (k₁.lsWith 0 selector 128 0) payload := by
  have hphys : k₁.getPhysAddr 0 0 = 0 := getPhysAddr_daemon hbase 0
  have hclosed : ((k₁.closeFile 0).tasks 0).heapBase = 0 := by
    simpa [closeFile, modifyTask] using hbase
  refine ⟨?_, ?_, ?_, ?_⟩
  · unfold lsWith
    simp only [hfile]
    split
    · rw [(lsList_touches ..).tasks]
      exact hclosed
    · rw [(heapSetBelow_touches (R := fun _ => True) (W := fun _ => True) _ (-1)
        fun _ => trivial).tasks]
      exact hclosed
  · rw [lsWith_serialOut]
    exact hout
  · intro dir card hopen i hi
    rw [← hpath, ← hcard] at hopen
    have hlisted := (((k₁.closeFile 0).withCard card).lsList_cells dir (b := 0) (s := 128)
      (by decide) (by decide) (by decide)).left i (by omega)
    rw [lsWith_globalHeap 128 0 hopen, hphys]
    rw [Int.zero_add] at hlisted
    exact hlisted
  · intro card hopen
    rw [← hpath, ← hcard] at hopen
    have hsame : (k₁.closeFile 0).card = k₁.card := rfl
    unfold lsWith
    simp only [hsame, hopen]
    rw [hphys, heapSetBelow, if_pos (by decide)]
    simp [heapSet]

theorem commLs_answered (h : Prepared payload k k') (hbase : (k.tasks 0).heapBase = 0)
    (hfile : (k.tasks 0).file = none) :
    LsAnswered k (((((if payload.length > 0 then
      k'.modifyTask 0 fun task => { task with args := cString (payload.take 31) }
      else k').stackPush 0 0).stackPush 0 128).stackPush 0
        (if payload.length > 0 then 1 else 0)).systemCall 0 1) payload := by
  have hready : exists k₁ : Kernel sd, k₁ = (if payload.length > 0 then
      k'.modifyTask 0 fun task => { task with args := cString (payload.take 31) }
      else k') ∧ k₁.serialOut = k.serialOut ∧ k₁.card = k.card ∧
      k₁.tasks 0 = { k.tasks 0 with
        sp := -1
        args := if payload.length > 0 then cString (payload.take 31) else (k.tasks 0).args } := by
    refine ⟨_, rfl, ?_, ?_, ?_⟩
    · split
      · exact h.out
      · exact h.out
    · split
      · exact h.card
      · exact h.card
    · split
      · simp [modifyTask, h.task]
      · rw [h.task]
  rcases hready with ⟨k₁, hk₁, hout, hcard, htask⟩
  rw [← hk₁]
  rcases k₁.systemCall_ls_pushed 0 0 128 (if payload.length > 0 then 1 else 0) with
    ⟨k₂, hsame, hout₂, hcall⟩
  rcases hsame.own with ⟨stack, sp, hown⟩
  rw [htask] at hown
  rw [hcall]
  apply lsWith_answered
  · rw [hown]
    exact hbase
  · rw [hown]
    exact hfile
  · exact hout₂.trans hout
  · exact hsame.card.trans hcard
  · unfold lsTargetPath listedPath resolvePath
    rw [hown]
    by_cases hpayload : payload.length > 0
    · simp [hpayload]
    · simp [hpayload]

/-- The first character of a listing may look like a failure. -/
theorem looksFailed_iff {cell : Int} {listing : List Byte}
    (h : cell = (listing.head?.map ofChar).getD 0) :
    cell = -1 <-> listing.head? = some 0xFF#8 := by
  rw [h]
  cases listing with
  | nil => simp
  | cons c rest =>
      show c.toInt = (0xFF#8).toInt <-> some c = some 0xFF#8
      rw [BitVec.toInt_inj, Option.some_inj]

theorem commSendHeapString_prints (hbase : (k.tasks 0).heapBase = 0) {listing : List Byte}
    (hnul : 0#8 ∉ listing) (hlen : listing.length <= 127)
    (hcells : forall i : Nat, i < 128 ->
      k.globalHeap i = ((listing[i]?).map ofChar).getD 0) :
    Prints k (k.commSendHeapString 0 0 128)
      (if listing = [] then [] else [(false, listing)]) := by
  have hread := k.readString_listing hnul hlen hcells
  have hout := k.readString_serialOut 127 belowHeapSize isNull 0
  unfold commSendHeapString
  rw [hbase, if_neg (by decide)]
  simp only
  rw [show min 128 127 = 127 from rfl, show (0 : Int) + 0 = 0 from rfl]
  generalize k.readString 127 belowHeapSize isNull 0 = read at hread hout ⊢
  rcases read with ⟨buf, k₁⟩
  simp only at hread hout ⊢
  subst hread
  cases buf with
  | nil => exact .of_eq hout
  | cons c rest =>
      rw [if_pos (by simp), if_neg (by simp)]
      exact (k₁.stdWrite_prints FD_STDOUT hnul (by omega)).of_serialOut hout

theorem commLs_prints (h : Prepared payload k k') (hbase : (k.tasks 0).heapBase = 0)
    (hfile : (k.tasks 0).file = none) :
    Prints k (k'.commLs 0 payload) (k.lsReply payload) := by
  have hanswered := commLs_answered h hbase hfile
  have hfailure : 0#8 ∉ text "Error: ls failed (Invalid directory)\n" := by decide
  unfold commLs lsReply
  simp only
  generalize Kernel.systemCall _ 0 1 = k₁ at hanswered ⊢
  rw [reportsError_eq hanswered.base]
  simp only
  have hnoted : (k₁.note (.heapRead 0)).serialOut = k.serialOut := hanswered.out
  cases hopen : sd.openPath k.card (k.listedPath payload) with
  | mk found card =>
      cases found with
      | none =>
          rw [if_pos (by simpa using hanswered.failed card hopen)]
          exact ((k₁.note (.heapRead 0)).stdWrite_prints FD_STDERR hfailure
            (by decide)).of_serialOut hnoted
      | some dir =>
          have hcells := hanswered.listed dir card hopen
          have hnul : 0#8 ∉ (render (sd.entries card dir).1).take 127 :=
            noNul_of_beginning (List.take_prefix 127 _) (noNul_render _)
          have hlen : ((render (sd.entries card dir).1).take 127).length <= 127 :=
            List.length_take_le ..
          simp only
          generalize (render (sd.entries card dir).1).take 127 = listing at hcells hnul hlen ⊢
          have hfirst := hcells 0 (by decide)
          rw [← List.head?_eq_getElem?] at hfirst
          have hlooks : k₁.globalHeap 0 = -1 <-> listing.head? = some 0xFF#8 :=
            looksFailed_iff hfirst
          by_cases hbad : listing.head? = some 0xFF#8
          · rw [if_pos (by simpa using hlooks.mpr hbad), if_pos hbad]
            exact ((k₁.note (.heapRead 0)).stdWrite_prints FD_STDERR hfailure
              (by decide)).of_serialOut hnoted
          · have hfine : k₁.globalHeap 0 ≠ -1 := fun heq => hbad (hlooks.mp heq)
            rw [if_neg (by simpa using hfine), if_neg hbad]
            exact (commSendHeapString_prints (k := k₁.note (.heapRead 0)) hanswered.base
              hnul hlen hcells).of_serialOut hnoted

/-- Where the daemon is after a request. -/
def cwdAfterRequest (k : Kernel sd) (cmdId : BitVec 16) (payload : List Byte) : List Byte :=
  let target := k.chdirTarget 0 (cString (payload.take 31))
  if cmdId = SYS_CHDIR ∧ (k.chdirCheck target).1 then enteredCwd target
  else (k.tasks 0).cwd

def DaemonAt (cwd : List Byte) (u : TaskId) (task : Task sd) : Prop := u = 0 -> task.cwd = cwd

theorem daemonAt_bears (cwd : List Byte) : @Bears sd (DaemonAt cwd) 0 := by
  constructor
  · intro task task' hcwd h hu
    rw [hcwd]
    exact h hu
  · intro u c task _ h
    exact h
  · intro k child _ hchild _ task _ hu
    exact absurd hu hchild

theorem commChdir_cwd (h : Prepared payload k k') (hbase : (k.tasks 0).heapBase = 0)
    (hcwd : AbsoluteCwd (k.tasks 0).cwd) :
    ((k'.commChdir 0 1).tasks 0).cwd = k.cwdAfterRequest SYS_CHDIR payload := by
  have hanswered := systemCall_chdir_answered h hbase hcwd
  unfold commChdir cwdAfterRequest
  simp only at hanswered ⊢
  generalize ((k'.stackPush 0 64).stackPush 0 1).systemCall 0 3 = k₁ at hanswered ⊢
  rw [reportsError_eq hanswered.base, if_congr (and_iff_right trivial) rfl rfl,
    ← hanswered.cwd]
  simp only
  split
  · rw [stdWrite_tasks]
    rfl
  · rw [stdWrite_tasks, stdWrite_tasks]
    rfl

theorem commRequest_answers (hbase : (k.tasks 0).heapBase = 0)
    (hlimit : (k.tasks 0).heapLimit = 128) (hfile : (k.tasks 0).file = none)
    (hcwd : AbsoluteCwd (k.tasks 0).cwd) {cmdId : BitVec 16} (hcmd : cmdId ≠ SYS_EXEC)
    (hlen : payload.length <= 244) :
    Prints k (k.commRequest 0 cmdId payload) (k.reply cmdId payload) ∧
      ((k.commRequest 0 cmdId payload).tasks 0).cwd = k.cwdAfterRequest cmdId payload := by
  rcases commStored_prepared hbase hlimit hcmd hlen with ⟨hprepared, haddr⟩
  have hkept : cmdId ≠ SYS_CHDIR -> ((k.commRequest 0 cmdId payload).tasks 0).cwd =
      k.cwdAfterRequest cmdId payload := by
    intro hother
    have hstands : Stands (DaemonAt (k.tasks 0).cwd) k.systemTicks
        (k.commRequest 0 cmdId payload) := by
      apply commRequest_stands (daemonAt_bears _) cmdId payload ⟨?_, rfl⟩
      · intro heq
        exact absurd heq hother
      · rintro u rfl
        rfl
    unfold cwdAfterRequest
    simp only
    rw [if_neg (fun hboth => hother hboth.left)]
    exact hstands.each 0 rfl
  rw [commRequest_other_eq k 0 payload hcmd] at hkept ⊢
  unfold reply
  by_cases hls : cmdId = SYS_LS
  · have hother : cmdId ≠ SYS_CHDIR := by
      rw [hls]
      decide
    have hcwdKept := hkept hother
    rw [if_pos hls] at hcwdKept ⊢
    rw [if_pos hls]
    exact ⟨commLs_prints hprepared hbase hfile, hcwdKept⟩
  · rw [if_neg hls] at hkept ⊢
    rw [if_neg hls]
    by_cases hchdir : cmdId = SYS_CHDIR
    · rw [if_pos hchdir, if_pos hchdir, haddr]
      refine ⟨commChdir_prints hprepared hbase hcwd, ?_⟩
      rw [commChdir_cwd hprepared hbase hcwd, hchdir]
    · have hcwdKept := hkept hchdir
      rw [if_neg hchdir] at hcwdKept ⊢
      rw [if_neg hchdir]
      refine ⟨?_, hcwdKept⟩
      by_cases hgetcwd : cmdId = SYS_GETCWD
      · rw [if_pos hgetcwd, if_pos hgetcwd]
        have hdirectory : ((k.commStored 0 cmdId payload).tasks 0).cwd = (k.tasks 0).cwd := by
          rw [hprepared.task]
        have hprints := commGetcwd_prints (hdirectory.symm ▸ hcwd)
        unfold getcwdReply at hprints
        rw [hdirectory] at hprints
        exact hprints.of_serialOut hprepared.out
      · rw [if_neg hgetcwd, if_neg hgetcwd]
        exact .of_eq hprepared.out

end Answers

/-!
## The turn of the daemon
-/

/-- It is the daemon's turn, and this packet is in. -/
structure Finds (k : Kernel sd) (cmdId : BitVec 16) (payload : List Byte) : Prop where
  turn : k.current = 0
  runnable : (k.tasks 0).isRunnable = true
  packet : (k.hal.readPacket 0#16 k.rxBuffer RX_BUFFER_SIZE).1.delivered =
    some (cmdId, payload)

section Found

variable {k : Kernel sd} {cmdId : BitVec 16} {payload : List Byte}

theorem delivered_length {h : Hal} (hr : Receiving h)
    {d : Delivery} (hd : (h.readPacket 0#16 buffer RX_BUFFER_SIZE).1.delivered = some d) :
    d.2.length <= 244 := by
  have hslot := (readPacket_spec hr 0#16 buffer).right.left
  rw [hd] at hslot
  unfold slot at hslot
  split at hslot
  · rename_i hready
    cases hslot
    rw [length_bytesOf]
    exact (processSerial_step hr).left.len hready
  · cases hslot

theorem Finds.step (h : Finds k cmdId payload) (hrequest : cmdId < 100#16) :
    exists hal rxBuffer, k.step .turn =
      { (k.polled hal rxBuffer).commRequest 0 cmdId payload with current := 1 } := by
  have hpacket := h.packet
  have hrunnable := h.runnable
  unfold Kernel.step schedule
  simp only
  rw [h.turn, if_neg (by rw [hrunnable]; decide), if_pos rfl]
  unfold commProcess
  generalize k.hal.readPacket 0#16 k.rxBuffer RX_BUFFER_SIZE = result at hpacket ⊢
  rcases result with ⟨r, hal⟩
  simp only at hpacket ⊢
  unfold Hal.PacketRead.delivered at hpacket
  split at hpacket
  · rename_i hresult
    cases hpacket
    rw [if_pos hresult, if_pos hrequest]
    exact ⟨hal, r.payloadOut, rfl⟩
  · cases hpacket

theorem polled_answers (k : Kernel sd) (hal : Hal) (rxBuffer : Buffer) (cmdId : BitVec 16)
    (payload : List Byte) :
    (k.polled hal rxBuffer).reply cmdId payload = k.reply cmdId payload ∧
      (k.polled hal rxBuffer).cwdAfterRequest cmdId payload =
        k.cwdAfterRequest cmdId payload := by
  have hcheck : forall target, ((k.polled hal rxBuffer).chdirCheck target).1 =
      (k.chdirCheck target).1 := by
    intro target
    unfold chdirCheck
    split
    · rfl
    · rfl
  have htarget : forall path, (k.polled hal rxBuffer).chdirTarget 0 path =
      k.chdirTarget 0 path := fun _ => rfl
  have hls : (k.polled hal rxBuffer).lsReply payload = k.lsReply payload := rfl
  have hchdir : (k.polled hal rxBuffer).chdirReply payload = k.chdirReply payload := by
    unfold chdirReply
    simp only [htarget, hcheck]
  constructor
  · unfold reply
    rw [hls, hchdir]
    rfl
  · unfold cwdAfterRequest
    simp only [htarget, hcheck]
    rfl

theorem Finds.length (hk : Reachable k) (h : Finds k cmdId payload) :
    payload.length <= 244 := by
  cases hk with
  | run card events heq =>
      have hr := run_receiving card events
      rw [← heq] at hr
      exact delivered_length hr h.packet

/--
Whenever the daemon finds a request other than `SYS_EXEC`, it sends this answer and nothing
else, and then its working directory is this one.  Here no request before has led it into a
directory that `cwd` has no room for: the NUL of such a path lies in its stack, where the
next request puts an operand.
-/
theorem request_answered (hk : ReachableFitting k) (h : Finds k cmdId payload)
    (hrequest : cmdId < 100#16) (hcmd : cmdId ≠ SYS_EXEC) :
    Prints k (k.step .turn) (k.reply cmdId payload) ∧
      ((k.step .turn).tasks 0).cwd = k.cwdAfterRequest cmdId payload := by
  rcases hk.reachable.daemon with ⟨hup, hsegment⟩
  have hfile : (k.tasks 0).file = none := by
    have hnone := hup.noFile
    exact Option.isNone_iff_eq_none.mp (by simpa [records_task, Task.record] using hnone)
  rcases h.step hrequest with ⟨hal, rxBuffer, hstep⟩
  have hanswer := commRequest_answers (k := k.polled hal rxBuffer) hsegment.base
    hsegment.limit hfile hk.absolute hcmd (h.length hk.reachable)
  rw [(k.polled_answers hal rxBuffer cmdId payload).left,
    (k.polled_answers hal rxBuffer cmdId payload).right] at hanswer
  rw [hstep]
  exact hanswer

end Found

set_option maxRecDepth 4000 in
/-- The first request after power-up is to enter `bin`. -/
theorem request_answered_bin :
    Prints (requested 0) ((requested 0).step .turn)
        [(false, text "/bin/"), (false, text "\n")] ∧
      (((requested 0).step .turn).tasks 0).cwd = text "/bin/" := by
  have hfinds : Finds (requested 0) SYS_CHDIR (text "bin") := by
    constructor
    · decide +kernel
    · decide +kernel
    · decide +kernel
  have hreply : (requested 0).reply SYS_CHDIR (text "bin") =
      [(false, text "/bin/"), (false, text "\n")] := by decide +kernel
  have hafter : (requested 0).cwdAfterRequest SYS_CHDIR (text "bin") = text "/bin/" := by
    decide +kernel
  have hfits : DaemonFits (boot binCard) (.arrive (excursionRequest 0).bytes) :=
    fun _ hturn => (by cases hturn)
  have hreached : ReachableFitting (requested 0) :=
    .run binCard (requestEvents 0) (And.intro hfits trivial) rfl
  have hanswer := request_answered hreached hfinds (by decide) (by decide)
  rw [hreply, hafter] at hanswer
  exact hanswer

end Kernel
end ArduOS
