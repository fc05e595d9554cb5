import ArduOS.Kernel.Isolation
import ArduOS.Kernel.Segments

/-!
# The request in the heap

`Comm_process` copies a request into the heap of Task 0, one byte a cell, and
takes an exec request apart in place.  Its bounds are those of the global heap,
not of the segment, which a long request leaves.
-/

namespace ArduOS

open Library

def placed (heap : Int -> Int) (base : Int) (bytes : List Byte) : Int -> Int := fun c =>
  if base <= c ∧ c < base + bytes.length then ofByte (bufferOf bytes (c - base).toNat)
  else if c = base + bytes.length then 0
  else heap c

def writesAt (base : Int) (n : Nat) : List Access :=
  (List.range n).map fun (i : Nat) => Access.heapWrite (base + i)

theorem mem_writesAt {base c : Int} {n : Nat} :
    .heapWrite c ∈ writesAt base n <-> base <= c ∧ c < base + n := by
  unfold writesAt
  rw [List.mem_map]
  constructor
  · rintro ⟨i, hi, heq⟩
    have hlt := List.mem_range.mp hi
    cases heq
    omega
  · rintro ⟨hlo, hhi⟩
    refine ⟨(c - base).toNat, List.mem_range.mpr (by omega), ?_⟩
    have hcell : base + ((c - base).toNat : Int) = c := by omega
    rw [hcell]

theorem writesAt_succ (base : Int) (n : Nat) :
    writesAt base (n + 1) = writesAt base n ++ [.heapWrite (base + n)] := by
  simp [writesAt, List.range_succ]

theorem placed_of_outside (heap : Int -> Int) {base c : Int} {bytes : List Byte}
    (h : c < base ∨ base + bytes.length < c) : placed heap base bytes c = heap c := by
  unfold placed
  rw [if_neg (by omega), if_neg (by omega)]

theorem placed_cell (heap : Int -> Int) (base : Int) {bytes : List Byte} {i : Nat}
    (hi : i < bytes.length) :
    placed heap base bytes (base + i) = ofByte (bufferOf bytes i) := by
  have hindex : (base + (i : Int) - base).toNat = i := by omega
  unfold placed
  rw [if_pos (by omega), hindex]

theorem placed_end (heap : Int -> Int) (base : Int) (bytes : List Byte) :
    placed heap base bytes (base + bytes.length) = 0 := by
  unfold placed
  rw [if_neg (by omega), if_pos rfl]

namespace Kernel

open Records

variable {sd : SdFat}

def place (k : Kernel sd) (base : Int) (bytes : List Byte) : Kernel sd :=
  { k with
    globalHeap := placed k.globalHeap base bytes
    log := k.log ++ writesAt base (bytes.length + 1) }

@[simp] theorem place_tasks (k : Kernel sd) (base : Int) (bytes : List Byte) :
    (k.place base bytes).tasks = k.tasks := rfl

@[simp] theorem place_log (k : Kernel sd) (base : Int) (bytes : List Byte) :
    (k.place base bytes).log = k.log ++ writesAt base (bytes.length + 1) := rfl

theorem place_kept (k : Kernel sd) {base c : Int} {bytes : List Byte}
    (h : c < base ∨ base + bytes.length < c) :
    (k.place base bytes).globalHeap c = k.globalHeap c :=
  placed_of_outside k.globalHeap h

/-!
## Copying
-/

theorem copyCells_eq (k : Kernel sd) (base : Int) (data : Buffer) (n : Nat) :
    forLoop n (fun i k => Kernel.heapSet k (base + i) (ofByte (data i))) k =
      { k with
        globalHeap := fun c =>
          if base <= c ∧ c < base + n then ofByte (data (c - base).toNat)
          else k.globalHeap c
        log := k.log ++ writesAt base n } := by
  induction n with
  | zero =>
      have hheap : (fun c => if base <= c ∧ c < base + ((0 : Nat) : Int) then
          ofByte (data (c - base).toNat) else k.globalHeap c) = k.globalHeap := by
        funext c
        rw [if_neg (by omega)]
      rw [hheap]
      simp [writesAt]
  | succ n ih =>
      have hheap : Function.update (fun c => if base <= c ∧ c < base + (n : Int) then
          ofByte (data (c - base).toNat) else k.globalHeap c) (base + n)
            (ofByte (data n)) =
          fun c => if base <= c ∧ c < base + ((n + 1 : Nat) : Int) then
            ofByte (data (c - base).toNat) else k.globalHeap c := by
        funext c
        by_cases hc : c = base + n
        · have hindex : (c - base).toNat = n := by omega
          subst hc
          rw [Function.update_self, if_pos (by omega), hindex]
        · rw [Function.update_of_ne hc]
          by_cases hin : base <= c ∧ c < base + (n : Int)
          · rw [if_pos hin, if_pos (by omega)]
          · rw [if_neg hin, if_neg (by omega)]
      rw [forLoop_succ, ih]
      simp only [heapSet, note]
      rw [hheap, writesAt_succ, List.append_assoc]

theorem copyLoop_eq_place (k : Kernel sd) {base : Int} (data : Buffer) {n : Nat}
    (overflow : Kernel sd -> Kernel sd) (hfit : base + n < GLOBAL_HEAP_SIZE) :
    (k.copyLoop base data n overflow).heapSetBelow (base + n) 0 =
      k.place base (bytesOf data n) := by
  have hloop : k.copyLoop base data n overflow =
      forLoop n (fun i k => Kernel.heapSet k (base + i) (ofByte (data i))) k := by
    unfold copyLoop
    rw [forExit_eq_forLoop
      (g := fun i k => Kernel.heapSet k (base + i) (ofByte (data i)))]
    · rfl
    · intro i k' hi
      rw [if_neg (by omega)]
  have hheap : Function.update (fun c => if base <= c ∧ c < base + (n : Int) then
      ofByte (data (c - base).toNat) else k.globalHeap c) (base + n) 0 =
        placed k.globalHeap base (bytesOf data n) := by
    funext c
    unfold placed
    rw [length_bytesOf]
    by_cases hc : c = base + n
    · subst hc
      rw [Function.update_self, if_neg (by omega), if_pos rfl]
    · rw [Function.update_of_ne hc]
      by_cases hin : base <= c ∧ c < base + (n : Int)
      · rw [if_pos hin, if_pos hin, bufferOf_bytesOf _ (by omega)]
      · rw [if_neg hin, if_neg hin, if_neg hc]
  unfold heapSetBelow
  rw [if_pos hfit, hloop, copyCells_eq]
  unfold place
  rw [length_bytesOf]
  simp only [heapSet, note]
  rw [hheap, writesAt_succ, List.append_assoc]

section Daemon

variable {k : Kernel sd} (hbase : (k.tasks 0).heapBase = 0)
  (hlimit : (k.tasks 0).heapLimit = 128)

include hbase

theorem commStorePart_eq {offset : Int} {part : List Byte}
    (hfit : offset + part.length < GLOBAL_HEAP_SIZE) :
    k.commStorePart 0 offset part =
      if part.length > 0 then k.place offset part else k := by
  unfold commStorePart
  by_cases hpart : part.length > 0
  · rw [if_pos ⟨hpart, by omega⟩, if_pos hpart]
    simp only [hbase, Int.zero_add]
    rw [k.copyLoop_eq_place (bufferOf part) id hfit, bytesOf_bufferOf]
  · rw [if_neg (fun h => hpart h.left), if_neg hpart]

include hlimit

/-- The limit is taken for 256 cells, and does not cut any payload off. -/
theorem commCopyToHeap_eq {payload : List Byte} (hlen : payload.length <= 244) :
    k.commCopyToHeap 0 (bufferOf payload) payload.length = (1, k.place 1 payload) := by
  have hheap : ((1 : Int) + payload.length) < GLOBAL_HEAP_SIZE := by
    have hsize : (GLOBAL_HEAP_SIZE : Int) = 1024 := rfl
    omega
  have hplace := k.copyLoop_eq_place (bufferOf payload) (fun k =>
    k.stdWrite FD_STDERR (text "[DEBUG] Error: Comm_copyToHeap Overflow!\n")) hheap
  rw [bytesOf_bufferOf] at hplace
  unfold commCopyToHeap
  rw [if_neg (by omega)]
  simp only [hbase, hlimit]
  rw [if_neg (by omega)]
  simp only [Int.zero_add]
  rw [hplace]

theorem commStorePayload_eq {payload : List Byte} (hlen : payload.length <= 244) :
    k.commStorePayload 0 payload = (1, k.place 1 payload) := by
  unfold commStorePayload
  by_cases hpayload : payload.length > 0
  · rw [if_pos hpayload]
    exact commCopyToHeap_eq hbase hlimit hlen
  · have hnil : payload = [] := List.length_eq_zero_iff.mp (by omega)
    have hempty : placed k.globalHeap 1 [] = Function.update k.globalHeap 1 0 := by
      funext c
      unfold placed
      by_cases hc : c = 1
      · simp [hc]
      · have hin : ¬ (1 <= c ∧ c < 1 + (([] : List Byte).length : Int)) := by
          simp only [List.length_nil]
          omega
        rw [if_neg hin]
        simp [hc]
    rw [if_neg hpayload, if_pos (by omega), hbase, hnil]
    unfold place
    rw [hempty]
    rfl

end Daemon

/-!
## What the daemon writes itself
-/

def afterSpace (bytes : List Byte) : List Byte :=
  match bytes.findIdx? fun c => c = ascii ' ' with
  | some firstSpace => bytes.drop (firstSpace + 1)
  | none => []

def execArgument (payload : List Byte) : List Byte := afterSpace (afterSpace payload)

theorem length_afterSpace_le (bytes : List Byte) :
    (afterSpace bytes).length <= bytes.length := by
  unfold afterSpace
  split
  · rw [List.length_drop]
    omega
  · simp

/-- A request when the daemon has copied and parsed it and calls the system. -/
def commStored (k : Kernel sd) (t : TaskId) (cmdId : BitVec 16) (payload : List Byte) :
    Kernel sd :=
  let k := k.note (.dispatch cmdId payload)
  let (_, k) := k.commStorePayload t payload
  let k := k.modifyTask t fun task => { task with sp := -1 }
  if cmdId = SYS_EXEC then (k.commParseExec t payload).2 else k

/-- The accesses of `Comm_process` to the heap before its system call. -/
def commWrites (k : Kernel sd) (t : TaskId) (cmdId : BitVec 16) (payload : List Byte) :
    List Access :=
  if cmdId < 100#16 then (k.commStored t cmdId payload).log.drop k.log.length else []

theorem commRequest_other_eq (k : Kernel sd) (t : TaskId) {cmdId : BitVec 16}
    (payload : List Byte) (hcmd : cmdId ≠ SYS_EXEC) :
    k.commRequest t cmdId payload =
      if cmdId = SYS_LS then (k.commStored t cmdId payload).commLs t payload
      else if cmdId = SYS_CHDIR then (k.commStored t cmdId payload).commChdir t
        ((k.note (.dispatch cmdId payload)).commStorePayload t payload).1
      else if cmdId = SYS_GETCWD then (k.commStored t cmdId payload).commGetcwd t
      else k.commStored t cmdId payload := by
  unfold commRequest commStored
  simp only [if_neg hcmd]

/-!
## Which cells these are
-/

structure Writes (S : Int -> Prop) (k k' : Kernel sd) : Prop where
  logged : exists new, k'.log = k.log ++ new ∧ forall c, .heapWrite c ∈ new <-> S c
  kept : forall c, ¬ S c -> k'.globalHeap c = k.globalHeap c

section Writes

variable {S S' : Int -> Prop} {k k' k'' : Kernel sd}

theorem Writes.refl (k : Kernel sd) : Writes (fun _ => False) k k :=
  ⟨⟨[], by simp, by simp⟩, fun _ _ => rfl⟩

theorem Writes.trans (h : Writes S k k') (h' : Writes S' k' k'') :
    Writes (fun c => S c ∨ S' c) k k'' := by
  rcases h.logged with ⟨new, hlog, hnew⟩
  rcases h'.logged with ⟨new', hlog', hnew'⟩
  constructor
  · refine ⟨new ++ new', by rw [hlog', hlog, List.append_assoc], ?_⟩
    intro c
    rw [List.mem_append, hnew c, hnew' c]
  · intro c hc
    rw [h'.kept c fun hw => hc (Or.inr hw), h.kept c fun hw => hc (Or.inl hw)]

theorem Writes.congr (h : Writes S k k') (hS : forall c, S c <-> S' c) :
    Writes S' k k' := by
  have heq : S = S' := funext fun c => propext (hS c)
  rwa [heq] at h

theorem place_writes (k : Kernel sd) (base : Int) (bytes : List Byte) :
    Writes (fun c => base <= c ∧ c <= base + bytes.length) k (k.place base bytes) := by
  constructor
  · refine ⟨_, k.place_log base bytes, ?_⟩
    intro c
    rw [mem_writesAt]
    omega
  · intro c hc
    exact k.place_kept (by omega)

theorem modifyTask_writes (k : Kernel sd) (t : TaskId) (f : Task sd -> Task sd) :
    Writes (fun _ => False) k (k.modifyTask t f) :=
  ⟨⟨[], by simp [modifyTask], by simp⟩, fun _ _ => rfl⟩

theorem note_dispatch_writes (k : Kernel sd) (cmdId : BitVec 16) (payload : List Byte) :
    Writes (fun _ => False) k (k.note (.dispatch cmdId payload)) :=
  ⟨⟨[.dispatch cmdId payload], rfl, by simp⟩, fun _ _ => rfl⟩

theorem commStorePart_writes (hbase : (k.tasks 0).heapBase = 0) (offset : Int)
    (part : List Byte) (hfit : offset + part.length < GLOBAL_HEAP_SIZE) :
    Writes (fun c => 0 < part.length ∧ offset <= c ∧ c <= offset + part.length) k
      (k.commStorePart 0 offset part) := by
  rw [commStorePart_eq hbase hfit]
  by_cases hpart : part.length > 0
  · rw [if_pos hpart]
    apply (k.place_writes offset part).congr
    intro c
    omega
  · rw [if_neg hpart]
    apply (Writes.refl k).congr
    intro c
    constructor
    · exact False.elim
    · intro hc
      exact absurd hc.left hpart

end Writes

theorem commParseExec_writes {k : Kernel sd} (hbase : (k.tasks 0).heapBase = 0)
    (hlimit : (k.tasks 0).heapLimit = 128) {payload : List Byte}
    (hlen : payload.length <= 244) :
    exists S, Writes S k (k.commParseExec 0 payload).2 ∧
      (forall c, S c -> (1 <= c ∧ c <= 1 + payload.length) ∨
        64 <= c ∧ c <= 64 + (execArgument payload).length ∧
          0 < (execArgument payload).length) ∧
      (0 < (execArgument payload).length -> S (64 + (execArgument payload).length)) := by
  have hsize : (GLOBAL_HEAP_SIZE : Int) = 1024 := rfl
  unfold commParseExec execArgument
  cases hfirst : payload.findIdx? fun c => c = ascii ' ' with
  | none =>
      have hnil : afterSpace payload = [] := by simp [afterSpace, hfirst]
      have hnone : afterSpace (afterSpace payload) = [] := by
        rw [hnil]
        rfl
      simp only [commCopyToHeap_eq hbase hlimit hlen, hnone]
      refine ⟨_, k.place_writes 1 payload, fun c hc => Or.inl hc, ?_⟩
      intro hcontra
      simp at hcontra
  | some firstSpace =>
      have hrest : afterSpace payload = payload.drop (firstSpace + 1) := by
        simp [afterSpace, hfirst]
      simp only
      rw [← hrest]
      have hle := length_afterSpace_le payload
      generalize afterSpace payload = rest at hle ⊢
      cases hsecond : rest.findIdx? fun c => c = ascii ' ' with
      | none =>
          have hnone : afterSpace rest = [] := by simp [afterSpace, hsecond]
          simp only [hnone]
          refine ⟨_, commStorePart_writes hbase 1 rest (by omega), ?_, ?_⟩
          · intro c hc
            left
            omega
          · intro hcontra
            simp at hcontra
      | some cmdLen =>
          have harg : afterSpace rest = rest.drop (cmdLen + 1) := by
            simp [afterSpace, hsecond]
          have hargle := length_afterSpace_le rest
          simp only
          rw [← harg]
          have hcmdle : (rest.take cmdLen).length <= rest.length := List.length_take_le' ..
          have hcmd := commStorePart_writes hbase 1 (rest.take cmdLen) (by omega)
          have hbase' : ((k.commStorePart 0 1 (rest.take cmdLen)).tasks 0).heapBase =
              0 := by
            rw [(commStorePart_touches k 0 1 _).tasks]
            exact hbase
          have hparts := hcmd.trans
            (commStorePart_writes hbase' 64 (afterSpace rest) (by omega))
          refine ⟨_, hparts, ?_, ?_⟩
          · rintro c (hc | hc)
            · left
              omega
            · right
              omega
          · intro hpos
            right
            omega

/-- The condition on a request under which the daemon stays in its segment. -/
def StaysInSegment (cmdId : BitVec 16) (payload : List Byte) : Prop :=
  cmdId < 100#16 -> payload.length <= 126 ∧
    (cmdId = SYS_EXEC -> (execArgument payload).length <= 63)

theorem commStored_writes {k : Kernel sd} (hbase : (k.tasks 0).heapBase = 0)
    (hlimit : (k.tasks 0).heapLimit = 128) (cmdId : BitVec 16) {payload : List Byte}
    (hlen : payload.length <= 244) :
    exists S, Writes S k (k.commStored 0 cmdId payload) ∧
      (forall c, S c -> (1 <= c ∧ c <= 1 + payload.length) ∨
        cmdId = SYS_EXEC ∧ 64 <= c ∧ c <= 64 + (execArgument payload).length ∧
          0 < (execArgument payload).length) ∧
      S (1 + payload.length) ∧
      (cmdId = SYS_EXEC -> 0 < (execArgument payload).length ->
        S (64 + (execArgument payload).length)) := by
  have hnoted := k.note_dispatch_writes cmdId payload
  have hstored := commStorePayload_eq (k := k.note (.dispatch cmdId payload)) hbase hlimit
    hlen
  have hplaced := (hnoted.trans (place_writes _ 1 payload)).trans
    (modifyTask_writes _ 0 fun task => { task with sp := -1 })
  have hready : exists S, Writes S k (((k.note (.dispatch cmdId payload)).place 1
      payload).modifyTask 0 fun task => { task with sp := -1 }) ∧
        forall c, S c <-> 1 <= c ∧ c <= 1 + payload.length := by
    refine ⟨_, hplaced, ?_⟩
    intro c
    simp only [false_or, or_false]
  rcases hready with ⟨S, hready, hS⟩
  have hbase₁ : ((((k.note (.dispatch cmdId payload)).place 1 payload).modifyTask 0
      fun task => { task with sp := -1 }).tasks 0).heapBase = 0 := by
    simp [modifyTask, hbase]
  have hlimit₁ : ((((k.note (.dispatch cmdId payload)).place 1 payload).modifyTask 0
      fun task => { task with sp := -1 }).tasks 0).heapLimit = 128 := by
    simp [modifyTask, hlimit]
  unfold commStored
  simp only [hstored]
  generalize ((k.note (.dispatch cmdId payload)).place 1 payload).modifyTask 0
    (fun task => { task with sp := -1 }) = k₁ at hready hbase₁ hlimit₁ ⊢
  by_cases hexec : cmdId = SYS_EXEC
  · rw [if_pos hexec]
    rcases commParseExec_writes hbase₁ hlimit₁ hlen with ⟨S', hparsed, hbound, harg⟩
    refine ⟨_, hready.trans hparsed, ?_, ?_, ?_⟩
    · rintro c (hc | hc)
      · exact Or.inl ((hS c).mp hc)
      · rcases hbound c hc with hin | hin
        · exact Or.inl hin
        · exact Or.inr ⟨hexec, hin⟩
    · exact Or.inl ((hS _).mpr (by omega))
    · exact fun _ hpos => Or.inr (harg hpos)
  · rw [if_neg hexec]
    refine ⟨S, hready, ?_, ?_, ?_⟩
    · exact fun c hc => Or.inl ((hS c).mp hc)
    · exact (hS _).mpr (by omega)
    · exact fun hcontra => absurd hcontra hexec

/--
With a packet of any kind in any reachable state, what the daemon writes itself
stays in its segment, and so out of the cells of the others, if and only if
payload and argument are short enough.
-/
theorem request_writes_in_segment {k : Kernel sd} (hk : Reachable k) (hal : Hal)
    (rxBuffer : Buffer) (cmdId : BitVec 16) {payload : List Byte}
    (hlen : payload.length <= 244) :
    ((forall c, .heapWrite c ∈ (k.polled hal rxBuffer).commWrites 0 cmdId payload ->
        c ∈ k.records.cells (.segment 0)) ∧
      (cmdId < 100#16 -> forall u, u ≠ 0 -> forall c, k.records.Owned u c ->
        ((k.polled hal rxBuffer).commStored 0 cmdId payload).globalHeap c =
          k.globalHeap c)) <->
      StaysInSegment cmdId payload := by
  have hdaemon := hk.daemon.right
  have hbase : ((k.polled hal rxBuffer).tasks 0).heapBase = 0 := hdaemon.base
  have hlimit : ((k.polled hal rxBuffer).tasks 0).heapLimit = 128 := hdaemon.limit
  have hcells := cells_of_block hdaemon.block
  rcases commStored_writes hbase hlimit cmdId hlen with ⟨S, hwrites, hbound, hpayload, harg⟩
  rcases hwrites.logged with ⟨new, hlog, hnew⟩
  unfold commWrites StaysInSegment
  by_cases hrequest : cmdId < 100#16
  · rw [if_pos hrequest, hlog, List.drop_left]
    constructor
    · rintro ⟨hsegment, _⟩ _
      have hcell : forall c, S c -> c < 128 := by
        intro c hc
        have hmem := hsegment c ((hnew c).mpr hc)
        rw [hcells] at hmem
        exact hmem.right
      constructor
      · have hlast := hcell _ hpayload
        omega
      · intro hexec
        by_cases hpos : 0 < (execArgument payload).length
        · have hlast := hcell _ (harg hexec hpos)
          omega
        · omega
    · intro hstays
      rcases hstays hrequest with ⟨hshort, hargument⟩
      have hin : forall c, S c -> 0 <= c ∧ c < 128 := by
        intro c hc
        rcases hbound c hc with hin | ⟨hexec, hin⟩
        · omega
        · have hle := hargument hexec
          omega
      constructor
      · intro c hc
        rw [hcells]
        exact hin c ((hnew c).mp hc)
      · intro _ u hu c hc
        have hkept : ((k.polled hal rxBuffer).commStored 0 cmdId payload).globalHeap c =
            (k.polled hal rxBuffer).globalHeap c := by
          apply hwrites.kept
          intro hS
          apply hk.heapSound.not_owned hu hc
          refine ⟨.segment 0, rfl, ?_⟩
          rw [hcells]
          exact hin c hS
        exact hkept
  · rw [if_neg hrequest]
    constructor
    · exact fun _ hcontra => absurd hcontra hrequest
    · intro _
      refine ⟨?_, fun hcontra => absurd hcontra hrequest⟩
      intro c hcontra
      simp at hcontra

/-- A change of directory stays in the segment. -/
theorem request_writes_in_segment_chdir :
    (forall c, .heapWrite c ∈ ((storing 3#8).polled Hal.reset fun _ => 0#8).commWrites 0
        SYS_CHDIR (text "/bin") -> c ∈ (storing 3#8).records.cells (.segment 0)) ∧
      (SYS_CHDIR < 100#16 -> forall u, u ≠ 0 -> forall c,
        (storing 3#8).records.Owned u c ->
          (((storing 3#8).polled Hal.reset fun _ => 0#8).commStored 0 SYS_CHDIR
            (text "/bin")).globalHeap c = (storing 3#8).globalHeap c) :=
  (request_writes_in_segment (k := storing 3#8) ⟨_, _, rfl⟩ Hal.reset (fun _ => 0#8)
    SYS_CHDIR (by decide)).mpr fun _ => ⟨by decide, fun hcontra => by cases hcontra⟩

/-- The NUL of a payload is written wherever the payload ends. -/
theorem Reachable.writes_end {k : Kernel sd} (hk : Reachable k) (hal : Hal)
    (rxBuffer : Buffer) {cmdId : BitVec 16} (hrequest : cmdId < 100#16)
    {payload : List Byte} (hlen : payload.length <= 244) :
    .heapWrite (1 + payload.length) ∈
      (k.polled hal rxBuffer).commWrites 0 cmdId payload := by
  have hdaemon := hk.daemon.right
  rcases commStored_writes (k := k.polled hal rxBuffer) hdaemon.base hdaemon.limit cmdId
    hlen with ⟨S, hwrites, _, hpayload, _⟩
  rcases hwrites.logged with ⟨new, hlog, hnew⟩
  unfold commWrites
  rw [if_pos hrequest, hlog, List.drop_left]
  exact (hnew _).mpr hpayload

def longPayload : List Byte := List.replicate 128 (ascii 'a')

set_option maxRecDepth 4000 in
/-- It overwrites the first cell of the program in slot 1. -/
theorem long_request_leaves_segment :
    Reachable (storing 3#8) ∧
      .heapWrite 129 ∈ ((storing 3#8).polled Hal.reset fun _ => 0#8).commWrites 0
        SYS_GETCWD longPayload ∧
      129 ∉ (storing 3#8).records.cells (.segment 0) ∧
      (storing 3#8).records.Owned 1 128 ∧
      (storing 3#8).globalHeap 128 = 0 ∧
      (((storing 3#8).polled Hal.reset fun _ => 0#8).commStored 0 SYS_GETCWD
        longPayload).globalHeap 128 = 97 := by
  have hreach : Reachable (storing 3#8) := ⟨_, _, rfl⟩
  have hblock : (storing 3#8).records.block (.segment 1) = some (128, 16) ∧
      (storing 3#8).globalHeap 128 = 0 := by decide +kernel
  have hstored : (((storing 3#8).polled Hal.reset fun _ => 0#8).commStored 0 SYS_GETCWD
      longPayload).globalHeap 128 = 97 := by decide +kernel
  have hlen : longPayload.length = 128 := List.length_replicate
  have hend := hreach.writes_end Hal.reset (fun _ => 0#8)
    (show SYS_GETCWD < 100#16 by decide) (show longPayload.length <= 244 by omega)
  rw [hlen] at hend
  refine ⟨hreach, hend, ?_, ?_, hblock.right, hstored⟩
  · rw [cells_of_block hreach.daemon.right.block]
    decide
  · refine ⟨.segment 1, rfl, ?_⟩
    rw [cells_of_block hblock.left]
    decide

end Kernel
end ArduOS
