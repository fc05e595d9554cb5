import ArduOS.Kernel.Directories
import ArduOS.Kernel.Rendering
import ArduOS.Kernel.SyscallBounds

/-!
# Down and up again

`Syscall_chdir` joins a name to the working directory, and takes the last name
off for `..`.  As long as everything fits, each `..` gives the directory that
was left last, and the buffer of the caller tells the new one each time.
-/

namespace ArduOS

open Library

/-- A name that stands for an entry of a directory. -/
structure EntryName (name : List Byte) : Prop where
  nonempty : name ≠ []
  noSlash : ascii '/' ∉ name
  notHere : name ≠ text "."
  notUp : name ≠ text ".."

theorem pathOf_wellFormed {names : List (List Byte)}
    (hfits : (pathOf (ascii '/') names).length <= 31) :
    WellFormedCwd (pathOf (ascii '/') names) :=
  ⟨by omega, head?_pathOf .., getLast?_pathOf ..⟩

namespace Kernel

variable {sd : SdFat}

theorem enteredCwd_dirPath {names : List (List Byte)}
    (hnames : forall name, name ∈ names -> name ≠ [] ∧ ascii '/' ∉ name)
    (hfits : (pathOf (ascii '/') names).length <= 31) :
    enteredCwd (dirPath (ascii '/') names) = pathOf (ascii '/') names := by
  have hsame := withSep_dirPath hnames
  have hlen := length_le_withSep (ascii '/') (dirPath (ascii '/') names)
  rw [hsame] at hlen
  rw [enteredCwd_eq, List.take_of_length_le (by omega), hsame]

theorem parentPath_pathOf {names : List (List Byte)} {name : List Byte}
    (hslash : ascii '/' ∉ name) :
    parentPath (pathOf (ascii '/') (names ++ [name])) = dirPath (ascii '/') names := by
  have hne : pathOf (ascii '/') names ++ name ≠ [] := by simp [pathOf]
  have hsplit : withoutSep (ascii '/') (pathOf (ascii '/') (names ++ [name])) =
      (pathOf (ascii '/') names).dropLast ++ ascii '/' :: name := by
    rw [pathOf_concat, withoutSep_concat hne, pathOf_eq_concat]
    simp
  rw [parentPath_eq hsplit hslash]
  cases names using List.reverseRecOn with
  | nil => rfl
  | append_singleton names' name' =>
      rw [dirPath_concat, pathOf_concat, List.dropLast_concat]
      apply if_neg
      simp [pathOf]

/-!
## Targets
-/

section Targets

variable {k : Kernel sd} {t : TaskId} {names : List (List Byte)} {name : List Byte}

theorem chdirGoal_into (hfits : (pathOf (ascii '/') names).length <= 31)
    (hcwd : (k.tasks t).cwd = pathOf (ascii '/') names) (hpath : k.chdirPath t = name)
    (hname : EntryName name) : k.chdirGoal t = dirPath (ascii '/') (names ++ [name]) := by
  have hformed : WellFormedCwd (k.tasks t).cwd := by
    rw [hcwd]
    exact pathOf_wellFormed hfits
  have hrelative : name.head? ≠ some (ascii '/') := by
    intro hhead
    exact hname.noSlash (List.mem_of_mem_head? hhead)
  have hup : k.chdirPath t ≠ text ".." := by
    rw [hpath]
    exact hname.notUp
  have hhere : k.chdirPath t ≠ text "." := by
    rw [hpath]
    exact hname.notHere
  rw [chdirGoal_named hformed hup hhere, hpath, hcwd, dirPath_concat]
  exact if_neg hrelative

theorem chdirGoal_above (hcwd : (k.tasks t).cwd = pathOf (ascii '/') (names ++ [name]))
    (hpath : k.chdirPath t = text "..") (hslash : ascii '/' ∉ name) :
    k.chdirGoal t = dirPath (ascii '/') names := by
  unfold chdirGoal chdirTarget
  rw [if_pos hpath, hcwd, parentPath_pathOf hslash]

end Targets

/-!
## The result buffer
-/

theorem writeString_globalHeap (k : Kernel sd) {addr : Int} {str : List Byte}
    (hlo : 0 <= addr) (hfit : addr + str.length < GLOBAL_HEAP_SIZE) :
    (k.writeString addr str).globalHeap =
      stored k.globalHeap addr (str.map ofChar ++ [0]) := by
  have h1024 : (GLOBAL_HEAP_SIZE : Int) = 1024 := rfl
  have hcell : forall i : Nat, i <= str.length ->
      int16 (addr + i) = addr + i ∧ addr + i < GLOBAL_HEAP_SIZE := by
    intro i hi
    exact ⟨int16_eq_self (by omega) (by omega), by omega⟩
  have hloop : (forLoop str.length (fun i k =>
      Kernel.heapSetBelow k (int16 (addr + i)) (ofChar (bufferOf str i))) k).globalHeap =
        stored k.globalHeap addr ((str.take str.length).map ofChar) := by
    apply forLoop_invariant (fun i (k' : Kernel sd) =>
      k'.globalHeap = stored k.globalHeap addr ((str.take i).map ofChar))
    · simp
    · intro i k' hi hk'
      rcases hcell i (Nat.le_of_lt hi) with ⟨hsame, hbelow⟩
      have hchar : str[i] = bufferOf str i := by simp [bufferOf, List.getD, hi]
      have hlen : ((str.take i).map ofChar).length = i := by
        rw [List.length_map, List.length_take]
        omega
      have hnext := stored_snoc k.globalHeap addr ((str.take i).map ofChar)
        (ofChar (bufferOf str i))
      rw [hlen] at hnext
      unfold heapSetBelow
      rw [hsame, if_pos hbelow, heapSet_globalHeap, hk', hnext,
        List.take_succ_eq_append_getElem hi, hchar]
      simp
  rcases hcell str.length (Nat.le_refl _) with ⟨hsame, hbelow⟩
  have hend := stored_snoc k.globalHeap addr (str.map ofChar) 0
  rw [List.length_map] at hend
  rw [List.take_length] at hloop
  unfold writeString
  simp only
  unfold heapSetBelow at hloop ⊢
  rw [hsame, if_pos hbelow, heapSet_globalHeap, hloop, hend]

/-- The result buffer lies in the segment and is long enough for `len` characters. -/
def BufferInSegment (k : Kernel sd) (t : TaskId) (len : Nat) : Prop :=
  k.operand t 1 ≠ 0 ∧ 0 <= k.operand t 1 ∧ k.operand t 1 + len < (k.tasks t).heapLimit

/-- After the call the caller finds this string in its result buffer. -/
structure BufferHolds (k : Kernel sd) (t : TaskId) (str : List Byte) : Prop where
  chars : forall (i : Nat) c, str[i]? = some c ->
    (k.syscallChdir t).globalHeap (k.getPhysAddr t (k.operand t 1 + i)) = ofChar c
  terminator :
    (k.syscallChdir t).globalHeap (k.getPhysAddr t (k.operand t 1 + str.length)) = 0

theorem bufferHolds_cwd {k : Kernel sd} {t : TaskId} (hseg : SegmentInHeap k t)
    (harg : k.operand t 0 ≠ 0) (henter : k.Enterable (k.chdirGoal t))
    (hbuffer : BufferInSegment k t (enteredCwd (k.chdirGoal t)).length) :
    BufferHolds k t (enteredCwd (k.chdirGoal t)) := by
  rcases k.syscallChdir_checked t harg with ⟨k', _, hheap, hentered, _⟩
  have hcall := hentered henter
  rw [if_pos hbuffer.left] at hcall
  generalize enteredCwd (k.chdirGoal t) = str at hbuffer hcall ⊢
  rcases hbuffer with ⟨_, hlo, hhi⟩
  have hphys : forall i : Nat, i <= str.length ->
      k.getPhysAddr t (k.operand t 1 + i) = k.getPhysAddr t (k.operand t 1) + i := by
    intro i hi
    unfold getPhysAddr
    rw [if_pos ⟨by omega, by omega⟩, if_pos ⟨hlo, by omega⟩]
    omega
  have hfirst := hseg (k.operand t 1) hlo (by omega)
  have hlast := hseg (k.operand t 1 + str.length) (by omega) hhi
  have haddr : k.getPhysAddr t (k.operand t 1) = (k.tasks t).heapBase + k.operand t 1 := by
    unfold getPhysAddr
    rw [if_pos ⟨hlo, by omega⟩]
  have hwritten : (k.syscallChdir t).globalHeap =
      stored k.globalHeap (k.getPhysAddr t (k.operand t 1)) (str.map ofChar ++ [0]) := by
    rw [hcall, writeString_globalHeap _ (by omega) (by omega),
      (k'.chdirEnter_task t (k.chdirGoal t)).right.right.right, hheap]
  constructor
  · intro i c hc
    have hi : i < str.length := (List.getElem?_eq_some_iff.mp hc).choose
    rw [hphys i (by omega), hwritten, stored_at,
      List.getElem?_append_left (by rw [List.length_map]; exact hi), List.getElem?_map, hc]
    rfl
  · rw [hphys str.length (Nat.le_refl _), hwritten, stored_at]
    simp

/-!
## A call in a run
-/

/-- Until `Syscall_chdir` is called, a turn has changed no record. -/
theorem CallsChdir.records {k k' : Kernel sd} {t : TaskId} (hcall : CallsChdir k t k') :
    k'.records = k.records := by
  cases hcall with
  | program hturn hop hsp hid =>
      rw [records_stackPop, fetchByte_records hop]
      exact dispatches_records hturn
  | request hrunnable hread hresult hcmd =>
      rename_i r hal
      have hstored := (commStorePayload_touches ((k.polled hal r.payloadOut).note
        (.dispatch SYS_CHDIR (bytesOf r.payloadOut r.result.toNat))) 0
        (bytesOf r.payloadOut r.result.toNat)).records
      unfold requestedChdir
      simp only
      rw [records_stackPush, records_stackPush, records_modifyTask_same _ _ rfl, hstored]
      exact records_note _ (by simp)

theorem CallsChdir.runnable {k k' : Kernel sd} {t : TaskId} (hcall : CallsChdir k t k') :
    (k.tasks t).isRunnable = true := by
  cases hcall with
  | program hturn hop hsp hid => exact (dispatches_cases hturn).left
  | request hrunnable hread hresult hcmd => exact hrunnable

theorem CallsChdir.segmentInHeap {k k' : Kernel sd} {t : TaskId} (hk : Reachable k)
    (hcall : CallsChdir k t k') : SegmentInHeap k' t := by
  have hactive : (k.tasks t).taskState ≠ .free := by
    have hrunnable := hcall.runnable
    intro hfree
    simp [Task.isRunnable, hfree] at hrunnable
  have htask := congrArg (fun r => r.task t) hcall.records
  have hbase := congrArg TaskRecord.heapBase htask
  have hlimit := congrArg TaskRecord.heapLimit htask
  exact (hk.segmentInHeap hactive).congr hbase hlimit

/-!
## Down and up
-/

/--
`t` changes into directories with these names, one after the other, and then as
often to `..`; the calls are made in the states `k 0`, `k 1`, ..., and each finds
the working directory that the call before it has left.
-/
structure Excursion (k : Nat -> Kernel sd) (t : TaskId) (base names : List (List Byte)) :
    Prop where
  reached : forall i, i < 2 * names.length ->
    exists k', Reachable k' ∧ CallsChdir k' t (k i)
  start : ((k 0).tasks t).cwd = pathOf (ascii '/') base
  next : forall i, i + 1 < 2 * names.length ->
    ((k (i + 1)).tasks t).cwd = (((k i).syscallChdir t).tasks t).cwd
  given : forall i, i < 2 * names.length -> (k i).operand t 0 ≠ 0
  down : forall i name, names[i]? = some name -> (k i).chdirPath t = name
  up : forall i, names.length <= i -> i < 2 * names.length ->
    (k i).chdirPath t = text ".."
  /-- Every directory on the way opens as a directory. -/
  opens : forall i, i < 2 * names.length -> forall depth, depth <= names.length ->
    (k i).Enterable (dirPath (ascii '/') (base ++ names.take depth))

def depthAfter (names : List (List Byte)) (i : Nat) : Nat := min i (2 * names.length - i)

def cwdAfter (base names : List (List Byte)) (i : Nat) : List Byte :=
  pathOf (ascii '/') (base ++ names.take (depthAfter names i))

section Excursion

variable {k : Nat -> Kernel sd} {t : TaskId} {base names : List (List Byte)}

theorem length_cwdAfter (base names : List (List Byte)) (i : Nat) :
    (cwdAfter base names i).length <= (pathOf (ascii '/') (base ++ names)).length := by
  have hlonger := length_pathOf_append (ascii '/')
    (base ++ names.take (depthAfter names i)) (names.drop (depthAfter names i))
  rw [List.append_assoc, List.take_append_drop] at hlonger
  exact hlonger

variable (hnames : forall name, name ∈ names -> EntryName name)
  (hfits : (pathOf (ascii '/') (base ++ names)).length <= 31)
  (h : Excursion k t base names)

include hnames hfits h

theorem Excursion.goal {i : Nat} (hi : i < 2 * names.length)
    (hcwd : ((k i).tasks t).cwd = cwdAfter base names i) :
    (k i).chdirGoal t =
      dirPath (ascii '/') (base ++ names.take (depthAfter names (i + 1))) := by
  by_cases hdown : i < names.length
  · have hdepth : depthAfter names i = i := by
      unfold depthAfter
      omega
    have hdeeper : depthAfter names (i + 1) = i + 1 := by
      unfold depthAfter
      omega
    have hshort := length_cwdAfter base names i
    have hpath := h.down i _ (List.getElem?_eq_getElem hdown)
    unfold cwdAfter at hcwd hshort
    rw [hdepth] at hcwd hshort
    rw [hdeeper, List.take_succ_eq_append_getElem hdown, ← List.append_assoc]
    exact chdirGoal_into (by omega) hcwd hpath (hnames _ (List.getElem_mem hdown))
  · -- the name that was entered last is taken off
    have hlast : depthAfter names (i + 1) < names.length := by
      unfold depthAfter
      omega
    have hdepth : depthAfter names i = depthAfter names (i + 1) + 1 := by
      unfold depthAfter
      omega
    unfold cwdAfter at hcwd
    rw [hdepth, List.take_succ_eq_append_getElem hlast, ← List.append_assoc] at hcwd
    exact chdirGoal_above hcwd (h.up i (by omega) hi)
      (hnames _ (List.getElem_mem hlast)).noSlash

variable (hbase : forall name, name ∈ base -> name ≠ [] ∧ ascii '/' ∉ name)

include hbase

theorem Excursion.call {i : Nat} (hi : i < 2 * names.length)
    (hcwd : ((k i).tasks t).cwd = cwdAfter base names i) :
    (((k i).syscallChdir t).tasks t).cwd = cwdAfter base names (i + 1) ∧
      (BufferInSegment (k i) t (cwdAfter base names (i + 1)).length ->
        BufferHolds (k i) t (cwdAfter base names (i + 1))) := by
  have hgoal := h.goal hnames hfits hi hcwd
  have hopens := h.opens i hi (depthAfter names (i + 1)) (by unfold depthAfter; omega)
  have hshort := length_cwdAfter base names (i + 1)
  have hentered : enteredCwd ((k i).chdirGoal t) = cwdAfter base names (i + 1) := by
    rw [hgoal]
    apply enteredCwd_dirPath
    · intro name hname
      rcases List.mem_append.mp hname with hold | hnew
      · exact hbase name hold
      · have hentry := hnames name (List.mem_of_mem_take hnew)
        exact ⟨hentry.nonempty, hentry.noSlash⟩
    · exact Nat.le_trans hshort hfits
  rw [← hgoal] at hopens
  rcases h.reached i hi with ⟨k', hreach, hcall⟩
  have hbuffer := bufferHolds_cwd (hcall.segmentInHeap hreach) (h.given i hi) hopens
  rw [hentered] at hbuffer
  refine ⟨?_, hbuffer⟩
  rw [(syscallChdir_entered (h.given i hi) hopens).caller, hentered]

theorem Excursion.cwd : forall i, i < 2 * names.length ->
    ((k i).tasks t).cwd = cwdAfter base names i := by
  intro i
  induction i with
  | zero =>
      intro _
      rw [h.start]
      simp [cwdAfter, depthAfter]
  | succ i ih =>
      intro hi
      rw [h.next i hi]
      exact (h.call hnames hfits hbase (by omega) (ih (by omega))).left

end Excursion

/--
After changing into `k` directories, one below the other, `k` times `..` goes
back through the same working directories to the first one, and after each call
the result buffer holds the new working directory.
-/
theorem cd_up_undoes_cd {k : Nat -> Kernel sd} {t : TaskId} {base names : List (List Byte)}
    (hbase : forall name, name ∈ base -> name ≠ [] ∧ ascii '/' ∉ name)
    (hnames : forall name, name ∈ names -> EntryName name)
    (hfits : (pathOf (ascii '/') (base ++ names)).length <= 31)
    (h : Excursion k t base names) :
    (forall i, i < names.length ->
      (((k (names.length + i)).syscallChdir t).tasks t).cwd =
        ((k (names.length - 1 - i)).tasks t).cwd) ∧
    (forall i, i < 2 * names.length ->
      (((k i).syscallChdir t).tasks t).cwd = cwdAfter base names (i + 1)) ∧
    cwdAfter base names (2 * names.length) = pathOf (ascii '/') base ∧
    forall i, i < 2 * names.length ->
      BufferInSegment (k i) t (((k i).syscallChdir t).tasks t).cwd.length ->
        BufferHolds (k i) t (((k i).syscallChdir t).tasks t).cwd := by
  have hcwd := h.cwd hnames hfits hbase
  have hcall := fun i (hi : i < 2 * names.length) =>
    h.call hnames hfits hbase hi (hcwd i hi)
  refine ⟨?_, fun i hi => (hcall i hi).left, ?_, ?_⟩
  · intro i hi
    rw [(hcall (names.length + i) (by omega)).left, hcwd _ (by omega)]
    have hsame : depthAfter names (names.length + i + 1) =
        depthAfter names (names.length - 1 - i) := by
      unfold depthAfter
      omega
    unfold cwdAfter
    rw [hsame]
  · simp [cwdAfter, depthAfter]
  · intro i hi hbuffer
    rw [(hcall i hi).left] at hbuffer ⊢
    exact (hcall i hi).right hbuffer

/-- The host asks for the daemon to change into `bin`, into `sub` in it, and back again. -/
def excursionRequest : Nat -> SentPacket
  | 0 => sentPacket SP_UNFRAGED PT_STRING SYS_CHDIR (text "bin") chdirArguments (by decide)
  | 1 => sentPacket SP_UNFRAGED PT_STRING SYS_CHDIR (text "sub") chdirArguments (by decide)
  | _ => sentPacket SP_UNFRAGED PT_STRING SYS_CHDIR (text "..") chdirArguments (by decide)

def binCard : CardImage.sdFat.Card :=
  { files := []
    directories := [(text "/bin", []), (text "/bin/sub", [])]
    opensLeft := 4 }

def requestEvents : Nat -> List Event
  | 0 => [.arrive (excursionRequest 0).bytes]
  | i + 1 =>
      requestEvents i ++ [.turn, .turn, .turn, .arrive (excursionRequest (i + 1)).bytes]

def requested (i : Nat) : Kernel CardImage.sdFat := (boot binCard).run (requestEvents i)

def daemonCall (k : Kernel sd) : Kernel sd :=
  let (r, hal) := k.hal.readPacket 0#16 k.rxBuffer RX_BUFFER_SIZE
  (k.polled hal r.payloadOut).requestedChdir (bytesOf r.payloadOut r.result.toNat)

theorem daemonCall_calls {k : Kernel sd} (hrunnable : (k.tasks 0).isRunnable = true)
    (hresult : (k.hal.readPacket 0#16 k.rxBuffer RX_BUFFER_SIZE).1.result >= 0)
    (hcmd : (k.hal.readPacket 0#16 k.rxBuffer RX_BUFFER_SIZE).1.cmdOut = SYS_CHDIR) :
    CallsChdir k 0 k.daemonCall :=
  .request hrunnable rfl hresult hcmd

def binCalls (i : Nat) : Kernel CardImage.sdFat := (requested i).daemonCall

theorem binCalls_reached {i : Nat}
    (h : ((requested i).tasks 0).isRunnable = true ∧
      ((requested i).hal.readPacket 0#16 (requested i).rxBuffer RX_BUFFER_SIZE).1.result >=
        0 ∧
      ((requested i).hal.readPacket 0#16 (requested i).rxBuffer RX_BUFFER_SIZE).1.cmdOut =
        SYS_CHDIR) :
    exists k', Reachable k' ∧ CallsChdir k' 0 (binCalls i) :=
  ⟨requested i, ⟨_, _, rfl⟩, daemonCall_calls h.left h.right.left h.right.right⟩

set_option maxRecDepth 4000 in
theorem binCalls_excursion : Excursion binCalls 0 [] [text "bin", text "sub"] := by
  have hreached : forall i, i < 4 -> ((requested i).tasks 0).isRunnable = true ∧
      ((requested i).hal.readPacket 0#16 (requested i).rxBuffer RX_BUFFER_SIZE).1.result >=
        0 ∧
      ((requested i).hal.readPacket 0#16 (requested i).rxBuffer RX_BUFFER_SIZE).1.cmdOut =
        SYS_CHDIR := by decide +kernel
  have hcalls : forall i, i < 4 -> (binCalls i).operand 0 0 ≠ 0 ∧
      ((binCalls i).chdirCheck (text "/bin")).1 = true ∧
      ((binCalls i).chdirCheck (text "/bin/sub")).1 = true ∧
      (binCalls i).chdirPath 0 = (excursionRequest i).content.2 := by
    decide +kernel
  have hcwd : ((binCalls 0).tasks 0).cwd = text "/" ∧ forall i, i < 3 ->
      ((binCalls (i + 1)).tasks 0).cwd = (((binCalls i).syscallChdir 0).tasks 0).cwd := by
    decide +kernel
  constructor
  · intro i hi
    exact binCalls_reached (hreached i hi)
  · exact hcwd.left
  · intro i hi
    exact hcwd.right i (Nat.lt_of_succ_lt_succ hi)
  · intro i hi
    exact (hcalls i hi).left
  · intro i name hname
    cases i with
    | zero =>
        rw [(hcalls 0 (by decide)).right.right.right]
        exact Option.some.inj hname
    | succ i =>
        cases i with
        | zero =>
            rw [(hcalls 1 (by decide)).right.right.right]
            exact Option.some.inj hname
        | succ i => cases hname
  · intro i hlo hi
    rw [(hcalls i hi).right.right.right]
    rcases Nat.exists_eq_add_of_le' hlo with ⟨j, rfl⟩
    rfl
  · intro i hi depth hdepth
    have hdepths : depth = 0 ∨ depth = 1 ∨ depth = 2 := by
      simp only [List.length_cons, List.length_nil] at hdepth
      omega
    rcases hdepths with rfl | rfl | rfl
    · exact .inl rfl
    · exact (chdirCheck_fst _ _).mp (hcalls i hi).right.left
    · exact (chdirCheck_fst _ _).mp (hcalls i hi).right.right.left

set_option maxRecDepth 4000 in
/-- From `/bin/sub/` the first `..` goes back to `/bin/`, and says so. -/
theorem cd_up_undoes_cd_bin :
    (((binCalls 2).syscallChdir 0).tasks 0).cwd = ((binCalls 1).tasks 0).cwd ∧
      (((binCalls 3).syscallChdir 0).tasks 0).cwd = ((binCalls 0).tasks 0).cwd ∧
      BufferHolds (binCalls 2) 0 (text "/bin/") := by
  have hentry : forall name, name ∈ [text "bin", text "sub"] -> EntryName name := by
    intro name hname
    rcases List.mem_pair.mp hname with rfl | rfl
    · constructor <;> decide
    · constructor <;> decide
  have hundone := cd_up_undoes_cd (fun name hname => by cases hname) hentry (by decide)
    binCalls_excursion
  have hfirst := hundone.left 0 (by decide)
  have hsecond := hundone.left 1 (by decide)
  simp only [List.length_cons, List.length_nil, Nat.reduceAdd, Nat.reduceSub]
    at hfirst hsecond
  refine ⟨hfirst, hsecond, ?_⟩
  have hafter : (((binCalls 2).syscallChdir 0).tasks 0).cwd = text "/bin/" ∧
      (binCalls 2).operand 0 1 = 64 ∧ ((binCalls 2).tasks 0).heapLimit = 128 := by
    decide +kernel
  rcases hafter with ⟨hcwd, hbuffer, hlimit⟩
  have hinside : BufferInSegment (binCalls 2) 0 (text "/bin/").length := by
    unfold BufferInSegment
    rw [hbuffer, hlimit]
    decide
  have htold := hundone.right.right.right 2 (by decide)
  rw [hcwd] at htold
  exact htold hinside

end Kernel
end ArduOS
