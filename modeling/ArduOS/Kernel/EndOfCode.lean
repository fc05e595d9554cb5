import ArduOS.Kernel.Fetching
import ArduOS.Kernel.OwnSteps
import ArduOS.Kernel.AllOrNothing
import ArduOS.Kernel.CardImage

/-!
# The end of the code inside an instruction

A fetch that finds the file at its end terminates the task and returns zero, and
the instruction goes on.  Whatever it still does stays in the slot, a second
termination finds nothing to do, and the next program in the slot starts afresh.
-/

namespace ArduOS

open Library Records

namespace Kernel

variable {sd : SdFat}

def AtEnd (k : Kernel sd) (t : TaskId) : Prop :=
  (k.tasks t).bufferIndex >= CODE_BUFFER_SIZE ∧
    (k.tasks t).file.any sd.available = false

/-- The low or the high byte of the operand that is fetched next. -/
def OperandBeyond (k : Kernel sd) (t : TaskId) : Prop :=
  k.AtEnd t ∨ (k.fetchByte t).2.AtEnd t

section Ending

variable {t : TaskId} {k k' k'' : Kernel sd}

/-!
## Steps inside a slot, and the end of a task
-/

/-- Of heap, bitmap and tasks nothing changes but what slot `t` keeps for itself. -/
structure Aside (t : TaskId) (k k' : Kernel sd) : Prop where
  records : k'.records = k.records
  heap : k'.globalHeap = k.globalHeap
  others : forall u, u ≠ t -> k'.tasks u = k.tasks u

def wokenBy (t : TaskId) (task : Task sd) : Task sd :=
  if task.getWaitingFor = t.val then task.setRunning else task

structure Terminated (t : TaskId) (k k' : Kernel sd) : Prop where
  exits : Exits t k.records k'.records
  heap : k'.globalHeap = k.globalHeap
  others : forall u, u ≠ t -> k'.tasks u = wokenBy t (k.tasks u)

theorem Aside.trans (h : Aside t k k') (h' : Aside t k' k'') : Aside t k k'' :=
  ⟨h'.records.trans h.records, h'.heap.trans h.heap,
    fun u hu => (h'.others u hu).trans (h.others u hu)⟩

theorem aside_of_own (hrecords : k'.records = k.records)
    (hheap : k'.globalHeap = k.globalHeap) (h : OwnStep t k k') : Aside t k k' :=
  ⟨hrecords, hheap, h.others⟩

theorem Terminated.after (h : Aside t k k') (h' : Terminated t k' k'') :
    Terminated t k k'' := by
  constructor
  · rw [← h.records]
    exact h'.exits
  · exact h'.heap.trans h.heap
  · intro u hu
    rw [h'.others u hu, h.others u hu]

theorem Terminated.aside (h : Terminated t k k') (h' : Aside t k' k'') :
    Terminated t k k'' := by
  constructor
  · rw [h'.records]
    exact h.exits
  · exact h'.heap.trans h.heap
  · intro u hu
    rw [h'.others u hu, h.others u hu]

theorem wokenBy_wokenBy (t : TaskId) (task : Task sd) :
    wokenBy t (wokenBy t task) = wokenBy t task := by
  unfold wokenBy
  by_cases hwaits : task.getWaitingFor = t.val
  · rw [if_pos hwaits]
    split <;> rfl
  · rw [if_neg hwaits, if_neg hwaits]

theorem Terminated.again (h : Terminated t k k') (h' : Terminated t k' k'') :
    Terminated t k k'' := by
  constructor
  · exact h.exits.trans h'.exits
  · exact h'.heap.trans h.heap
  · intro u hu
    rw [h'.others u hu, h.others u hu, wokenBy_wokenBy]

theorem heapBitmap_eq (h : k'.isAllocated = k.isAllocated) :
    k'.heapBitmap = k.heapBitmap := by
  funext c
  apply BitVec.eq_of_getLsbD_eq
  intro i hi
  have hbit := congrFun h (8 * c + i)
  rw [isAllocated_eq_getLsbD, isAllocated_eq_getLsbD] at hbit
  have hbyte : (8 * c + (i : Int)) / 8 = c := by omega
  have hoffset : ((8 * c + (i : Int)) % 8).toNat = i := by omega
  rw [hbyte, hoffset] at hbit
  exact hbit

theorem Terminated.unique (h : Terminated t k k') (h' : Terminated t k k'') :
    k'.heapBitmap = k''.heapBitmap ∧ k'.globalHeap = k''.globalHeap ∧
      forall u, u ≠ t -> k'.tasks u = k''.tasks u := by
  refine ⟨?_, ?_, ?_⟩
  · apply heapBitmap_eq
    funext c
    have hsame : k'.records.allocated c = true <-> k''.records.allocated c = true := by
      rw [h.exits.allocated c, h'.exits.allocated c]
    exact Bool.eq_iff_iff.mpr hsame
  · rw [h.heap, h'.heap]
  · intro u hu
    rw [h.others u hu, h'.others u hu]

theorem Terminated.state (h : Terminated t k k') :
    (k'.tasks t).taskState = .free ∧ (k'.tasks t).file = none := by
  have hclosed : (k'.tasks t).file.isSome = false := h.exits.closed
  exact ⟨h.exits.free, by simpa using hclosed⟩

theorem terminateTask_terminated (k : Kernel sd) (t : TaskId) :
    Terminated t k (k.terminateTask t) := by
  have hfreed := (freeAllocations_own k t).trans (freeSegment_own _ t)
  constructor
  · exact k.terminateTask_exits t
  · exact (terminateTask_quiet k t).heap
  · intro u hu
    rw [← hfreed.others u hu]
    unfold terminateTask closeFile modifyTask wakeWaiting wokenBy
    simp [hu]

/-!
## Steps that stay in the slot
-/

theorem takeByte_aside (k : Kernel sd) (t : TaskId) : Aside t k (k.takeByte t).2 :=
  aside_of_own (takeByte_records k t) rfl (takeByte_own k t)

theorem stdWrite_aside (k : Kernel sd) (t : TaskId) (fd : Int) (str : List Byte) :
    Aside t k (k.stdWrite fd str) :=
  aside_of_own (k.records_stdWrite fd str) (stdWrite_quiet k fd str).heap
    (stdWrite_own k fd str)

theorem stackPush_aside (k : Kernel sd) (t : TaskId) (val : Int) :
    Aside t k (k.stackPush t val) :=
  aside_of_own (k.records_stackPush t val) rfl (stackPush_own k t val)

theorem stackPop_aside (k : Kernel sd) (t : TaskId) : Aside t k (k.stackPop t).2 :=
  aside_of_own (k.records_stackPop t) rfl (stackPop_own k t)

theorem jump_aside (k : Kernel sd) (t : TaskId) (addr : Int) : Aside t k (k.jump t addr) :=
  aside_of_own (k.jump_records t addr) (k.jump_quiet t addr).heap (jump_own k t addr)

/-!
## Fetching
-/

theorem refillBuffer_cases (k : Kernel sd) (t : TaskId) :
    Aside t k (k.refillBuffer t) ∨ Terminated t k (k.refillBuffer t) := by
  have hquiet := k.refillBuffer_quiet t
  unfold refillBuffer at hquiet ⊢
  split
  · rename_i havailable
    rw [if_pos havailable] at hquiet
    left
    refine aside_of_own ?_ hquiet.heap ((readFile_own k t CODE_BUFFER_SIZE).modify rfl)
    simp only
    rw [records_modifyTask_same _ _ rfl, records_readFile]
  · right
    exact terminateTask_terminated k t

theorem fetchByte_cases (k : Kernel sd) (t : TaskId) :
    Aside t k (k.fetchByte t).2 ∨ Terminated t k (k.fetchByte t).2 := by
  unfold fetchByte
  split
  · have hrefill := refillBuffer_cases k t
    simp only
    split
    · exact hrefill
    · rcases hrefill with haside | hended
      · exact .inl (haside.trans (takeByte_aside _ t))
      · exact .inr (hended.aside (takeByte_aside _ t))
  · exact .inl (takeByte_aside k t)

theorem fetchByte_aside {op : VMOpcode} (hop : k.nextOpcode t = some op) :
    Aside t k (k.fetchByte t).2 := by
  rcases fetchByte_cases k t with haside | hended
  · exact haside
  · have hactive := active_of_nextOpcode hop
    simp [Task.isActive, hended.state.left] at hactive

theorem fetchByte_atEnd (h : k.AtEnd t) : Terminated t k (k.fetchByte t).2 := by
  have hrefill : k.refillBuffer t = k.terminateTask t := by
    unfold refillBuffer
    rw [if_neg (by simp [h.right])]
  have hended := terminateTask_terminated k t
  unfold fetchByte
  rw [if_pos h.left, hrefill]
  simp only
  split
  · exact hended
  · exact hended.aside (takeByte_aside _ t)

/-- The second byte is fetched from the dead task, or the first from the live one. -/
theorem fetchInt_beyond (h : k.OperandBeyond t) : Terminated t k (k.fetchInt t).2 := by
  have hsecond := fetchByte_cases (k.fetchByte t).2 t
  rcases h with hlow | hhigh
  · have hended := fetchByte_atEnd hlow
    rcases hsecond with haside | hagain
    · exact hended.aside haside
    · exact hended.again hagain
  · have hended := fetchByte_atEnd hhigh
    rcases fetchByte_cases k t with haside | hbefore
    · exact Terminated.after haside hended
    · exact hbefore.again hended

/-!
## The whole instruction
-/

theorem checkStackOverflow_terminated {body : Kernel sd -> Kernel sd}
    (hbody : Terminated t k (body k)) : Terminated t k (k.checkStackOverflow t body) := by
  unfold checkStackOverflow
  split
  · exact Terminated.after (stdWrite_aside k t _ _) (terminateTask_terminated _ t)
  · exact hbody

theorem checkStackUnderflow_terminated {count : Int} {body : Kernel sd -> Kernel sd}
    (hbody : Terminated t k (body k)) :
    Terminated t k (k.checkStackUnderflow t count body) := by
  unfold checkStackUnderflow
  split
  · exact Terminated.after (stdWrite_aside k t _ _) (terminateTask_terminated _ t)
  · exact hbody

theorem opJif_terminated (h : k.OperandBeyond t) : Terminated t k (k.opJif t) := by
  apply checkStackUnderflow_terminated
  have hended := fetchInt_beyond h
  generalize k.fetchInt t = fetched at hended ⊢
  rcases fetched with ⟨target, k₁⟩
  have hpop := hended.aside (stackPop_aside k₁ t)
  simp only at hpop ⊢
  generalize k₁.stackPop t = popped at hpop ⊢
  rcases popped with ⟨condition, k₂⟩
  simp only at hpop ⊢
  split
  · exact hpop.aside (jump_aside k₂ t target)
  · exact hpop

theorem runStep_beyond {op : VMOpcode} (hop : k.nextOpcode t = some op)
    (hkind : op = .push ∨ op = .jmp ∨ op = .jif)
    (h : (k.fetchByte t).2.OperandBeyond t) : Terminated t k (k.runStep t) := by
  rcases runStep_of_nextOpcode hop with ⟨hstep, hopcode⟩
  rw [hstep]
  apply Terminated.after (fetchByte_aside hop)
  have hended := fetchInt_beyond h
  unfold execute
  rw [hopcode]
  rcases hkind with rfl | rfl | rfl
  · exact checkStackOverflow_terminated (hended.aside (stackPush_aside _ t _))
  · exact hended.aside (jump_aside _ t _)
  · exact opJif_terminated h

/-!
## Loading into the slot

A load reads neither the stack of the slot nor its two positions, and sets both.
-/

/-- A slot without its stack and the positions in stack and code buffer. -/
def blank (task : Task sd) : Task sd :=
  { task with stack := fun _ => 0, sp := -1, bufferIndex := 0 }

/-- For a load into slot `t` there is no difference between `k` and `k'`. -/
structure LoadsAlike (t : TaskId) (k k' : Kernel sd) : Prop where
  own : blank (k'.tasks t) = blank (k.tasks t)
  card : k'.card = k.card
  allocated : k'.isAllocated = k.isAllocated

theorem blank_with {task task' : Task sd} (h : blank task' = blank task) :
    task' = { task with
      stack := task'.stack, sp := task'.sp, bufferIndex := task'.bufferIndex } := by
  have hself : task' = { blank task' with
      stack := task'.stack, sp := task'.sp, bufferIndex := task'.bufferIndex } := rfl
  rw [h] at hself
  exact hself

theorem LoadsAlike.file (h : LoadsAlike t k k') : (k'.tasks t).file = (k.tasks t).file := by
  rw [blank_with h.own]

theorem LoadsAlike.modify (h : LoadsAlike t k k') {f : Task sd -> Task sd}
    (hf : forall task stack sp i,
      blank (f { task with stack := stack, sp := sp, bufferIndex := i }) = blank (f task)) :
    LoadsAlike t (k.modifyTask t f) (k'.modifyTask t f) := by
  constructor
  · simp only [modifyTask, Function.update_self]
    rw [blank_with h.own]
    exact hf ..
  · exact h.card
  · exact h.allocated

theorem LoadsAlike.stdWrite (h : LoadsAlike t k k') (fd : Int) (str : List Byte) :
    LoadsAlike t (k.stdWrite fd str) (k'.stdWrite fd str) := by
  rcases stdWrite_eq k fd str with ⟨tx, out, hout⟩
  rcases stdWrite_eq k' fd str with ⟨tx', out', hout'⟩
  rw [hout, hout']
  exact ⟨h.own, h.card, h.allocated⟩

theorem prepareTask_alike (h : LoadsAlike t k k')
    (argStr parentCwd parentArgStr : Option (List Byte)) :
    LoadsAlike t (k.prepareTask t argStr parentCwd parentArgStr)
      (k'.prepareTask t argStr parentCwd parentArgStr) := by
  unfold prepareTask closeFile
  refine LoadsAlike.modify (h.modify ?_) ?_
  · exact fun _ _ _ _ => rfl
  · exact fun _ _ _ _ => rfl

theorem tryOpen_alike (h : LoadsAlike t k k') (path : List Byte) :
    LoadsAlike t (k.tryOpen t path) (k'.tryOpen t path) := by
  have htry : forall k : Kernel sd, k.tryOpen t path =
      ((k.note (.chars .pathBuffer path.length)).withCard
        (sd.openPath k.card path).2).modifyTask t fun task =>
          { task with file := (sd.openPath k.card path).1 } := fun _ => rfl
  have hopened : LoadsAlike t
      ((k.note (.chars .pathBuffer path.length)).withCard (sd.openPath k.card path).2)
      ((k'.note (.chars .pathBuffer path.length)).withCard (sd.openPath k.card path).2) :=
    ⟨h.own, rfl, h.allocated⟩
  rw [htry, htry, h.card]
  exact hopened.modify fun _ _ _ _ => rfl

theorem findProgram_alike (h : LoadsAlike t k k') (name : List Byte) :
    (k'.findProgram t name).1 = (k.findProgram t name).1 ∧
      LoadsAlike t (k.findProgram t name).2 (k'.findProgram t name).2 := by
  have hfirst := tryOpen_alike h name
  have hsecond := tryOpen_alike hfirst (name ++ text ".bin")
  have hthird := tryOpen_alike hsecond (text "/bin/" ++ name ++ text ".bin")
  unfold findProgram
  simp only
  rw [hfirst.file, hsecond.file]
  split
  · exact ⟨rfl, hfirst⟩
  · split
    · exact ⟨rfl, hsecond⟩
    · exact ⟨rfl, hthird⟩

theorem readFile_alike (h : LoadsAlike t k k') (n : Nat) :
    (k'.readFile t n).1 = (k.readFile t n).1 ∧
      LoadsAlike t (k.readFile t n).2 (k'.readFile t n).2 := by
  unfold readFile
  rw [h.file, h.card]
  split
  · exact ⟨rfl, h⟩
  · rename_i file hfile
    have hread : LoadsAlike t (k.withCard (sd.read k.card file n).2.2)
        (k'.withCard (sd.read k.card file n).2.2) := ⟨h.own, rfl, h.allocated⟩
    exact ⟨rfl, hread.modify (f := fun task =>
      { task with file := some (sd.read k.card file n).2.1 }) fun _ _ _ _ => rfl⟩

theorem setAllocatedRange_alike (h : LoadsAlike t k k') (start size : Int) (b : Bool) :
    LoadsAlike t (k.setAllocatedRange start size b) (k'.setAllocatedRange start size b) := by
  have hcard : forall k : Kernel sd, (k.setAllocatedRange start size b).card = k.card :=
    fun k => forLoop_view k Kernel.card fun _ _ _ => rfl
  have hmarked := fun k : Kernel sd =>
    congrArg Records.allocated (k.records_setAllocatedRange start size b)
  constructor
  · rw [setAllocatedRange_tasks, setAllocatedRange_tasks]
    exact h.own
  · rw [hcard, hcard, h.card]
  · have hsame : k'.records.allocated = k.records.allocated := h.allocated
    refine (hmarked k').trans (Eq.trans ?_ (hmarked k).symm)
    simp only [Records.mark, hsame]

theorem allocSegment_alike (h : LoadsAlike t k k') (size : Int) :
    (k'.allocSegment t size).1 = (k.allocSegment t size).1 ∧
      LoadsAlike t (k.allocSegment t size).2 (k'.allocSegment t size).2 := by
  have hcases' := k'.allocSegment_cases t size
  rw [h.allocated] at hcases'
  rcases k.allocSegment_cases t size with ⟨hnone, hno⟩ | ⟨start, hrun, hfound⟩
  · rcases hcases' with ⟨hnone', _⟩ | ⟨start', hrun', _⟩
    · rw [hnone, hnone']
      exact ⟨rfl, h⟩
    · exact absurd hrun'.run (hno start')
  · rcases hcases' with ⟨_, hno'⟩ | ⟨start', hrun', hfound'⟩
    · exact absurd hrun.run (hno' start)
    · rw [hfound, hfound', hrun'.unique hrun]
      exact ⟨rfl, (setAllocatedRange_alike h start size true).modify (f := fun task =>
        { task with heapBase := start, heapLimit := size }) fun _ _ _ _ => rfl⟩

theorem failLoad_alike (h : LoadsAlike t k k') (message : List Byte) :
    LoadsAlike t (k.failLoad t message) (k'.failLoad t message) :=
  ((h.stdWrite FD_STDERR message).modify fun _ _ _ _ => rfl).modify fun _ _ _ _ => rfl

theorem startTask_alike (h : LoadsAlike t k k') (path : List Byte) :
    LoadsAlike t (k.startTask t path) (k'.startTask t path) := by
  have hnamed : LoadsAlike t
      (k.modifyTask t fun task =>
        { task with filename := path.take 127, bufferIndex := 0 })
      (k'.modifyTask t fun task =>
        { task with filename := path.take 127, bufferIndex := 0 }) :=
    h.modify fun _ _ _ _ => rfl
  rcases readFile_alike hnamed CODE_BUFFER_SIZE with ⟨hbytes, hread⟩
  unfold startTask
  simp only
  rw [hbytes]
  refine LoadsAlike.stdWrite (LoadsAlike.modify (LoadsAlike.modify (hread.modify ?_) ?_) ?_) _ _
  · exact fun _ _ _ _ => rfl
  · exact fun _ _ _ _ => rfl
  · exact fun _ _ _ _ => rfl

/-- What a load makes of the slot does not depend on what was left in it. -/
theorem loadTask_alike (h : LoadsAlike t k k') (name : List Byte)
    (argStr parentCwd parentArgStr : Option (List Byte)) :
    (k'.loadTask t name argStr parentCwd parentArgStr).1 =
        (k.loadTask t name argStr parentCwd parentArgStr).1 ∧
      LoadsAlike t (k.loadTask t name argStr parentCwd parentArgStr).2
        (k'.loadTask t name argStr parentCwd parentArgStr).2 := by
  have hprepared := prepareTask_alike h argStr parentCwd parentArgStr
  unfold loadTask
  simp only
  generalize k.prepareTask t argStr parentCwd parentArgStr = k₁ at hprepared ⊢
  generalize k'.prepareTask t argStr parentCwd parentArgStr = k₁' at hprepared ⊢
  rcases findProgram_alike hprepared name with ⟨hpath, hfound⟩
  generalize k₁.findProgram t name = found at hpath hfound ⊢
  generalize k₁'.findProgram t name = found' at hpath hfound ⊢
  rcases found with ⟨path, k₂⟩
  rcases found' with ⟨path', k₂'⟩
  simp only at hpath hfound ⊢
  rw [hpath, hfound.file]
  by_cases hfile : (k₂.tasks t).file.isSome = true
  · rw [if_pos hfile, if_pos hfile]
    rcases readFile_alike hfound 4 with ⟨hresult, hread⟩
    generalize k₂.readFile t 4 = header at hresult hread ⊢
    generalize k₂'.readFile t 4 = header' at hresult hread ⊢
    rcases header with ⟨result, k₃⟩
    rcases header' with ⟨result', k₃'⟩
    simp only at hresult hread ⊢
    rw [hresult]
    by_cases hlength : result.1 = true ∧ result.2.length = 4
    · rw [if_pos hlength, if_pos hlength]
      by_cases hmagic : bufferOf result.2 0 = 0xAD#8 ∧ bufferOf result.2 1 = 0x01#8
      · rw [if_pos hmagic, if_pos hmagic]
        rcases allocSegment_alike hread
          (intOfBytes (bufferOf result.2 2) (bufferOf result.2 3)) with ⟨hok, hsegment⟩
        rw [hok]
        split
        · exact ⟨rfl, failLoad_alike hsegment _⟩
        · exact ⟨rfl, startTask_alike hsegment path⟩
      · rw [if_neg hmagic, if_neg hmagic]
        exact ⟨rfl, failLoad_alike hread _⟩
    · rw [if_neg hlength, if_neg hlength]
      exact ⟨rfl, failLoad_alike hread _⟩
  · rw [if_neg hfile, if_neg hfile]
    exact ⟨rfl, hfound.stdWrite FD_STDERR (text "Error: Command not found\n")⟩

theorem startTask_bufferIndex (k : Kernel sd) (t : TaskId) (path : List Byte) :
    ((k.startTask t path).tasks t).bufferIndex = 0 := by
  unfold startTask readFile
  simp only [stdWrite_tasks]
  split
  · simp [modifyTask, Task.setRunning]
  · simp [modifyTask, Task.setRunning]

theorem loadTask_afresh (k : Kernel sd) (t : TaskId) (name : List Byte)
    (argStr parentCwd parentArgStr : Option (List Byte))
    (hok : (k.loadTask t name argStr parentCwd parentArgStr).1 = true) :
    ((k.loadTask t name argStr parentCwd parentArgStr).2.tasks t).sp = -1 ∧
      ((k.loadTask t name argStr parentCwd parentArgStr).2.tasks t).bufferIndex = 0 := by
  unfold loadTask at hok ⊢
  simp only at hok ⊢
  split at hok
  · rename_i hfile
    rw [if_pos hfile]
    split at hok
    · rename_i hlength
      rw [if_pos hlength]
      split at hok
      · rename_i hmagic
        rw [if_pos hmagic]
        split at hok
        · cases hok
        · rename_i hsuccess
          rw [if_neg hsuccess]
          exact ⟨(startTask_sp _ t _).left, startTask_bufferIndex _ t _⟩
      · cases hok
    · cases hok
  · cases hok

/-!
## What the dead task still does
-/

theorem LoadsAlike.trans (h : LoadsAlike t k k') (h' : LoadsAlike t k' k'') :
    LoadsAlike t k k'' :=
  ⟨h'.own.trans h.own, h'.card.trans h.card, h'.allocated.trans h.allocated⟩

theorem modifyTask_alike (k : Kernel sd) {f : Task sd -> Task sd}
    (hf : blank (f (k.tasks t)) = blank (k.tasks t)) : LoadsAlike t k (k.modifyTask t f) :=
  ⟨by simpa [modifyTask] using hf, rfl, rfl⟩

theorem note_alike (k : Kernel sd) (a : Access) : LoadsAlike t k (k.note a) :=
  ⟨rfl, rfl, rfl⟩

theorem stackPush_alike (k : Kernel sd) (val : Int) : LoadsAlike t k (k.stackPush t val) := by
  unfold stackPush
  exact (note_alike k _).trans (modifyTask_alike _ rfl)

theorem stackPop_alike (k : Kernel sd) : LoadsAlike t k (k.stackPop t).2 := by
  unfold stackPop
  simp only
  exact (note_alike k _).trans (modifyTask_alike _ rfl)

theorem jump_alike (hclosed : (k.tasks t).file = none) (addr : Int) :
    LoadsAlike t k (k.jump t addr) := by
  have hseek : k.seekFile t (BitVec.ofInt 32 (int16 (addr + 4))) = k := by
    unfold seekFile
    rw [hclosed]
  unfold jump
  simp only
  rw [hseek]
  exact modifyTask_alike k rfl

theorem runStep_alike {op : VMOpcode} (hop : k.nextOpcode t = some op)
    (hkind : op = .push ∨ op = .jmp ∨ op = .jif)
    (h : (k.fetchByte t).2.OperandBeyond t) :
    LoadsAlike t ((k.fetchByte t).2.fetchInt t).2 (k.runStep t) ∨
      exists message,
        k.runStep t = ((k.fetchByte t).2.stdWrite FD_STDERR message).terminateTask t := by
  rcases runStep_of_nextOpcode hop with ⟨hstep, hopcode⟩
  rw [hstep]
  have hclosed := (fetchInt_beyond h).state.right
  unfold execute
  rw [hopcode]
  generalize (k.fetchByte t).2 = k₁ at hclosed ⊢
  rcases hkind with rfl | rfl | rfl
  · simp only [checkStackOverflow]
    split
    · exact .inr ⟨_, rfl⟩
    · exact .inl (stackPush_alike _ _)
  · exact .inl (jump_alike hclosed _)
  · simp only [opJif, checkStackUnderflow]
    split
    · exact .inr ⟨_, rfl⟩
    · left
      have hpop := stackPop_alike (t := t) (k₁.fetchInt t).2
      split
      · exact hpop.trans (jump_alike (by rw [hpop.file, hclosed]) _)
      · exact hpop

/-- `k'` is `k` after one call of `Kernel_terminateTask`, outside the slot. -/
structure EndsOnce (t : TaskId) (k k' : Kernel sd) : Prop where
  bitmap : k'.heapBitmap = (k.terminateTask t).heapBitmap
  heap : k'.globalHeap = (k.terminateTask t).globalHeap
  others : forall u, u ≠ t -> k'.tasks u = (k.terminateTask t).tasks u
  free : (k'.tasks t).taskState = .free
  closed : (k'.tasks t).file = none

/-- `k` and `k'` load the same program into slot `t`, and it starts the same way. -/
structure LoadedAfresh (t : TaskId) (k k' : Bool × Kernel sd) : Prop where
  result : k'.1 = k.1
  start : k.1 = true -> (k'.2.tasks t).sp = -1 ∧ (k'.2.tasks t).bufferIndex = 0
  task : k.1 = true ->
    k'.2.tasks t = { k.2.tasks t with stack := (k'.2.tasks t).stack }

theorem loadTask_loadedAfresh (h : LoadsAlike t k k') (name : List Byte)
    (argStr parentCwd parentArgStr : Option (List Byte)) :
    LoadedAfresh t (k.loadTask t name argStr parentCwd parentArgStr)
      (k'.loadTask t name argStr parentCwd parentArgStr) := by
  have hafresh := k.loadTask_afresh t name argStr parentCwd parentArgStr
  have hafresh' := k'.loadTask_afresh t name argStr parentCwd parentArgStr
  rcases loadTask_alike h name argStr parentCwd parentArgStr with ⟨hresult, halike⟩
  rw [hresult] at hafresh'
  refine ⟨hresult, hafresh', ?_⟩
  intro hok
  rcases hafresh hok with ⟨hsp, hindex⟩
  rcases hafresh' hok with ⟨hsp', hindex'⟩
  rw [blank_with halike.own, hsp', hindex', ← hsp, ← hindex]

end Ending

/--
Where the code ends before or inside the operand, the whole step ends the task
once; a later load into the slot is the same whatever the dead task left there.
-/
theorem operand_beyond_ends_once {k : Kernel sd} {t : TaskId} {op : VMOpcode}
    (hop : k.nextOpcode t = some op) (hkind : op = .push ∨ op = .jmp ∨ op = .jif)
    (hbeyond : (k.fetchByte t).2.OperandBeyond t) :
    EndsOnce t k (k.runStep t) ∧
      (LoadsAlike t ((k.fetchByte t).2.fetchInt t).2 (k.runStep t) ∨
        exists message,
          k.runStep t = ((k.fetchByte t).2.stdWrite FD_STDERR message).terminateTask t) ∧
      forall (later later' : Kernel sd) name argStr parentCwd parentArgStr,
        LoadsAlike t later later' ->
          LoadedAfresh t (later.loadTask t name argStr parentCwd parentArgStr)
            (later'.loadTask t name argStr parentCwd parentArgStr) := by
  have hended := runStep_beyond hop hkind hbeyond
  rcases hended.unique (terminateTask_terminated k t) with ⟨hbitmap, hheap, hothers⟩
  rcases hended.state with ⟨hfree, hclosed⟩
  refine ⟨⟨hbitmap, hheap, hothers, hfree, hclosed⟩, runStep_alike hop hkind hbeyond, ?_⟩
  intro later later' name argStr parentCwd parentArgStr halike
  exact loadTask_loadedAfresh halike name argStr parentCwd parentArgStr

end Kernel

def cutProgram : List Byte :=
  (List.replicate 10 [0x10#8, 1#8, 0#8]).flatten ++ [0x11#8, 0x10#8]

def cutRun : Kernel CardImage.sdFat :=
  (fun k => k.runStep 1)^[11]
    ((Kernel.boot (CardImage.ofProgram 16#8 cutProgram 4)).loadTask 1 (text "p") none none none).2

set_option maxRecDepth 4000 in
/-- Both operand bytes of the last push are missing. -/
theorem operand_beyond_ends_once_cutRun :
    Kernel.EndsOnce 1 cutRun (cutRun.runStep 1) := by
  have hfetch : cutRun.nextOpcode 1 = some .push ∧
      (((cutRun.fetchByte 1).2.tasks 1).bufferIndex >= CODE_BUFFER_SIZE ∧
        ((cutRun.fetchByte 1).2.tasks 1).file.any CardImage.sdFat.available = false) := by
    decide +kernel
  exact (Kernel.operand_beyond_ends_once hfetch.left (.inl rfl) (.inl hfetch.right)).left

end ArduOS
