import ArduOS.Kernel.HeapOwnership
import ArduOS.Kernel.Messages
import ArduOS.Kernel.Turns

/-!
# The values of the machine

The target has 16 bit integers and arrays of fixed size, and the model neither.  It is
`Proper` that it keeps to them all the same: every cell of a stack and of the heap is a
word, so is what is recorded about blocks, the strings fit their arrays, and the serial
line carries messages only.
-/

namespace ArduOS

open Library

def Word (val : Int) : Prop := -32768 <= val ∧ val < 32768

theorem word_int16 (x : Int) : Word (int16 x) := by
  unfold Word int16
  omega

theorem word_zero : Word 0 := ⟨by decide, by decide⟩

theorem word_one : Word 1 := ⟨by decide, by decide⟩

theorem word_neg_one : Word (-1) := ⟨by decide, by decide⟩

theorem word_ite {p : Prop} [Decidable p] {a b : Int} (ha : Word a) (hb : Word b) :
    Word (if p then a else b) := by
  split
  · exact ha
  · exact hb

theorem word_ofChar (c : Byte) : Word (ofChar c) := by
  have hlo := BitVec.le_toInt c
  have hhi := BitVec.toInt_lt (x := c)
  unfold Word ofChar
  omega

theorem word_ofByte (b : Byte) : Word (ofByte b) := by
  have hlt := b.isLt
  unfold Word ofByte
  omega

theorem word_intOfBytes (low high : Byte) : Word (intOfBytes low high) :=
  ⟨BitVec.le_toInt _, BitVec.toInt_lt⟩

/--
What a task control block holds in integers and in strings; what lies in `cwd` may end in
the stack behind it, and is left out.
-/
structure Values where
  stack : Int -> Int
  args : List Byte
  filename : List Byte
  heapBase : Int
  heapLimit : Int
  allocTable : Nat -> Allocation

/-- Words, strings with their NUL inside the array, and a segment inside the heap. -/
structure Values.Proper (v : Values) : Prop where
  stack : forall i, Word (v.stack i)
  args : v.args.length < 32
  filename : v.filename.length < 128
  segment : v.heapBase = -1 ∧ v.heapLimit = 0 ∨
    0 <= v.heapBase ∧ 0 <= v.heapLimit ∧ v.heapBase + v.heapLimit <= GLOBAL_HEAP_SIZE
  table : forall j, Word (v.allocTable j).ptr ∧ Word (v.allocTable j).size

def Task.values {sd : SdFat} (task : Task sd) : Values :=
  { stack := task.stack
    args := task.args
    filename := task.filename
    heapBase := task.heapBase
    heapLimit := task.heapLimit
    allocTable := task.allocTable }

namespace Kernel

variable {sd : SdFat}

/-- All these values are, and after `sent` the serial line got messages only. -/
structure Proper (sent : List (List Byte)) (k : Kernel sd) : Prop where
  tasks : forall t, (k.tasks t).values.Proper
  heap : forall c, Word (k.globalHeap c)
  spoken : exists messages : List Message, k.serialOut = sent ++ messages.map Message.packet

variable {k k' : Kernel sd} {t : TaskId} {sent : List (List Byte)}

/-!
## What it is kept by
-/

structure SameValues (k k' : Kernel sd) : Prop where
  tasks : forall t, (k'.tasks t).values = (k.tasks t).values
  heap : k'.globalHeap = k.globalHeap
  spoken : exists messages, Says k k' messages

theorem SameValues.refl (k : Kernel sd) : SameValues k k :=
  ⟨fun _ => rfl, rfl, [], .of_eq rfl⟩

theorem SameValues.trans {k'' : Kernel sd} (h : SameValues k k') (h' : SameValues k' k'') :
    SameValues k k'' := by
  rcases h.spoken with ⟨messages, hsaid⟩
  rcases h'.spoken with ⟨messages', hsaid'⟩
  exact ⟨fun t => (h'.tasks t).trans (h.tasks t), h'.heap.trans h.heap, _,
    hsaid.trans hsaid'⟩

theorem SameValues.of_eq (htasks : k'.tasks = k.tasks) (hheap : k'.globalHeap = k.globalHeap)
    (hout : k'.serialOut = k.serialOut) : SameValues k k' :=
  ⟨fun _ => by rw [htasks], hheap, [], .of_eq hout⟩

theorem modifyTask_sameValues (k : Kernel sd) {f : Task sd -> Task sd}
    (hf : (f (k.tasks t)).values = (k.tasks t).values) : SameValues k (k.modifyTask t f) := by
  refine ⟨?_, rfl, [], .of_eq rfl⟩
  intro u
  by_cases hu : u = t
  · subst hu
    simpa [modifyTask] using hf
  · simp [modifyTask, hu]

theorem SameValues.modify (h : SameValues k k') {f : Task sd -> Task sd}
    (hf : (f (k'.tasks t)).values = (k'.tasks t).values) :
    SameValues k (k'.modifyTask t f) :=
  h.trans (modifyTask_sameValues k' hf)

theorem stdWrite_sameValues (k : Kernel sd) (fd : Int) (str : List Byte) :
    SameValues k (k.stdWrite fd str) := by
  have hsent := stdWrite_sends k fd str
  rcases stdWrite_eq k fd str with ⟨tx, out, h⟩
  rw [h] at hsent ⊢
  exact ⟨fun _ => rfl, rfl, hsent⟩

theorem SameValues.proper (h : SameValues k k') (hk : k.Proper sent) : k'.Proper sent := by
  constructor
  · intro t
    rw [h.tasks t]
    exact hk.tasks t
  · rw [h.heap]
    exact hk.heap
  · rcases hk.spoken with ⟨before, hbefore⟩
    rcases h.spoken with ⟨messages, hsaid⟩
    refine ⟨before ++ messages, ?_⟩
    rw [hsaid, hbefore, List.map_append, List.append_assoc]

theorem Proper.modify (h : k.Proper sent) {f : Task sd -> Task sd}
    (hf : (k.tasks t).values.Proper -> (f (k.tasks t)).values.Proper) :
    (k.modifyTask t f).Proper sent := by
  refine ⟨?_, h.heap, h.spoken⟩
  intro u
  by_cases hu : u = t
  · subst hu
    simpa [modifyTask] using hf (h.tasks u)
  · simpa [modifyTask, hu] using h.tasks u

theorem Proper.note (h : k.Proper sent) (a : Access) : (k.note a).Proper sent :=
  ⟨h.tasks, h.heap, h.spoken⟩

theorem Proper.withCard (h : k.Proper sent) (card : sd.Card) :
    (k.withCard card).Proper sent :=
  ⟨h.tasks, h.heap, h.spoken⟩

theorem Proper.withHal (h : k.Proper sent) (hal : Hal) : (k.withHal hal).Proper sent :=
  ⟨h.tasks, h.heap, h.spoken⟩

theorem Proper.stdWrite (h : k.Proper sent) (fd : Int) (str : List Byte) :
    (k.stdWrite fd str).Proper sent :=
  (stdWrite_sameValues k fd str).proper h

theorem Proper.heapSet (h : k.Proper sent) (c : Int) {val : Int} (hval : Word val) :
    (k.heapSet c val).Proper sent := by
  refine ⟨h.tasks, ?_, h.spoken⟩
  intro c'
  by_cases hc : c' = c
  · subst hc
    simpa [Kernel.heapSet] using hval
  · simpa [Kernel.heapSet, Kernel.note, Function.update_of_ne hc] using h.heap c'

theorem Proper.heapSetBelow (h : k.Proper sent) (c : Int) {val : Int} (hval : Word val) :
    (k.heapSetBelow c val).Proper sent := by
  unfold Kernel.heapSetBelow
  split
  · exact h.heapSet c hval
  · exact h

/-!
## The stack
-/

theorem Proper.stackDrop (h : k.Proper sent) (t : TaskId) :
    (k.stackDrop t).Proper sent := by
  unfold Kernel.stackDrop
  exact (modifyTask_sameValues k rfl).proper h

theorem Proper.stackPop (h : k.Proper sent) (t : TaskId) : (k.stackPop t).2.Proper sent :=
  (h.note (.stack t (k.tasks t).sp)).stackDrop t

theorem Proper.word_stackPop (h : k.Proper sent) (t : TaskId) : Word (k.stackPop t).1 :=
  (h.tasks t).stack _

theorem Proper.word_stackTop (h : k.Proper sent) (t : TaskId) : Word (k.stackTop t).1 :=
  (h.tasks t).stack _

theorem Proper.stackPush (h : k.Proper sent) (t : TaskId) {val : Int} (hval : Word val) :
    (k.stackPush t val).Proper sent := by
  unfold Kernel.stackPush
  apply (h.note (.stack t ((k.tasks t).sp + 1))).modify
  intro hv
  refine ⟨?_, hv.args, hv.filename, hv.segment, hv.table⟩
  intro i
  by_cases hi : i = (k.tasks t).sp + 1
  · subst hi
    simpa [Task.values, Kernel.note] using hval
  · simpa [Task.values, Kernel.note, Function.update_of_ne hi] using hv.stack i

theorem Proper.heapGet (h : k.Proper sent) (c : Int) : (k.heapGet c).2.Proper sent :=
  h.note _

/-!
## Blocks
-/

theorem setAllocatedRange_sameValues (k : Kernel sd) (start size : Int) (b : Bool) :
    SameValues k (k.setAllocatedRange start size b) :=
  .of_eq (k.setAllocatedRange_tasks start size b)
    (forLoop_view k Kernel.globalHeap fun _ _ _ => rfl)
    (forLoop_view k Kernel.serialOut fun _ _ _ => rfl)

theorem word_of_freeRun {taken : Int -> Bool} {start size : Int}
    (h : FreeRun taken GLOBAL_HEAP_SIZE start size) : Word start ∧ Word size := by
  have hnonneg := h.nonneg
  have hpos := h.pos
  have hfits := h.fits
  have hheap : GLOBAL_HEAP_SIZE = 1024 := rfl
  constructor
  · constructor <;> omega
  · constructor <;> omega

theorem Proper.malloc (h : k.Proper sent) (t : TaskId) (size : Int) :
    (k.malloc t size).2.Proper sent ∧ Word (k.malloc t size).1 := by
  rcases k.malloc_cases t size with ⟨hnone, _⟩ | ⟨start, hrun, hfound⟩
  · rw [hnone]
    exact ⟨h, word_neg_one⟩
  · rcases word_of_freeRun hrun.run with ⟨hstart, hsize⟩
    rw [hfound]
    unfold mallocAt
    split
    · simp only
      exact ⟨h.stdWrite _ _, word_neg_one⟩
    · rename_i slot _
      simp only
      refine ⟨((setAllocatedRange_sameValues k start size true).proper h).modify ?_, hstart⟩
      intro hv
      refine ⟨hv.stack, hv.args, hv.filename, hv.segment, ?_⟩
      intro j
      by_cases hj : j = slot
      · subst hj
        simpa [Task.values] using ⟨hstart, hsize⟩
      · simpa [Task.values, Function.update_of_ne hj] using hv.table j

theorem Proper.free (h : k.Proper sent) (t : TaskId) (ptr : Int) :
    (k.free t ptr).Proper sent := by
  apply forExit_value_preserves (Proper sent) h
  intro i k' _ hk'
  split
  · simp only [Flow.value]
    apply ((setAllocatedRange_sameValues k' ptr _ false).proper hk').modify
    intro hv
    refine ⟨hv.stack, hv.args, hv.filename, hv.segment, ?_⟩
    intro j
    by_cases hj : j = i
    · subst hj
      simpa [Task.values] using ⟨word_neg_one, (hv.table j).right⟩
    · simpa [Task.values, Function.update_of_ne hj] using hv.table j
  · exact hk'

theorem Proper.freeAllocations (h : k.Proper sent) (t : TaskId) :
    (k.freeAllocations t).Proper sent := by
  apply forLoop_preserves (Proper sent) h
  intro i k' _ hk'
  simp only
  split
  · exact (((hk'.free t _).stdWrite _ _).stdWrite _ _).stdWrite _ _
  · exact hk'

theorem Proper.freeSegment (h : k.Proper sent) (t : TaskId) :
    (k.freeSegment t).Proper sent := by
  unfold Kernel.freeSegment
  split
  · apply ((setAllocatedRange_sameValues k _ _ false).proper h).modify
    intro hv
    exact ⟨hv.stack, hv.args, hv.filename, .inl ⟨rfl, rfl⟩, hv.table⟩
  · exact h

theorem wakeWaiting_sameValues (k : Kernel sd) (t : TaskId) :
    SameValues k (k.wakeWaiting t) := by
  refine ⟨?_, rfl, [], .of_eq rfl⟩
  intro u
  unfold wakeWaiting
  simp only
  split <;> rfl

theorem Proper.terminateTask (h : k.Proper sent) (t : TaskId) :
    (k.terminateTask t).Proper sent :=
  (((wakeWaiting_sameValues _ t).modify (f := Task.setFree) rfl).modify
    (f := fun task => { task with file := none }) rfl).proper
      ((h.freeAllocations t).freeSegment t)

/-!
## Files
-/

theorem openFile_sameValues (k : Kernel sd) (t : TaskId) (path : List Byte) :
    SameValues k (k.openFile t path) := by
  have hcard : SameValues k (k.withCard (sd.openPath k.card path).2) := .of_eq rfl rfl rfl
  exact hcard.modify (f := fun task => { task with file := (sd.openPath k.card path).1 }) rfl

theorem closeFile_sameValues (k : Kernel sd) (t : TaskId) : SameValues k (k.closeFile t) :=
  modifyTask_sameValues k rfl

theorem readFile_sameValues (k : Kernel sd) (t : TaskId) (n : Nat) :
    SameValues k (k.readFile t n).2 := by
  unfold readFile
  split
  · exact .refl k
  · rename_i file _
    have hcard : SameValues k (k.withCard (sd.read k.card file n).2.2) := .of_eq rfl rfl rfl
    exact hcard.modify (f := fun task =>
      { task with file := some (sd.read k.card file n).2.1 }) rfl

theorem seekFile_sameValues (k : Kernel sd) (t : TaskId) (pos : BitVec 32) :
    SameValues k (k.seekFile t pos) := by
  unfold seekFile
  split
  · exact .refl k
  · rename_i file _
    have hcard : SameValues k (k.withCard (sd.seek k.card file pos).2) := .of_eq rfl rfl rfl
    exact hcard.modify (f := fun task =>
      { task with file := some (sd.seek k.card file pos).1 }) rfl

/-!
## Loading
-/

theorem length_take_lt (s : List Byte) {n m : Nat} (h : n < m) : (s.take n).length < m := by
  rw [List.length_take]
  omega

theorem Proper.prepareTask (h : k.Proper sent) (id : TaskId)
    (argStr parentCwd parentArgStr : Option (List Byte)) :
    (k.prepareTask id argStr parentCwd parentArgStr).Proper sent := by
  unfold Kernel.prepareTask
  apply ((closeFile_sameValues k id).proper h).modify
  intro hv
  refine ⟨hv.stack, ?_, hv.filename, hv.segment, hv.table⟩
  -- the arguments are those of the parent, or else those given
  cases parentArgStr with
  | some s =>
      show (s.take 31).length < 32
      exact length_take_lt s (by decide)
  | none =>
      cases argStr with
      | some s =>
          show (s.take 31).length < 32
          exact length_take_lt s (by decide)
      | none => exact (by decide : 0 < 32)

theorem tryOpen_sameValues (k : Kernel sd) (id : TaskId) (path : List Byte) :
    SameValues k (k.tryOpen id path) := by
  have hnoted : SameValues k (k.note (.chars .pathBuffer path.length)) := .of_eq rfl rfl rfl
  exact hnoted.trans (openFile_sameValues _ id path)

theorem findProgram_sameValues (k : Kernel sd) (id : TaskId) (inputName : List Byte) :
    SameValues k (k.findProgram id inputName).2 := by
  unfold findProgram
  simp only
  have hfirst := tryOpen_sameValues k id inputName
  split
  · exact hfirst
  · have hsecond := hfirst.trans (tryOpen_sameValues _ id (inputName ++ text ".bin"))
    split
    · exact hsecond
    · exact hsecond.trans (tryOpen_sameValues _ id _)

theorem Proper.allocSegment (h : k.Proper sent) (id : TaskId) (size : Int) :
    (k.allocSegment id size).2.Proper sent := by
  rcases k.allocSegment_cases id size with ⟨hnone, _⟩ | ⟨start, hrun, hfound⟩
  · rw [hnone]
    exact h
  · have hnonneg := hrun.run.nonneg
    have hpos := hrun.run.pos
    have hfits := hrun.run.fits
    rw [hfound]
    simp only
    apply ((setAllocatedRange_sameValues k start size true).proper h).modify
    intro hv
    exact ⟨hv.stack, hv.args, hv.filename, .inr ⟨hnonneg, Int.le_of_lt hpos, hfits⟩,
      hv.table⟩

theorem failLoad_sameValues (k : Kernel sd) (id : TaskId) (message : List Byte) :
    SameValues k (k.failLoad id message) :=
  ((stdWrite_sameValues k FD_STDERR message).trans (closeFile_sameValues _ id)).modify rfl

theorem Proper.startTask (h : k.Proper sent) (id : TaskId) (path : List Byte) :
    (k.startTask id path).Proper sent := by
  have hnamed : (k.modifyTask id fun task =>
      { task with filename := path.take 127, bufferIndex := 0 }).Proper sent := by
    apply h.modify
    intro hv
    exact ⟨hv.stack, hv.args, length_take_lt path (by decide), hv.segment, hv.table⟩
  have hread := readFile_sameValues (k.modifyTask id fun task =>
    { task with filename := path.take 127, bufferIndex := 0 }) id CODE_BUFFER_SIZE
  unfold Kernel.startTask
  exact ((((hread.modify rfl).modify rfl).modify rfl).trans
    (stdWrite_sameValues _ _ _)).proper hnamed

theorem Proper.loadTask (h : k.Proper sent) (id : TaskId) (inputName : List Byte)
    (argStr parentCwd parentArgStr : Option (List Byte)) :
    (k.loadTask id inputName argStr parentCwd parentArgStr).2.Proper sent := by
  have hprepared := h.prepareTask id argStr parentCwd parentArgStr
  have hfound := (findProgram_sameValues _ id inputName).proper hprepared
  have hread := (readFile_sameValues _ id 4).proper hfound
  unfold Kernel.loadTask
  simp only
  split
  · split
    · split
      · have hallocated := hread.allocSegment id (intOfBytes
          (bufferOf (((k.prepareTask id argStr parentCwd parentArgStr).findProgram id
            inputName).2.readFile id 4).1.2 2)
          (bufferOf (((k.prepareTask id argStr parentCwd parentArgStr).findProgram id
            inputName).2.readFile id 4).1.2 3))
        split
        · exact (failLoad_sameValues _ id _).proper hallocated
        · exact hallocated.startTask id _
      · exact (failLoad_sameValues _ id _).proper hread
    · exact (failLoad_sameValues _ id _).proper hread
  · simp only
    exact hfound.stdWrite _ _

/-!
## Code
-/

theorem Proper.refillBuffer (h : k.Proper sent) (t : TaskId) :
    (k.refillBuffer t).Proper sent := by
  unfold Kernel.refillBuffer
  split
  · exact ((readFile_sameValues k t CODE_BUFFER_SIZE).modify rfl).proper h
  · exact h.terminateTask t

theorem jump_sameValues (k : Kernel sd) (t : TaskId) (addr : Int) :
    SameValues k (k.jump t addr) := by
  unfold jump
  exact (seekFile_sameValues k t _).modify rfl

theorem Proper.fetchByte (h : k.Proper sent) (t : TaskId) :
    (k.fetchByte t).2.Proper sent := by
  have htake : forall k' : Kernel sd, SameValues k' (k'.takeByte t).2 := by
    intro k'
    unfold takeByte
    exact modifyTask_sameValues k' (f := fun task =>
      { task with bufferIndex := task.bufferIndex + 1 }) rfl
  unfold Kernel.fetchByte
  split
  · simp only
    split
    · exact h.refillBuffer t
    · exact (htake _).proper (h.refillBuffer t)
  · exact (htake k).proper h

theorem Proper.fetchInt (h : k.Proper sent) (t : TaskId) :
    (k.fetchInt t).2.Proper sent ∧ Word (k.fetchInt t).1 :=
  ⟨(h.fetchByte t).fetchByte t, word_intOfBytes _ _⟩

end Kernel
end ArduOS
