import ArduOS.Kernel.Tasks
import ArduOS.Kernel.Blocks

/-!
# What allocation does to the records

One theorem for each of `Kernel_malloc`, `Kernel_free`, `Kernel_terminateTask`
and `Kernel_loadTask`: the records afterwards, and nothing about how they came
about.
-/

namespace ArduOS

open Library Records

namespace Kernel

variable {sd : SdFat}

/-!
## malloc
-/

theorem mallocTurn_eq (k : Kernel sd) (t : TaskId) (size : Int) :
    k.mallocTurn t size =
      firstFitTurn k.isAllocated size fun start => k.mallocAt t start size := rfl

theorem mallocAt_records (k : Kernel sd) (t : TaskId) (start size : Int) :
    ((k.mallocAt t start size).1 = -1 ∧
        (k.mallocAt t start size).2.records = k.records) ∨
      exists j : Fin MAX_ALLOCATIONS, k.freeEntry t = some (j : Nat) ∧
        (k.mallocAt t start size).1 = start ∧
        (k.mallocAt t start size).2.records =
          k.records.grantEntry t j start size := by
  unfold mallocAt
  cases hslot : k.freeEntry t with
  | none =>
      left
      simp
  | some slot =>
      right
      have hin := List.mem_range.mp (List.mem_of_find?_eq_some hslot)
      refine ⟨⟨slot, hin⟩, rfl, rfl, ?_⟩
      simp only
      rw [records_modifyTask (g := fun task =>
        { task with
          allocTable := Function.update task.allocTable slot
            { ptr := start, size := size } })]
      · rw [records_setAllocatedRange]
        rfl
      · rfl

theorem ptr_of_freeEntry {k : Kernel sd} {t : TaskId} {j : Fin MAX_ALLOCATIONS}
    (h : k.freeEntry t = some (j : Nat)) : ((k.tasks t).allocTable j).ptr = -1 := by
  have hfree := List.find?_some h
  simpa using hfree

theorem malloc_cases (k : Kernel sd) (t : TaskId) (size : Int) :
    (k.malloc t size = (-1, k) ∧
        forall s, ¬ FreeRun k.isAllocated GLOBAL_HEAP_SIZE s size) ∨
      exists start, LeastRun k.isAllocated GLOBAL_HEAP_SIZE start size ∧
        k.malloc t size = k.mallocAt t start size := by
  unfold malloc
  by_cases hsize : size <= 0
  · rw [if_pos hsize]
    left
    refine ⟨rfl, ?_⟩
    intro s hrun
    have hpos := hrun.pos
    omega
  · rw [if_neg hsize, mallocTurn_eq]
    rcases firstFit_cases k.isAllocated size (fun start => k.mallocAt t start size)
      GLOBAL_HEAP_SIZE with ⟨run, hscan, hnone⟩ | ⟨start, hscan, hrun⟩
    · rw [hscan]
      exact Or.inl ⟨rfl, hnone⟩
    · rw [hscan]
      exact Or.inr ⟨start, hrun, rfl⟩

theorem malloc_records (k : Kernel sd) (t : TaskId) (size : Int) :
    ((k.malloc t size).1 = -1 ∧ (k.malloc t size).2.records = k.records) ∨
      exists j : Fin MAX_ALLOCATIONS, k.freeEntry t = some (j : Nat) ∧
        FreeRun k.isAllocated GLOBAL_HEAP_SIZE (k.malloc t size).1 size ∧
        (k.malloc t size).2.records =
          k.records.grantEntry t j (k.malloc t size).1 size := by
  rcases k.malloc_cases t size with ⟨hnone, _⟩ | ⟨start, hrun, hfound⟩
  · left
    rw [hnone]
    exact ⟨rfl, rfl⟩
  · rw [hfound]
    rcases k.mallocAt_records t start size with hfull | ⟨j, hfree, hstart, hrecords⟩
    · exact Or.inl hfull
    · right
      refine ⟨j, hfree, ?_, ?_⟩
      · rw [hstart]
        exact hrun.run
      · rw [hrecords, hstart]

/-!
## free
-/

theorem free_records (k : Kernel sd) (t : TaskId) {ptr : Int} {j : Nat}
    (hj : j < MAX_ALLOCATIONS) (hptr : ((k.tasks t).allocTable j).ptr = ptr)
    (hfirst : forall i, i < j -> ((k.tasks t).allocTable i).ptr ≠ ptr) :
    (k.free t ptr).records =
      (k.records.mark ptr ((k.tasks t).allocTable j).size false).modify t fun task =>
        { task with
          allocTable := Function.update task.allocTable j
            { task.allocTable j with ptr := -1 } } := by
  unfold free
  rw [forExit_exit hj (r := (k.setAllocatedRange ptr
    ((k.tasks t).allocTable j).size false).modifyTask t fun task =>
      { task with
        allocTable := Function.update task.allocTable j
          { task.allocTable j with ptr := -1 } })]
  · simp only [Flow.value]
    rw [records_modifyTask (g := fun task =>
      { task with
        allocTable := Function.update task.allocTable j
          { task.allocTable j with ptr := -1 } })]
    · rw [records_setAllocatedRange]
    · rfl
  · intro i hi
    rw [if_neg (hfirst i hi)]
  · rw [if_pos hptr]

/-!
## terminateTask
-/

structure FreedUpTo (t : TaskId) (n : Nat) (r r' : Records) : Prop where
  own : r'.task t = { r.task t with allocTable := (r'.task t).allocTable }
  freed : forall j, j < n -> ((r'.task t).allocTable j).ptr = -1
  kept : forall j, n <= j -> (r'.task t).allocTable j = (r.task t).allocTable j
  others : forall u, u ≠ t -> r'.task u = r.task u
  allocated : forall c, r'.allocated c = true <->
    r.allocated c = true ∧
      forall j : Fin MAX_ALLOCATIONS, (j : Nat) < n -> c ∉ r.cells (.entry t j)
  started : r'.started = r.started

theorem FreedUpTo.skip {t : TaskId} {n : Nat} {r r' : Records}
    (h : FreedUpTo t n r r') (hn : n < MAX_ALLOCATIONS)
    (hnone : ((r'.task t).allocTable n).ptr = -1) : FreedUpTo t (n + 1) r r' := by
  have hcells : r.cells (.entry t ⟨n, hn⟩) = ∅ := by
    apply cells_of_none
    rw [h.kept n (Nat.le_refl n)] at hnone
    simp [Records.block, blockAt, hnone]
  constructor
  · exact h.own
  · intro j hj
    by_cases hjn : j = n
    · rw [hjn]
      exact hnone
    · exact h.freed j (by omega)
  · intro j hj
    exact h.kept j (by omega)
  · exact h.others
  · intro c
    rw [h.allocated c]
    constructor
    · rintro ⟨hused, hnot⟩
      refine ⟨hused, ?_⟩
      intro j hj
      by_cases hjn : (j : Nat) = n
      · have hfin : j = ⟨n, hn⟩ := Fin.ext hjn
        rw [hfin, hcells]
        exact Set.notMem_empty c
      · exact hnot j (by omega)
    · rintro ⟨hused, hnot⟩
      exact ⟨hused, fun j hj => hnot j (by omega)⟩
  · exact h.started

theorem FreedUpTo.clear {t : TaskId} {n : Nat} {r r' : Records}
    (h : FreedUpTo t n r r') (hn : n < MAX_ALLOCATIONS)
    (hsome : ((r'.task t).allocTable n).ptr ≠ -1) :
    FreedUpTo t (n + 1) r
      ((r'.mark ((r'.task t).allocTable n).ptr ((r'.task t).allocTable n).size
        false).modify t fun task =>
          { task with
            allocTable := Function.update task.allocTable n
              { task.allocTable n with ptr := -1 } }) := by
  have hkept := h.kept n (Nat.le_refl n)
  rw [hkept] at hsome
  have hblock : r.block (.entry t ⟨n, hn⟩) =
      some (((r.task t).allocTable n).ptr, ((r.task t).allocTable n).size) := by
    simp [Records.block, blockAt, hsome]
  constructor
  · rw [modify_task_self, mark_task]
    conv => lhs; rw [h.own]
  · intro j hj
    rw [modify_task_self, mark_task]
    by_cases hjn : j = n
    · simp [hjn]
    · simp only [Function.update_of_ne hjn]
      exact h.freed j (by omega)
  · intro j hj
    have hjn : j ≠ n := by omega
    rw [modify_task_self, mark_task]
    simp only [Function.update_of_ne hjn]
    exact h.kept j (by omega)
  · intro u hu
    rw [modify_task_of_ne _ hu, mark_task]
    exact h.others u hu
  · intro c
    rw [modify_allocated, hkept]
    simp only [mark]
    have hcells := cells_of_block hblock
    by_cases hc : ((r.task t).allocTable n).ptr <= c ∧
        c < ((r.task t).allocTable n).ptr + ((r.task t).allocTable n).size
    · rw [if_pos hc]
      constructor
      · intro hcontra
        cases hcontra
      · rintro ⟨_, hnot⟩
        have hmem : c ∈ r.cells (.entry t ⟨n, hn⟩) := by
          rw [hcells]
          exact hc
        exact absurd hmem (hnot ⟨n, hn⟩ (Nat.lt_succ_self n))
    · rw [if_neg hc, h.allocated c]
      constructor
      · rintro ⟨hused, hnot⟩
        refine ⟨hused, ?_⟩
        intro j hj
        by_cases hjn : (j : Nat) = n
        · have hfin : j = ⟨n, hn⟩ := Fin.ext hjn
          rw [hfin, hcells]
          exact hc
        · exact hnot j (by omega)
      · rintro ⟨hused, hnot⟩
        exact ⟨hused, fun j hj => hnot j (by omega)⟩
  · exact h.started

theorem freeAllocations_records (k : Kernel sd) (t : TaskId) :
    FreedUpTo t MAX_ALLOCATIONS k.records (k.freeAllocations t).records := by
  unfold freeAllocations
  apply forLoop_invariant fun i k' => FreedUpTo t i k.records (Kernel.records k')
  · constructor
    · rfl
    · intro j hj
      omega
    · intro j _
      rfl
    · intro u _
      rfl
    · intro c
      simp
    · rfl
  · intro i k' hi hfreed
    by_cases hptr : ((k'.tasks t).allocTable i).ptr = -1
    · simp only [hptr, ne_eq, not_true_eq_false, if_false]
      exact hfreed.skip hi hptr
    · simp only [ne_eq, hptr, not_false_eq_true, if_true, records_stdWrite,
        records_stdWriteInt]
      rw [free_records k' t hi rfl]
      · exact hfreed.clear hi hptr
      · -- the entries before are free by now, so none of them is found first
        intro j hj heq
        have hgone := hfreed.freed j hj
        simp only [records_task, Task.record] at hgone
        rw [hgone] at heq
        exact hptr heq.symm

theorem freeSegment_records (k : Kernel sd) (t : TaskId) :
    (k.freeSegment t).records =
      if (k.tasks t).heapBase ≠ -1 then
        (k.records.mark (k.tasks t).heapBase (k.tasks t).heapLimit false).modify t
          fun task => { task with heapBase := -1, heapLimit := 0 }
      else k.records := by
  unfold freeSegment
  by_cases hbase : (k.tasks t).heapBase ≠ -1
  · rw [if_pos hbase, if_pos hbase]
    simp only
    rw [records_modifyTask (g := fun task =>
      { task with heapBase := -1, heapLimit := 0 })]
    · rw [records_setAllocatedRange]
    · rfl
  · rw [if_neg hbase, if_neg hbase]

theorem record_wake (task : Task sd) (t : TaskId) :
    (if task.getWaitingFor = t.val then task.setRunning else task).record =
      task.record.wake t := by
  have hwaiting : task.getWaitingFor = t.val <-> task.taskState = .paused t := by
    unfold Task.getWaitingFor
    cases hstate : task.taskState with
    | free => simp
    | running => simp
    | paused child =>
        simp only [Nat.cast_inj, TaskState.paused.injEq]
        exact Fin.ext_iff.symm
  have hstate : task.record.state = task.taskState := rfl
  unfold TaskRecord.wake
  rw [hstate]
  by_cases hpaused : task.taskState = .paused t
  · rw [if_pos (hwaiting.mpr hpaused), if_pos hpaused]
    rfl
  · rw [if_neg (fun h => hpaused (hwaiting.mp h)), if_neg hpaused]

theorem wakeWaiting_records (k : Kernel sd) (t : TaskId) :
    (k.wakeWaiting t).records =
      { k.records with task := fun u => (k.records.task u).wake t } := by
  apply Records.ext
  · funext u
    exact record_wake (k.tasks u) t
  · rfl
  · rfl

theorem not_mem_owned_iff (r : Records) (t : TaskId) (c : Int) :
    (forall b : Block, b.owner = t -> c ∉ r.cells b) <->
      c ∉ r.cells (.segment t) ∧
        forall j : Fin MAX_ALLOCATIONS, (j : Nat) < MAX_ALLOCATIONS ->
          c ∉ r.cells (.entry t j) := by
  constructor
  · intro hnot
    exact ⟨hnot (.segment t) rfl, fun j _ => hnot (.entry t j) rfl⟩
  · rintro ⟨hsegment, hentry⟩ b hb
    cases b with
    | segment u =>
        have hu : u = t := hb
        rw [hu]
        exact hsegment
    | entry u j =>
        have hu : u = t := hb
        rw [hu]
        exact hentry j j.isLt

structure BlocksFreed (t : TaskId) (r r' : Records) : Prop where
  base : (r'.task t).heapBase = -1
  table : forall j, j < MAX_ALLOCATIONS -> ((r'.task t).allocTable j).ptr = -1
  others : forall u, u ≠ t -> r'.task u = r.task u
  allocated : forall c, r'.allocated c = true <->
    r.allocated c = true ∧ forall b, b.owner = t -> c ∉ r.cells b
  started : r'.started = r.started

section Freeing

variable {t : TaskId} {r r₁ : Records}

theorem FreedUpTo.blocksFreed_of_none (h : FreedUpTo t MAX_ALLOCATIONS r r₁)
    (hminus : (r.task t).heapBase = -1) : BlocksFreed t r r₁ := by
  have hcells : r.cells (.segment t) = ∅ := by
    apply cells_of_none
    simp [Records.block, blockAt, hminus]
  constructor
  · rw [h.own]
    exact hminus
  · exact h.freed
  · exact h.others
  · intro c
    rw [h.allocated c, not_mem_owned_iff, hcells]
    simp
  · exact h.started

theorem FreedUpTo.blocksFreed_of_segment (h : FreedUpTo t MAX_ALLOCATIONS r r₁)
    (hbase : (r.task t).heapBase ≠ -1) :
    BlocksFreed t r ((r₁.mark (r.task t).heapBase (r.task t).heapLimit false).modify t
      fun task => { task with heapBase := -1, heapLimit := 0 }) := by
  have hcells : r.cells (.segment t) = { c | (r.task t).heapBase <= c ∧
      c < (r.task t).heapBase + (r.task t).heapLimit } := by
    apply cells_of_block
    simp [Records.block, blockAt, hbase]
  constructor
  · simp
  · intro j hj
    simp only [modify_task_self, mark_task]
    exact h.freed j hj
  · intro u hu
    rw [modify_task_of_ne _ hu, mark_task, h.others u hu]
  · intro c
    rw [not_mem_owned_iff, hcells]
    simp only [modify_allocated, mark]
    by_cases hc : (r.task t).heapBase <= c ∧
        c < (r.task t).heapBase + (r.task t).heapLimit
    · rw [if_pos hc]
      constructor
      · intro hcontra
        cases hcontra
      · rintro ⟨_, hnot, _⟩
        exact absurd hc hnot
    · rw [if_neg hc, h.allocated c]
      constructor
      · rintro ⟨hused, hentry⟩
        exact ⟨hused, hc, hentry⟩
      · rintro ⟨hused, _, hentry⟩
        exact ⟨hused, hentry⟩
  · simp only [modify_started, mark_started]
    exact h.started

end Freeing

theorem freeSegment_blocksFreed (k : Kernel sd) (t : TaskId) :
    BlocksFreed t k.records ((k.freeAllocations t).freeSegment t).records := by
  have hfreed := k.freeAllocations_records t
  have hbase : ((k.freeAllocations t).tasks t).heapBase = (k.records.task t).heapBase :=
    congrArg TaskRecord.heapBase hfreed.own
  have hlimit : ((k.freeAllocations t).tasks t).heapLimit =
      (k.records.task t).heapLimit := congrArg TaskRecord.heapLimit hfreed.own
  rw [freeSegment_records, hbase, hlimit]
  by_cases hminus : (k.records.task t).heapBase = -1
  · rw [if_neg (not_not.mpr hminus)]
    exact hfreed.blocksFreed_of_none hminus
  · rw [if_pos hminus]
    exact hfreed.blocksFreed_of_segment hminus

theorem terminateTask_exits (k : Kernel sd) (t : TaskId) :
    Exits t k.records (k.terminateTask t).records := by
  have hfreed := k.freeSegment_blocksFreed t
  have hlast : (k.terminateTask t).records =
      (((k.freeAllocations t).freeSegment t).wakeWaiting t).records.modify t
        fun task => { task with state := .free, fileOpen := false } := by
    unfold terminateTask closeFile
    simp only
    rw [records_modifyTask _ _ (g := fun task => { task with fileOpen := false }) rfl,
      records_modifyTask _ _ (g := fun task => { task with state := .free }) rfl,
      modify_modify]
  rw [wakeWaiting_records] at hlast
  have hwake : forall task : TaskRecord,
      (task.wake t).allocTable = task.allocTable ∧
        (task.wake t).heapBase = task.heapBase := by
    intro task
    unfold TaskRecord.wake
    split <;> exact ⟨rfl, rfl⟩
  rw [hlast]
  constructor
  · simp
  · simp only [modify_task_self, hwake]
    exact hfreed.base
  · intro j hj
    simp only [modify_task_self, hwake]
    exact hfreed.table j hj
  · simp
  · intro u hu
    rw [modify_task_of_ne _ hu]
    simp only [hfreed.others u hu]
  · intro c
    rw [modify_allocated]
    exact hfreed.allocated c
  · rw [modify_started]
    exact hfreed.started

/-!
## loadTask
-/

theorem records_withCard (k : Kernel sd) (card : sd.Card) :
    (k.withCard card).records = k.records := rfl

theorem openFile_records (k : Kernel sd) (t : TaskId) (path : List Byte) :
    (k.openFile t path).records = k.records.modify t fun task =>
      { task with fileOpen := ((k.openFile t path).tasks t).file.isSome } := by
  unfold openFile
  simp only
  rw [records_modifyTask (g := fun task =>
    { task with fileOpen := (sd.openPath k.card path).1.isSome })]
  · rw [records_withCard]
    simp [modifyTask]
  · rfl

theorem closeFile_records (k : Kernel sd) (t : TaskId) :
    (k.closeFile t).records =
      k.records.modify t fun task => { task with fileOpen := false } :=
  records_modifyTask _ _ rfl

@[simp] theorem records_readFile (k : Kernel sd) (t : TaskId) (n : Nat) :
    (k.readFile t n).2.records = k.records := by
  unfold readFile
  split
  · rfl
  · rename_i file hfile
    simp only
    rw [records_modifyTask_same, records_withCard]
    simp [Task.record, hfile]

@[simp] theorem records_seekFile (k : Kernel sd) (t : TaskId) (pos : BitVec 32) :
    (k.seekFile t pos).records = k.records := by
  unfold seekFile
  split
  · rfl
  · rename_i file hfile
    simp only
    rw [records_modifyTask_same, records_withCard]
    simp [Task.record, hfile]

theorem prepareTask_records (k : Kernel sd) (id : TaskId)
    (argStr parentCwd parentArgStr : Option (List Byte)) :
    (k.prepareTask id argStr parentCwd parentArgStr).records =
      k.records.modify id fun task => { task with fileOpen := false } := by
  unfold prepareTask
  simp only
  rw [records_modifyTask_same, closeFile_records]
  rfl

theorem tryOpen_file (k : Kernel sd) (id : TaskId) (path : List Byte) :
    ((k.tryOpen id path).tasks id).file = (sd.openPath k.card path).1 ∧
      (k.tryOpen id path).card = (sd.openPath k.card path).2 := by
  unfold tryOpen openFile
  simp [modifyTask, note, withCard]

theorem readFile_fst (k : Kernel sd) (t : TaskId) (n : Nat) {file : sd.File}
    (hfile : (k.tasks t).file = some file) :
    (k.readFile t n).1 =
      ((sd.read k.card file n).1.1, (sd.read k.card file n).1.2.take n) := by
  simp [readFile, hfile]

theorem tryOpen_records (k : Kernel sd) (id : TaskId) (path : List Byte) :
    (k.tryOpen id path).records = k.records.modify id fun task =>
      { task with fileOpen := ((k.tryOpen id path).tasks id).file.isSome } := by
  unfold tryOpen
  rw [openFile_records, records_note _ (by simp)]

theorem findProgram_records (k : Kernel sd) (id : TaskId) (inputName : List Byte) :
    (k.findProgram id inputName).2.records = k.records.modify id fun task =>
      { task with
        fileOpen := ((k.findProgram id inputName).2.tasks id).file.isSome } := by
  unfold findProgram
  simp only
  by_cases hfirst : ((k.tryOpen id inputName).tasks id).file.isSome = true
  · rw [if_pos hfirst]
    exact tryOpen_records ..
  · rw [if_neg hfirst]
    by_cases hsecond : (((k.tryOpen id inputName).tryOpen id
        (inputName ++ text ".bin")).tasks id).file.isSome = true
    · rw [if_pos hsecond, tryOpen_records, tryOpen_records, modify_modify]
    · rw [if_neg hsecond, tryOpen_records, tryOpen_records, tryOpen_records,
        modify_modify, modify_modify]

theorem segmentTurn_eq (k : Kernel sd) (id : TaskId) (size : Int) :
    k.segmentTurn id size =
      firstFitTurn k.isAllocated size fun start =>
        (k.setAllocatedRange start size true).modifyTask id fun task =>
          { task with heapBase := start, heapLimit := size } := rfl

theorem allocSegment_cases (k : Kernel sd) (id : TaskId) (size : Int) :
    (k.allocSegment id size = (false, k) ∧
        forall s, ¬ FreeRun k.isAllocated GLOBAL_HEAP_SIZE s size) ∨
      exists start, LeastRun k.isAllocated GLOBAL_HEAP_SIZE start size ∧
        k.allocSegment id size =
          (true, (k.setAllocatedRange start size true).modifyTask id fun task =>
            { task with heapBase := start, heapLimit := size }) := by
  unfold allocSegment
  rw [segmentTurn_eq]
  rcases firstFit_cases k.isAllocated size
    (fun start => (k.setAllocatedRange start size true).modifyTask id fun task =>
      { task with heapBase := start, heapLimit := size }) GLOBAL_HEAP_SIZE with
    ⟨run, hscan, hnone⟩ | ⟨start, hscan, hrun⟩
  · rw [hscan]
    exact Or.inl ⟨rfl, hnone⟩
  · rw [hscan]
    exact Or.inr ⟨start, hrun, rfl⟩

theorem allocSegment_records (k : Kernel sd) (id : TaskId) (size : Int) :
    k.allocSegment id size = (false, k) ∨
      exists start, (k.allocSegment id size).1 = true ∧
        FreeRun k.isAllocated GLOBAL_HEAP_SIZE start size ∧
        (k.allocSegment id size).2.records =
          (k.records.mark start size true).modify id fun task =>
            { task with heapBase := start, heapLimit := size } := by
  rcases k.allocSegment_cases id size with ⟨hnone, _⟩ | ⟨start, hrun, hfound⟩
  · exact Or.inl hnone
  · right
    refine ⟨start, ?_, hrun.run, ?_⟩
    · rw [hfound]
    · rw [hfound, records_modifyTask _ _ (g := fun task =>
        { task with heapBase := start, heapLimit := size }) rfl,
        records_setAllocatedRange]

theorem failLoad_records (k : Kernel sd) (id : TaskId) (message : List Byte) :
    (k.failLoad id message).records = k.records.modify id fun task =>
      { task with state := .free, fileOpen := false } := by
  unfold failLoad
  simp only
  rw [records_modifyTask _ _ (g := fun task => { task with state := .free }) rfl,
    closeFile_records, records_stdWrite, modify_modify]

theorem startTask_records (k : Kernel sd) (id : TaskId) (path : List Byte) :
    (k.startTask id path).records =
      k.records.modify id fun task => { task with state := .running } := by
  unfold startTask
  simp only
  rw [records_stdWrite, records_modifyTask_same _ _ rfl,
    records_modifyTask _ _ (g := fun task => { task with state := .running }) rfl,
    records_modifyTask_same _ _ rfl, records_readFile,
    records_modifyTask_same _ _ rfl]

/--
A load into a FREE slot leaves it FREE with its file closed, or gives it a
segment of cells that were all free.
-/
theorem loadTask_records (k : Kernel sd) (id : TaskId) (inputName : List Byte)
    (argStr parentCwd parentArgStr : Option (List Byte))
    (hfree : (k.tasks id).taskState = .free) :
    ((k.loadTask id inputName argStr parentCwd parentArgStr).1 = false ∧
        (k.loadTask id inputName argStr parentCwd parentArgStr).2.records =
          k.records.modify id fun task => { task with fileOpen := false }) ∨
      exists start size,
        (k.loadTask id inputName argStr parentCwd parentArgStr).1 = true ∧
        FreeRun k.isAllocated GLOBAL_HEAP_SIZE start size ∧
        (k.loadTask id inputName argStr parentCwd parentArgStr).2.records =
          k.records.loadSegment id start size := by
  have hfreeRecord : (k.records.task id).state = .free := hfree
  have hprepared := k.prepareTask_records id argStr parentCwd parentArgStr
  unfold loadTask
  simp only
  generalize k.prepareTask id argStr parentCwd parentArgStr = k₁ at hprepared ⊢
  have hfound := k₁.findProgram_records id inputName
  generalize k₁.findProgram id inputName = found at hfound ⊢
  rcases found with ⟨path, k₂⟩
  simp only at hfound ⊢
  rw [hprepared, modify_modify] at hfound
  have hfail : forall (k' : Kernel sd) (message : List Byte),
      k'.records = k₂.records -> (k'.failLoad id message).records =
        k.records.modify id fun task => { task with fileOpen := false } := by
    intro k' message hsame
    rw [failLoad_records, hsame, hfound, modify_modify]
    unfold Records.modify
    simp only [← hfreeRecord]
  cases hopen : (k₂.tasks id).file.isSome with
  | false =>
      left
      rw [hopen] at hfound
      simp [hfound]
  | true =>
      rw [hopen] at hfound
      have hread := k₂.records_readFile id 4
      generalize k₂.readFile id 4 = header at hread ⊢
      rcases header with ⟨result, k₃⟩
      simp only [if_true] at hread ⊢
      by_cases hlength : result.1 = true ∧ result.2.length = 4
      · rw [if_pos hlength]
        by_cases hmagic : bufferOf result.2 0 = 0xAD#8 ∧ bufferOf result.2 1 = 0x01#8
        · rw [if_pos hmagic]
          generalize intOfBytes (bufferOf result.2 2) (bufferOf result.2 3) = size
          rcases k₃.allocSegment_records id size with hnone | ⟨start, hok, hrun, hsegment⟩
          · left
            rw [hnone]
            exact ⟨rfl, hfail k₃ _ hread⟩
          · right
            have halloc : k₃.isAllocated = k.isAllocated := by
              have hsame := congrArg Records.allocated (hread.trans hfound)
              exact hsame
            generalize k₃.allocSegment id size = allocated at hok hsegment ⊢
            rcases allocated with ⟨success, k₄⟩
            simp only at hok hsegment ⊢
            rw [halloc] at hrun
            rw [hok]
            refine ⟨start, size, rfl, hrun, ?_⟩
            simp only [not_true_eq_false, if_false]
            rw [startTask_records, hsegment, hread, hfound]
            simp [Records.modify, Records.mark, loadSegment]
        · rw [if_neg hmagic]
          left
          exact ⟨rfl, hfail k₃ _ hread⟩
      · rw [if_neg hlength]
        left
        exact ⟨rfl, hfail k₃ _ hread⟩

end Kernel
end ArduOS
