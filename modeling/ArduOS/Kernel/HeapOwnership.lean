import ArduOS.Kernel.Allocation
import ArduOS.Kernel.CardImage

/-!
# Heap ownership

`Kernel_init` records one block, twice.  From there no sequence of allocations,
loads and terminations makes two blocks overlap, or unmarks a cell of a block
that is still recorded.
-/

namespace ArduOS

open Library Records

namespace Kernel

variable {sd : SdFat}

/-!
## The booted kernel
-/

structure Booted (r : Records) : Prop where
  running : (r.task 0).state = .running
  free : forall t, t ≠ 0 -> (r.task t).state = .free
  segment : r.block (.segment 0) = some (0, 128)
  entry : r.block (.entry 0 0) = some (0, 128)
  others : forall b, b ≠ .segment 0 -> b ≠ .entry 0 0 -> r.block b = none
  allocated : forall c, r.allocated c = true <-> 0 <= c ∧ c < 128

def cleared (k : Kernel sd) : Kernel sd :=
  modifyTask
    { k with
      globalHeap := fun _ => 0
      heapBitmap := fun _ => 0#8
      rxBuffer := fun _ => 0#8
      tasks := fun i => initTask (k.tasks i) } 0 Task.setRunning

theorem cleared_isAllocated (k : Kernel sd) (c : Int) :
    k.cleared.isAllocated c = false := by
  rw [isAllocated_eq_getLsbD]
  simp [cleared, modifyTask]

theorem cleared_records_task (k : Kernel sd) (t : TaskId) :
    (k.cleared.records.task t).heapBase = -1 ∧
      forall j, ((k.cleared.records.task t).allocTable j).ptr = -1 := by
  by_cases ht : t = 0
  · subst ht
    simp [cleared, records, modifyTask, initTask, Task.record, Task.setRunning,
      Task.setFree]
  · simp [cleared, records, modifyTask, initTask, Task.record, Task.setFree, ht]

theorem init_records (k : Kernel sd) :
    k.init.records = (k.cleared.records.grantEntry 0 0 0 128).modify 0 fun task =>
      { task with heapBase := 0, heapLimit := 128 } := by
  have hentry : k.cleared.freeEntry 0 = some 0 := by
    have htable : forall j, ((k.cleared.tasks 0).allocTable j).ptr = -1 :=
      (k.cleared_records_task 0).right
    simp [freeEntry, htable, List.range_succ]
  have hmalloc : k.cleared.malloc 0 128 = k.cleared.mallocAt 0 0 128 := by
    have hpos : ¬ (128 : Int) <= 0 := by omega
    unfold malloc
    rw [if_neg hpos, mallocTurn_eq,
      firstFit_empty k.cleared_isAllocated _ (by omega) (by decide)]
  have hresult : (k.cleared.mallocAt 0 0 128).1 = 0 := by
    simp [mallocAt, hentry]
  have hrecords : (k.cleared.mallocAt 0 0 128).2.records =
      k.cleared.records.grantEntry 0 0 0 128 := by
    rcases k.cleared.mallocAt_records 0 0 128 with
      ⟨hfail, _⟩ | ⟨j, hj, _, hgrant⟩
    · rw [hresult] at hfail
      cases hfail
    · rw [hentry] at hj
      have hzero : j = 0 := Fin.ext (Option.some.inj hj).symm
      rw [hgrant, hzero]
  have hne : (k.cleared.malloc 0 128).1 ≠ -1 := by
    rw [hmalloc, hresult]
    omega
  have hunfold : k.init = (k.cleared.malloc 0 128).2.modifyTask 0 fun task =>
      { task with heapBase := (k.cleared.malloc 0 128).1, heapLimit := 128 } :=
    if_pos hne
  rw [hunfold, hmalloc, hresult, records_modifyTask _ _ (g := fun task =>
    { task with heapBase := 0, heapLimit := 128 }) rfl, hrecords]

theorem init_booted (k : Kernel sd) : Booted k.init.records := by
  have hblank := k.cleared_records_task
  rw [init_records]
  constructor
  · simp [grantEntry, cleared, records, modifyTask, Task.record, Task.setRunning]
  · intro t ht
    simp [grantEntry, modify_task_of_ne _ ht, cleared, records, modifyTask, initTask,
      Task.record, Task.setFree, ht]
  · simp [block, blockAt]
  · simp [block, blockAt, grantEntry]
  · intro b hsegment hentry
    cases b with
    | segment t =>
        have ht : t ≠ 0 := by
          intro heq
          exact hsegment (by rw [heq])
        simp [block, blockAt, grantEntry, modify_task_of_ne _ ht, (hblank t).left]
    | entry t j =>
        by_cases ht : t = 0
        · subst ht
          have hj : (j : Nat) ≠ 0 := by
            intro heq
            have hzero : j = 0 := Fin.ext heq
            exact hentry (by rw [hzero])
          simp [block, blockAt, grantEntry, (hblank 0).right, hj]
        · simp [block, blockAt, grantEntry, modify_task_of_ne _ ht, (hblank t).right]
  · intro c
    have hclear : k.cleared.records.allocated c = false := k.cleared_isAllocated c
    simp [grantEntry, mark, hclear]

theorem init_fileOpen (k : Kernel sd) (t : TaskId) :
    (k.init.records.task t).fileOpen = (k.records.task t).fileOpen := by
  rw [init_records]
  by_cases ht : t = 0
  · subst ht
    simp [grantEntry, cleared, records, modifyTask, initTask, Task.record,
      Task.setRunning, Task.setFree]
  · simp [grantEntry, modify_task_of_ne _ ht, cleared, records, modifyTask, initTask,
      Task.record, Task.setFree, ht]

theorem Booted.heapSound {r : Records} (h : Booted r) : HeapSound r := by
  have hcells : forall b, r.cells b ⊆ { c | 0 <= c ∧ c < 128 } := by
    intro b c hc
    rcases hc with ⟨start, size, hb, hc⟩
    by_cases hsegment : b = .segment 0
    · rw [hsegment, h.segment] at hb
      cases hb
      exact hc
    · by_cases hentry : b = .entry 0 0
      · rw [hentry, h.entry] at hb
        cases hb
        exact hc
      · rw [h.others b hsegment hentry] at hb
        cases hb
  have hother : forall b, b ≠ .segment 0 -> b ≠ .entry 0 0 -> r.cells b = ∅ :=
    fun b hsegment hentry => cells_of_none (h.others b hsegment hentry)
  have hsame : r.cells (.segment 0) = r.cells (.entry 0 0) := by
    rw [cells_of_block h.segment, cells_of_block h.entry]
  constructor
  · constructor
    · intro b c hc
      exact (h.allocated c).mpr (hcells b hc)
    · intro b b' hne
      have hempty : forall b, b ≠ .segment 0 -> b ≠ .entry 0 0 ->
          r.ledger.owns b = ∅ := hother
      by_cases hsegment : b = .segment 0
      · by_cases hentry : b' = .entry 0 0
        · right
          subst hsegment
          subst hentry
          exact ⟨Or.inl ⟨rfl, rfl⟩, hsame⟩
        · left
          rw [hempty b' (fun h' => hne (hsegment.trans h'.symm)) hentry]
          exact Set.disjoint_empty _
      · by_cases hentry : b = .entry 0 0
        · by_cases hsegment' : b' = .segment 0
          · right
            subst hentry
            subst hsegment'
            exact ⟨Or.inr ⟨rfl, rfl⟩, hsame.symm⟩
          · left
            rw [hempty b' hsegment' (fun h' => hne (hentry.trans h'.symm))]
            exact Set.disjoint_empty _
        · left
          rw [hempty b hsegment hentry]
          exact Set.empty_disjoint _
  · intro b start size hb
    by_cases hsegment : b = .segment 0
    · rw [hsegment, h.segment] at hb
      cases hb
      decide
    · by_cases hentry : b = .entry 0 0
      · rw [hentry, h.entry] at hb
        cases hb
        decide
      · rw [h.others b hsegment hentry] at hb
        cases hb

/-!
## Every sequence of heap operations
-/

/-- The states a sequence of heap operations leads to, in any order. -/
inductive HeapReach : Kernel sd -> Prop where
  | init (k : Kernel sd) : HeapReach k.init
  | malloc {k : Kernel sd} (h : HeapReach k) (t : TaskId) (size : Int) :
      HeapReach (k.malloc t size).2
  | load {k : Kernel sd} (h : HeapReach k) (id : TaskId) (inputName : List Byte)
      (argStr parentCwd parentArgStr : Option (List Byte))
      (hfree : (k.tasks id).taskState = .free) :
      HeapReach (k.loadTask id inputName argStr parentCwd parentArgStr).2
  | terminate {k : Kernel sd} (h : HeapReach k) (id : TaskId) (hid : id ≠ 0) :
      HeapReach (k.terminateTask id)
  | setFree {k : Kernel sd} (h : HeapReach k) (t : TaskId) :
      HeapReach (k.modifyTask t Task.setFree)
  /-- Whatever else happens in between, as long as it leaves the blocks alone. -/
  | other {k k' : Kernel sd} (h : HeapReach k)
      (hblock : forall b, k'.records.block b = k.records.block b)
      (halloc : k'.isAllocated = k.isAllocated) : HeapReach k'

theorem malloc_grants {k : Kernel sd} {t : TaskId} {size : Int}
    (hok : (k.malloc t size).1 ≠ -1) :
    exists j, Grants (.entry t j) (k.malloc t size).1 size k.records
      (k.malloc t size).2.records := by
  rcases k.malloc_records t size with ⟨hfail, _⟩ | ⟨j, _, hrun, hrecords⟩
  · exact absurd hfail hok
  · refine ⟨j, ?_⟩
    rw [hrecords]
    exact grants_entry t j hrun

theorem heapSound_malloc {k : Kernel sd} (h : HeapSound k.records) (t : TaskId)
    (size : Int) : HeapSound (k.malloc t size).2.records := by
  by_cases hok : (k.malloc t size).1 = -1
  · rcases k.malloc_records t size with ⟨_, hsame⟩ | ⟨_, _, hrun, _⟩
    · rw [hsame]
      exact h
    · have hnonneg := hrun.nonneg
      omega
  · rcases malloc_grants hok with ⟨j, hgrants⟩
    exact hgrants.heapSound h

theorem heapSound_loadTask {k : Kernel sd} (h : HeapSound k.records) (id : TaskId)
    (inputName : List Byte) (argStr parentCwd parentArgStr : Option (List Byte))
    (hfree : (k.tasks id).taskState = .free) :
    HeapSound (k.loadTask id inputName argStr parentCwd parentArgStr).2.records := by
  rcases k.loadTask_records id inputName argStr parentCwd parentArgStr hfree with
    ⟨_, hrecords⟩ | ⟨start, size, _, hrun, hrecords⟩
  · rw [hrecords]
    exact h.modify id rfl rfl rfl
  · rw [hrecords]
    exact (grants_segment id hrun).heapSound h

theorem HeapReach.heapSound {k : Kernel sd} (h : HeapReach k) :
    HeapSound k.records := by
  induction h with
  | init k => exact (init_booted k).heapSound
  | malloc _ t size ih => exact heapSound_malloc ih t size
  | load _ id inputName argStr parentCwd parentArgStr hfree ih =>
      exact heapSound_loadTask ih id inputName argStr parentCwd parentArgStr hfree
  | terminate _ id _ ih => exact (terminateTask_exits _ id).heapSound ih
  | setFree _ t ih =>
      rw [records_modifyTask _ t (g := fun task => { task with state := .free }) rfl]
      exact ih.modify t rfl rfl rfl
  | other _ hblock halloc ih => exact ih.congr hblock halloc

/--
Recorded blocks lie in the heap, are marked, and overlap only if they are the
two records of Task 0's block; what is handed out next overlaps none of them;
and the end of a task unmarks no cell of a block it does not own.
-/
theorem heap_ownership {k : Kernel sd} (h : HeapReach k) :
    (forall b start size, k.records.block b = some (start, size) ->
      0 <= start ∧ start + size <= GLOBAL_HEAP_SIZE ∧
        forall c, start <= c -> c < start + size -> k.isAllocated c = true) ∧
    (forall b b', b ≠ b' ->
      Disjoint (k.records.cells b) (k.records.cells b') ∨
        (Twins b b' ∧ k.records.cells b = k.records.cells b')) ∧
    (forall t size, (k.malloc t size).1 ≠ -1 -> forall b,
      Disjoint (k.records.cells b)
        { c | (k.malloc t size).1 <= c ∧ c < (k.malloc t size).1 + size }) ∧
    (forall id inputName argStr parentCwd parentArgStr,
      (k.tasks id).taskState = .free ->
      (k.loadTask id inputName argStr parentCwd parentArgStr).1 = true -> forall b,
      Disjoint (k.records.cells b)
        ((k.loadTask id inputName argStr parentCwd parentArgStr).2.records.cells
          (.segment id))) ∧
    (forall id, id ≠ 0 -> forall b c, c ∈ (k.terminateTask id).records.cells b ->
      (k.terminateTask id).isAllocated c = true) := by
  have hsound := h.heapSound
  refine ⟨?_, hsound.ledger.apart, ?_, ?_, ?_⟩
  · intro b start size hb
    rcases hsound.proper b start size hb with ⟨hlo, _, hhi⟩
    refine ⟨hlo, hhi, ?_⟩
    intro c hc hc'
    apply hsound.ledger.marked b
    exact ⟨start, size, hb, hc, hc'⟩
  · intro t size hok b
    rcases malloc_grants hok with ⟨j, hgrants⟩
    exact hsound.ledger.disjoint_of_fresh hgrants.fresh b
  · intro id inputName argStr parentCwd parentArgStr hfree hok b
    rcases k.loadTask_records id inputName argStr parentCwd parentArgStr hfree with
      ⟨hfail, _⟩ | ⟨start, size, _, hrun, hrecords⟩
    · rw [hfail] at hok
      cases hok
    · have hgrants := grants_segment (r := k.records) id hrun
      rw [hrecords, cells_of_block hgrants.granted]
      exact hsound.ledger.disjoint_of_fresh hgrants.fresh b
  · intro id hid b c hc
    exact (h.terminate id hid).heapSound.ledger.marked b hc

/-- The block of a first allocation does not touch the segment of Task 0. -/
theorem heap_ownership_first_allocation :
    let k := ((reset (CardImage.ofProgram 16#8 [] 0) : Kernel CardImage.sdFat).init.malloc
      1 10).2
    Disjoint (k.records.cells (.entry 1 0)) (k.records.cells (.segment 0)) := by
  intro k
  have hreach : HeapReach k := .malloc (.init _) 1 10
  rcases (heap_ownership hreach).right.left (.entry 1 0) (.segment 0) (by decide) with
    hdisjoint | ⟨⟨hcontra, _⟩ | ⟨hcontra, _⟩, _⟩
  · exact hdisjoint
  · cases hcontra
  · cases hcontra

end Kernel
end ArduOS
