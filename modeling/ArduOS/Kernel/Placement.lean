import ArduOS.Kernel.Allocation

/-!
# Where blocks are placed

`Kernel_malloc` and the search for a segment in `Kernel_loadTask` are two
copies of one first-fit search: both take the first run of free cells that is
long enough and mark exactly its cells, and give up only where there is none.
-/

namespace ArduOS

open Library

namespace Kernel

variable {sd : SdFat}

/-- `Kernel_malloc` or the segment search marked these cells and no others. -/
def MarksExactly (k k' : Kernel sd) (start size : Int) : Prop :=
  forall c, k'.isAllocated c = true <->
    k.isAllocated c = true ∨ start <= c ∧ c < start + size

/-- The entry of the table in which the next allocation is recorded. -/
structure FirstFreeEntry (k : Kernel sd) (t : TaskId) (j : Nat) : Prop where
  lt : j < MAX_ALLOCATIONS
  free : ((k.tasks t).allocTable j).ptr = -1
  first : forall i, i < j -> ((k.tasks t).allocTable i).ptr ≠ -1

structure KeepsAllocations (k k' : Kernel sd) : Prop where
  bitmap : k'.heapBitmap = k.heapBitmap
  table : forall u, (k'.tasks u).allocTable = (k.tasks u).allocTable

theorem setAllocatedRange_marksExactly (k : Kernel sd) (start size : Int) :
    MarksExactly k (k.setAllocatedRange start size true) start size := by
  intro c
  have hmark := congrArg (fun r => r.allocated c)
    (k.records_setAllocatedRange start size true)
  have hbit : (k.setAllocatedRange start size true).isAllocated c =
      if start <= c ∧ c < start + size then true else k.isAllocated c := hmark
  rw [hbit]
  by_cases hc : start <= c ∧ c < start + size
  · simp [hc]
  · simp [hc]

theorem firstFreeEntry_of_freeEntry {k : Kernel sd} {t : TaskId} {j : Nat}
    (h : k.freeEntry t = some j) : FirstFreeEntry k t j := by
  have hfind := List.find?_eq_some_iff_getElem.mp h
  rcases hfind with ⟨hfree, i, hi, hget, hbefore⟩
  rw [List.getElem_range] at hget
  rw [List.length_range] at hi
  subst hget
  constructor
  · exact hi
  · simpa using hfree
  · intro j hj
    have hnot := hbefore j hj
    rw [List.getElem_range] at hnot
    simpa using hnot

theorem freeEntry_eq_none {k : Kernel sd} {t : TaskId} (h : k.freeEntry t = none) :
    forall j, j < MAX_ALLOCATIONS -> ((k.tasks t).allocTable j).ptr ≠ -1 := by
  intro j hj
  have hnone := List.find?_eq_none.mp h j (List.mem_range.mpr hj)
  simpa using hnone

theorem mallocAt_cases (k : Kernel sd) (t : TaskId) (start size : Int) :
    ((forall j, j < MAX_ALLOCATIONS -> ((k.tasks t).allocTable j).ptr ≠ -1) ∧
        (k.mallocAt t start size).1 = -1 ∧
        KeepsAllocations k (k.mallocAt t start size).2) ∨
      exists j, FirstFreeEntry k t j ∧ (k.mallocAt t start size).1 = start ∧
        (k.mallocAt t start size).2.heapBitmap =
          (k.setAllocatedRange start size true).heapBitmap ∧
        ((k.mallocAt t start size).2.tasks t).allocTable =
          Function.update (k.tasks t).allocTable j { ptr := start, size := size } ∧
        forall u, u ≠ t -> (k.mallocAt t start size).2.tasks u = k.tasks u := by
  unfold mallocAt
  cases hentry : k.freeEntry t with
  | none =>
      left
      rcases stdWrite_eq k FD_STDERR (text "Err: Alloc table full\n") with ⟨tx, out, h⟩
      refine ⟨freeEntry_eq_none hentry, rfl, ?_⟩
      rw [h]
      exact ⟨rfl, fun _ => rfl⟩
  | some j =>
      right
      have htasks := k.setAllocatedRange_tasks start size true
      refine ⟨j, firstFreeEntry_of_freeEntry hentry, rfl, rfl, ?_, ?_⟩
      · simp [modifyTask, htasks]
      · intro u hu
        simp [modifyTask, htasks, hu]

/--
Both allocators are exact first fit.  `Kernel_malloc` also needs an entry of the
table and changes nothing without one; the segment search needs the cells only.
-/
theorem first_fit (k : Kernel sd) (t : TaskId) (size : Int) :
    ((exists start, FreeRun k.isAllocated GLOBAL_HEAP_SIZE start size) ∧
        (exists j, j < MAX_ALLOCATIONS ∧ ((k.tasks t).allocTable j).ptr = -1) ->
      exists start j, LeastRun k.isAllocated GLOBAL_HEAP_SIZE start size ∧
        FirstFreeEntry k t j ∧ (k.malloc t size).1 = start ∧
        MarksExactly k (k.malloc t size).2 start size ∧
        ((k.malloc t size).2.tasks t).allocTable =
          Function.update (k.tasks t).allocTable j { ptr := start, size := size } ∧
        forall u, u ≠ t -> (k.malloc t size).2.tasks u = k.tasks u) ∧
    (¬ ((exists start, FreeRun k.isAllocated GLOBAL_HEAP_SIZE start size) ∧
        exists j, j < MAX_ALLOCATIONS ∧ ((k.tasks t).allocTable j).ptr = -1) ->
      (k.malloc t size).1 = -1 ∧ KeepsAllocations k (k.malloc t size).2) ∧
    forall id : TaskId,
      ((k.allocSegment id size).1 = true <->
        exists start, FreeRun k.isAllocated GLOBAL_HEAP_SIZE start size) ∧
      (forall start, LeastRun k.isAllocated GLOBAL_HEAP_SIZE start size ->
        ((k.allocSegment id size).2.tasks id).heapBase = start ∧
        ((k.allocSegment id size).2.tasks id).heapLimit = size ∧
        MarksExactly k (k.allocSegment id size).2 start size ∧
        ((k.malloc t size).1 ≠ -1 -> (k.malloc t size).1 = start ∧
          (k.allocSegment id size).2.heapBitmap = (k.malloc t size).2.heapBitmap)) ∧
      ((k.allocSegment id size).1 = false -> (k.allocSegment id size).2 = k) := by
  refine ⟨?_, ?_, ?_⟩
  · rintro ⟨⟨s, hs⟩, j, hj, hfree⟩
    rcases k.malloc_cases t size with ⟨_, hnone⟩ | ⟨start, hrun, hfound⟩
    · exact absurd hs (hnone s)
    · rw [hfound]
      rcases k.mallocAt_cases t start size with
        ⟨hfull, _, _⟩ | ⟨i, hentry, hstart, hbitmap, htable, hothers⟩
      · exact absurd hfree (hfull j hj)
      · refine ⟨start, i, hrun, hentry, hstart, ?_, htable, hothers⟩
        intro c
        rw [← k.setAllocatedRange_marksExactly start size c]
        unfold isAllocated
        rw [hbitmap]
  · intro hnot
    rcases k.malloc_cases t size with ⟨hnone, _⟩ | ⟨start, hrun, hfound⟩
    · rw [hnone]
      exact ⟨rfl, rfl, fun _ => rfl⟩
    · rw [hfound]
      rcases k.mallocAt_cases t start size with ⟨_, hminus, hkept⟩ | ⟨j, hentry, _⟩
      · exact ⟨hminus, hkept⟩
      · exact absurd ⟨⟨start, hrun.run⟩, j, hentry.lt, hentry.free⟩ hnot
  · intro id
    rcases k.allocSegment_cases id size with ⟨hfail, hnone⟩ | ⟨start, hrun, hfound⟩
    · rw [hfail]
      refine ⟨?_, ?_, fun _ => rfl⟩
      · constructor
        · intro hcontra
          cases hcontra
        · rintro ⟨s, hs⟩
          exact absurd hs (hnone s)
      · intro start hrun
        exact absurd hrun.run (hnone start)
    · rw [hfound]
      refine ⟨?_, ?_, ?_⟩
      · exact ⟨fun _ => ⟨start, hrun.run⟩, fun _ => rfl⟩
      · intro start' hrun'
        have hsame := hrun.unique hrun'
        subst hsame
        refine ⟨by simp [modifyTask], by simp [modifyTask], ?_, ?_⟩
        · exact k.setAllocatedRange_marksExactly start size
        · intro hgranted
          rcases k.malloc_cases t size with ⟨hnone, _⟩ | ⟨start', hrun', hmalloc⟩
          · rw [hnone] at hgranted
            exact absurd rfl hgranted
          · have hsame := hrun.unique hrun'
            subst hsame
            rw [hmalloc] at hgranted ⊢
            rcases k.mallocAt_cases t start size with
              ⟨_, hminus, _⟩ | ⟨j, _, hstart, hbitmap, _, _⟩
            · exact absurd hminus hgranted
            · exact ⟨hstart, hbitmap.symm⟩
      · intro hcontra
        cases hcontra

end Kernel
end ArduOS
