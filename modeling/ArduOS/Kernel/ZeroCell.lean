import ArduOS.Kernel.AllocatedMemory

/-!
# Cell 0 of the heap

`OP_MALLOC` pushes `0` for a failed allocation, and `0` is an address too.  The
two are never confused: `Kernel_init` gives the first cells of the heap to Task
0, which no load, allocation or end of a program ever takes from it.
-/

namespace ArduOS

open Library

namespace Kernel

open Records

variable {sd : SdFat}

/--
The states that loads into FREE slots, allocations and ends of programs lead to,
in any order, from `Kernel_init` or from any state of a booted machine.
-/
inductive MemoryReach : Kernel sd -> Prop where
  | init (k : Kernel sd) : MemoryReach k.init
  | machine {k : Kernel sd} (h : Reachable k) : MemoryReach k
  | malloc {k : Kernel sd} (h : MemoryReach k) (t : TaskId) (size : Int) :
      MemoryReach (k.malloc t size).2
  | load {k : Kernel sd} (h : MemoryReach k) (id : TaskId) (hid : id ≠ 0)
      (inputName : List Byte) (argStr parentCwd parentArgStr : Option (List Byte))
      (hfree : (k.tasks id).taskState = .free) :
      MemoryReach (k.loadTask id inputName argStr parentCwd parentArgStr).2
  | terminate {k : Kernel sd} (h : MemoryReach k) (id : TaskId) (hid : id ≠ 0) :
      MemoryReach (k.terminateTask id)
  /-- Whatever else happens in between, as long as it leaves the blocks alone. -/
  | other {k k' : Kernel sd} (h : MemoryReach k)
      (hblock : forall b, k'.records.block b = k.records.block b)
      (halloc : k'.isAllocated = k.isAllocated) : MemoryReach k'

/-- The ownership invariant, with the first cells in the segment of Task 0. -/
structure ZeroTaken (r : Records) : Prop where
  sound : HeapSound r
  segment : r.block (.segment 0) = some (0, 128)

theorem Booted.zeroTaken {r : Records} (h : Booted r) : ZeroTaken r :=
  ⟨h.heapSound, h.segment⟩

theorem Reachable.zeroTaken {k : Kernel sd} (h : Reachable k) : ZeroTaken k.records :=
  ⟨h.heapSound, h.daemon.right.block⟩

theorem zeroTaken_malloc {k : Kernel sd} (h : ZeroTaken k.records) (t : TaskId)
    (size : Int) : ZeroTaken (k.malloc t size).2.records := by
  constructor
  · exact heapSound_malloc h.sound t size
  · by_cases hok : (k.malloc t size).1 = -1
    · rcases k.malloc_records t size with ⟨_, hsame⟩ | ⟨j, _, hrun, _⟩
      · rw [hsame]
        exact h.segment
      · have hnonneg := hrun.nonneg
        omega
    · rcases malloc_grants hok with ⟨j, hgrants⟩
      have hne : Block.segment 0 ≠ Block.entry t j := by simp
      rw [hgrants.others _ hne]
      exact h.segment

theorem zeroTaken_loadTask {k : Kernel sd} (h : ZeroTaken k.records) {id : TaskId}
    (hid : id ≠ 0) (inputName : List Byte)
    (argStr parentCwd parentArgStr : Option (List Byte))
    (hfree : (k.tasks id).taskState = .free) :
    ZeroTaken (k.loadTask id inputName argStr parentCwd parentArgStr).2.records := by
  constructor
  · exact heapSound_loadTask h.sound id inputName argStr parentCwd parentArgStr hfree
  · rcases k.loadTask_records id inputName argStr parentCwd parentArgStr hfree with
      ⟨_, hfailed⟩ | ⟨start, size, _, hrun, hloaded⟩
    · rw [hfailed]
      exact (block_modify _ _ rfl rfl rfl _).trans h.segment
    · rw [hloaded]
      have hne : Block.segment 0 ≠ Block.segment id := by
        intro heq
        injection heq with heq
        exact hid heq.symm
      exact ((grants_segment id hrun).others _ hne).trans h.segment

theorem zeroTaken_exits {t : TaskId} {r r' : Records} (hexit : Exits t r r')
    (ht : t ≠ 0) (h : ZeroTaken r) : ZeroTaken r' :=
  ⟨hexit.heapSound h.sound,
    (hexit.block_other (b := .segment 0) (Ne.symm ht)).trans h.segment⟩

theorem MemoryReach.zeroTaken {k : Kernel sd} (h : MemoryReach k) :
    ZeroTaken k.records := by
  induction h with
  | init k => exact (init_booted k).zeroTaken
  | machine h => exact h.zeroTaken
  | malloc _ t size ih => exact zeroTaken_malloc ih t size
  | load _ id hid inputName argStr parentCwd parentArgStr hfree ih =>
      exact zeroTaken_loadTask ih hid inputName argStr parentCwd parentArgStr hfree
  | terminate _ id hid ih => exact zeroTaken_exits (terminateTask_exits _ id) hid ih
  | other _ hblock halloc ih =>
      exact ⟨ih.sound.congr hblock halloc, (hblock _).trans ih.segment⟩

theorem ZeroTaken.cell_zero {r : Records} (h : ZeroTaken r) : r.Owned 0 0 := by
  refine ⟨.segment 0, rfl, ?_⟩
  rw [cells_of_block h.segment]
  exact ⟨Int.le_refl 0, by decide⟩

theorem ZeroTaken.allocated {r : Records} (h : ZeroTaken r) : r.allocated 0 = true := by
  rcases h.cell_zero with ⟨b, _, hcell⟩
  exact h.sound.ledger.marked b hcell

/-!
## The instruction
-/

theorem malloc_ne_zero {k : Kernel sd} (h : k.isAllocated 0 = true) (t : TaskId)
    (size : Int) : (k.malloc t size).1 ≠ 0 := by
  intro hzero
  rcases k.malloc_records t size with ⟨hminus, _⟩ | ⟨j, _, hrun, _⟩
  · omega
  · have hpos := hrun.pos
    have hfree := hrun.free 0 (by omega) (by omega)
    rw [h] at hfree
    cases hfree

theorem opMalloc_pushes (k : Kernel sd) (t : TaskId) (hsp : 0 <= (k.tasks t).sp)
    (hroom : (k.tasks t).sp < VM_STACK_SIZE) :
    (k.opMalloc t).operand t 0 =
      if ((k.stackPop t).2.malloc t (k.operand t 0)).1 = -1 then 0
      else ((k.stackPop t).2.malloc t (k.operand t 0)).1 := by
  have hpopped : ((k.stackPop t).2.tasks t).sp = (k.tasks t).sp - 1 := by
    simp [stackPop, modifyTask, note]
  have hkept := ((k.stackPop t).2.malloc_quiet t (k.stackPop t).1).sp t
  rw [opMalloc_eq hsp]
  unfold checkStackOverflow
  rw [if_neg (by omega), stackPush_operand, stackPop_fst]

/--
Cell 0 is marked and belongs to no program, so no allocation returns address 0:
an `OP_MALLOC` that passes its stack checks pushes `0` if and only if
`Kernel_malloc` returned `-1`.
-/
theorem zero_means_failure {k : Kernel sd} (hk : MemoryReach k) :
    k.isAllocated 0 = true ∧
    (forall t, t ≠ 0 -> ¬ k.records.Owned t 0) ∧
    forall t, t ≠ 0 -> k.nextOpcode t = some .malloc ->
      0 <= ((k.fetchByte t).2.tasks t).sp ->
      ((k.fetchByte t).2.tasks t).sp < VM_STACK_SIZE ->
      ((k.runStep t).operand t 0 = 0 <->
        (((k.fetchByte t).2.stackPop t).2.malloc t
          ((k.fetchByte t).2.operand t 0)).1 = -1) := by
  have htaken := hk.zeroTaken
  refine ⟨htaken.allocated, ?_, ?_⟩
  · intro t ht howned
    exact htaken.sound.not_owned ht howned htaken.cell_zero
  · intro t _ hop hsp hroom
    have hfetched := fetchByte_records hop
    have hpopped := (k.fetchByte t).2.records_stackPop t
    have hbits : ((k.fetchByte t).2.stackPop t).2.isAllocated 0 = true := by
      have hsame := congrArg Records.allocated (hpopped.trans hfetched)
      exact (congrFun hsame 0).trans htaken.allocated
    have hnonzero := malloc_ne_zero hbits t ((k.fetchByte t).2.operand t 0)
    rw [runStep_malloc hop, opMalloc_pushes _ t hsp hroom]
    split
    · rename_i hminus
      exact ⟨fun _ => hminus, fun _ => rfl⟩
    · rename_i hsome
      exact ⟨fun hzero => absurd hzero hnonzero, fun hminus => absurd hminus hsome⟩

set_option maxRecDepth 4000 in
/-- Four cells for a program that has just started: no failure, and no `0`. -/
theorem zero_means_failure_mallocing :
    (mallocing.runStep 1).operand 1 0 ≠ 0 ∧
      (((mallocing.fetchByte 1).2.stackPop 1).2.malloc 1
        ((mallocing.fetchByte 1).2.operand 1 0)).1 ≠ -1 := by
  have hfacts : mallocing.nextOpcode 1 = some .malloc ∧
      0 <= ((mallocing.fetchByte 1).2.tasks 1).sp ∧
      ((mallocing.fetchByte 1).2.tasks 1).sp < VM_STACK_SIZE ∧
      (mallocing.runStep 1).operand 1 0 ≠ 0 := by decide +kernel
  rcases hfacts with ⟨hop, hsp, hroom, hpushed⟩
  have hreach : Reachable mallocing := ⟨_, _, rfl⟩
  have hmeans := (zero_means_failure (.machine hreach)).right.right 1 (by decide) hop
    hsp hroom
  exact ⟨hpushed, fun hminus => hpushed (hmeans.mpr hminus)⟩

end Kernel
end ArduOS
