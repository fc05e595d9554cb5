import ArduOS.Kernel.Isolation
import ArduOS.Kernel.Placement
import ArduOS.Kernel.Segments

/-!
# Addresses of allocated memory

`OP_MALLOC` hands out absolute addresses, and `Kernel_getPhysAddr` takes every
address below `heap_limit` for one of the segment.  A block is reached under the
address the task got as long as it does not begin below the limit; it does when
a block to the left of a long segment has become free.
-/

namespace ArduOS

open Library

namespace Kernel

open Records

variable {sd : SdFat}

/-- This turn executes `OP_MALLOC` for `t`: it asks for `size` cells, gets `addr`. -/
structure Mallocs (k : Kernel sd) (t : TaskId) (size addr : Int) : Prop where
  current : k.current = t
  requested : exists k', k.dispatches t = some k' ∧ k'.nextOpcode t = some .malloc ∧
    0 <= ((k'.fetchByte t).2.tasks t).sp ∧ (k'.fetchByte t).2.operand t 0 = size
  active : ((k.step .turn).records.task t).state ≠ .free
  pushed : (k.step .turn).operand t 0 = addr
  nonzero : addr ≠ 0

/-- The block is at the addresses `addr`, ..., `addr + size - 1` of the task. -/
structure BlockReachable (k : Kernel sd) (t : TaskId) (addr size : Int) : Prop where
  phys : forall i, 0 <= i -> i < size -> k.getPhysAddr t (addr + i) = addr + i
  /-- `LOAD` and `STORE` at an address of the block access its cell. -/
  access : forall i, 0 <= i -> i < size -> forall op a c, op = .load ∨ op = .store ->
    k.operand t 0 = addr + i -> OpCell k t op a -> Access.At c a -> c = addr + i
  segment : forall i, 0 <= i -> i < size -> addr + i ∉ k.records.cells (.segment t)

theorem opCell_of_phys {k : Kernel sd} {t : TaskId} {addr : Int}
    (hphys : k.getPhysAddr t addr = addr) {op : VMOpcode} {a : Access} {c : Int}
    (hop : op = .load ∨ op = .store) (haddr : k.operand t 0 = addr)
    (hcell : OpCell k t op a) (hat : Access.At c a) : c = addr := by
  cases hcell with
  | load _ =>
      rw [haddr, hphys] at hat
      cases hat
      rfl
  | store _ =>
      rw [haddr, hphys] at hat
      cases hat
      rfl
  | prts c h => rcases hop with hop | hop <;> cases hop
  | sys a h => rcases hop with hop | hop <;> cases hop

/-!
## What the instruction does
-/

theorem opMalloc_least {k : Kernel sd} {t : TaskId} {addr : Int}
    (hsp : 0 <= (k.tasks t).sp)
    (hactive : ((k.opMalloc t).records.task t).state ≠ .free)
    (haddr : (k.opMalloc t).operand t 0 = addr) (hnonzero : addr ≠ 0) :
    LeastRun k.isAllocated GLOBAL_HEAP_SIZE addr (k.operand t 0) := by
  have hbits : (k.stackPop t).2.isAllocated = k.isAllocated :=
    congrArg Records.allocated (k.records_stackPop t)
  have hsize := k.stackPop_fst t
  rw [opMalloc_eq hsp] at hactive haddr
  generalize k.stackPop t = popped at hbits hsize hactive haddr
  rcases popped with ⟨size, k₁⟩
  simp only at hbits hsize hactive haddr
  rw [← hsize, ← hbits]
  unfold checkStackOverflow at hactive haddr
  split at hactive
  · have hexit := ((k₁.malloc t size).2.stdWrite FD_STDERR
      (text "Err: Stack Overflow\n")).terminateTask_exits t
    exact absurd hexit.free hactive
  · rename_i hroom
    rw [if_neg hroom, stackPush_operand] at haddr
    rcases k₁.malloc_cases t size with ⟨hnone, _⟩ | ⟨start, hrun, hfound⟩
    · rw [hnone] at haddr
      exact absurd haddr.symm hnonzero
    · rw [hfound] at haddr
      rcases k₁.mallocAt_cases t start size with ⟨_, hminus, _⟩ | ⟨_, _, hstart, _⟩
      · rw [hminus] at haddr
        exact absurd haddr.symm hnonzero
      · have hnonneg := hrun.run.nonneg
        rw [hstart, if_neg (by omega)] at haddr
        rw [← haddr]
        exact hrun

theorem Mallocs.least {k : Kernel sd} {t : TaskId} {size addr : Int}
    (h : Mallocs k t size addr) : LeastRun k.isAllocated GLOBAL_HEAP_SIZE addr size := by
  rcases h.requested with ⟨k', hturn, hop, hsp, hsize⟩
  have hactive := h.active
  have hpushed := h.pushed
  have hstep := step_turn_of_dispatches h.current hturn
  have hsame : (k.step .turn).records = (k'.runStep t).records := by rw [hstep]; rfl
  have hoperand : (k.step .turn).operand t 0 = (k'.runStep t).operand t 0 := by
    rw [hstep]
    rfl
  rw [hsame] at hactive
  rw [hoperand] at hpushed
  rw [runStep_malloc hop] at hactive hpushed
  have hrecords := (fetchByte_records hop).trans (dispatches_records hturn)
  have hbits : (k'.fetchByte t).2.isAllocated = k.isAllocated :=
    congrArg Records.allocated hrecords
  rw [← hsize, ← hbits]
  exact opMalloc_least hsp hactive hpushed h.nonzero

theorem Mallocs.sameSegment {k : Kernel sd} (hk : Reachable k) {t : TaskId}
    {size addr : Int} (h : Mallocs k t size addr) :
    SameSegment t k.records (k.step .turn).records := by
  rcases h.requested with ⟨k', hturn, _⟩
  have hrunning := dispatches_running hturn
  apply k.step_sameSegment .turn hk.daemon.left _ h.active
  rw [records_task]
  simp [Task.record, hrunning]

/-!
## Where the block is found
-/

theorem cells_segment_congr {r r' : Records} {t : TaskId} (h : SameSegment t r r') :
    r'.cells (.segment t) = r.cells (.segment t) := by
  have hblock : r'.block (.segment t) = r.block (.segment t) := by
    simp only [Records.block, h.base, h.limit]
  unfold cells
  rw [hblock]

theorem Reachable.base_ne_zero {k : Kernel sd} (hk : Reachable k) {t : TaskId}
    (ht : t ≠ 0) (hlimit : 0 < (k.tasks t).heapLimit) : (k.tasks t).heapBase ≠ 0 := by
  intro hbase
  have hblock : k.records.block (.segment t) = some (0, (k.tasks t).heapLimit) := by
    simp [Records.block, blockAt, records_task, Task.record, hbase]
  have hdaemon := hk.daemon.right.block
  have howned : k.records.Owned t 0 := by
    refine ⟨.segment t, rfl, ?_⟩
    rw [cells_of_block hblock]
    exact ⟨Int.le_refl 0, by omega⟩
  apply hk.heapSound.not_owned ht howned
  refine ⟨.segment 0, rfl, ?_⟩
  rw [cells_of_block hdaemon]
  exact ⟨Int.le_refl 0, by decide⟩

/-- Nothing is ever free in the segment of the daemon. -/
theorem Reachable.daemon_allocated {k : Kernel sd} (hk : Reachable k) {c : Int}
    (hlo : 0 <= c) (hhi : c < 128) : k.isAllocated c = true := by
  have hcell : c ∈ k.records.cells (.segment 0) := by
    rw [cells_of_block hk.daemon.right.block]
    exact ⟨hlo, by omega⟩
  exact hk.heapSound.ledger.marked (.segment 0) hcell

theorem Reachable.free_notMem {k : Kernel sd} (hk : Reachable k) {t : TaskId} {c : Int}
    (hfree : k.isAllocated c = false) : c ∉ k.records.cells (.segment t) := by
  intro hc
  have hused := hk.heapSound.ledger.marked (.segment t) hc
  have htrue : k.isAllocated c = true := hused
  rw [hfree] at htrue
  cases htrue

theorem blockReachable_of_limit {k k' : Kernel sd} (hk : Reachable k) {t : TaskId}
    {addr size : Int} (hsame : SameSegment t k.records k'.records)
    (hrun : FreeRun k.isAllocated GLOBAL_HEAP_SIZE addr size)
    (hlimit : (k.tasks t).heapLimit <= addr) : BlockReachable k' t addr size := by
  have hphys : forall i, 0 <= i -> i < size -> k'.getPhysAddr t (addr + i) = addr + i := by
    intro i hlo hhi
    have hsegment : (k'.tasks t).heapLimit = (k.tasks t).heapLimit := hsame.limit
    unfold getPhysAddr
    rw [if_neg (by omega)]
  constructor
  · exact hphys
  · intro i hlo hhi op a c hop haddr hcell hat
    exact opCell_of_phys (hphys i hlo hhi) hop haddr hcell hat
  · intro i hlo hhi
    rw [cells_segment_congr hsame]
    exact hk.free_notMem (hrun.free (addr + i) (by omega) (by omega))

/--
The block is at the addresses its owner was given, from `OP_MALLOC` until the
owner ends, if and only if no run of that many free cells began below the limit.
-/
theorem allocated_memory_reachable {k : Kernel sd} (hk : Reachable k) {t : TaskId}
    {size addr : Int} (hmalloc : Mallocs k t size addr) :
    (forall events, AllSteps Kernel.step (StaysActive t) (k.step .turn) events ->
        BlockReachable ((k.step .turn).run events) t addr size) <->
      forall s, FreeRun k.isAllocated GLOBAL_HEAP_SIZE s size ->
        (k.tasks t).heapLimit <= s := by
  have hleast := hmalloc.least
  have hsame := hmalloc.sameSegment hk
  constructor
  · intro hreachable s hs
    have hblock := hreachable [] trivial
    have hphys := hblock.phys 0 (Int.le_refl 0) hleast.run.pos
    have hfirst := hleast.least s hs
    have hnonneg := hleast.run.nonneg
    by_contra hbelow
    have hbase : ((k.step .turn).tasks t).heapBase = (k.tasks t).heapBase := hsame.base
    have hlimit : ((k.step .turn).tasks t).heapLimit = (k.tasks t).heapLimit := hsame.limit
    rcases hmalloc.requested with ⟨k', hturn, _⟩
    have ht := (dispatches_cases hturn).right.left
    have hne := hk.base_ne_zero ht (by omega)
    have hrun : (k.step .turn).run [] = k.step .turn := rfl
    rw [hrun, Int.add_zero] at hphys
    unfold getPhysAddr at hphys
    rw [hbase, hlimit, if_pos ⟨hnonneg, by omega⟩] at hphys
    omega
  · intro hlimit events hrun
    have hkept := run_sameSegment (hk.step .turn).daemon.left hmalloc.active hrun
    exact blockReachable_of_limit hk (hsame.trans hkept) hleast.run
      (hlimit addr hleast.run)

/-!
## Examples
-/

def mallocing : Kernel CardImage.sdFat :=
  (boot (CardImage.ofProgram 16#8 [0x10#8, 0x04#8, 0x00#8, 0x50#8] 1)).run
    (.arrive runRequest.bytes :: List.replicate 4 .turn)

theorem mallocs_of_awake {k : Kernel sd} {t : TaskId} {size addr : Int}
    (hrunnable : (k.tasks t).isRunnable = true ∧ ¬ (k.tasks t).wakeUpTime > 0#32 ∧
      k.current = t ∧ k.nextOpcode t = some .malloc ∧
      0 <= ((k.fetchByte t).2.tasks t).sp ∧ (k.fetchByte t).2.operand t 0 = size ∧
      ((k.step .turn).tasks t).taskState = .running ∧
      (k.step .turn).operand t 0 = addr) (ht : t ≠ 0) (hnonzero : addr ≠ 0) :
    Mallocs k t size addr := by
  rcases hrunnable with
    ⟨hrun, hawake, hcurrent, hop, hsp, hsize, hafter, hpushed⟩
  constructor
  · exact hcurrent
  · exact ⟨k, dispatches_of_awake hrun ht hawake, hop, hsp, hsize⟩
  · rw [records_task]
    simp [Task.record, hafter]
  · exact hpushed
  · exact hnonzero

set_option maxRecDepth 4000 in
theorem allocated_memory_reachable_one_program :
    BlockReachable (mallocing.step .turn) 1 144 4 := by
  have hfacts : (mallocing.tasks 1).heapLimit = 16 ∧
      (mallocing.tasks 1).isRunnable = true ∧
      ¬ (mallocing.tasks 1).wakeUpTime > 0#32 ∧ mallocing.current = 1 ∧
      mallocing.nextOpcode 1 = some .malloc ∧
      0 <= ((mallocing.fetchByte 1).2.tasks 1).sp ∧
      (mallocing.fetchByte 1).2.operand 1 0 = 4 ∧
      ((mallocing.step .turn).tasks 1).taskState = .running ∧
      (mallocing.step .turn).operand 1 0 = 144 := by decide +kernel
  rcases hfacts with ⟨hlimit, hready⟩
  have hmalloc : Mallocs mallocing 1 4 144 :=
    mallocs_of_awake hready (by decide) (by decide)
  have hreach : Reachable mallocing := ⟨_, _, rfl⟩
  refine (allocated_memory_reachable hreach hmalloc).mpr ?_ [] trivial
  intro s hs
  have hnonneg := hs.nonneg
  have hpos := hs.pos
  by_contra hbelow
  have htaken := hreach.daemon_allocated hnonneg (by omega)
  rw [hs.free s (Int.le_refl s) (by omega)] at htaken
  cases htaken

def twoPrograms : CardImage :=
  { files :=
      [(text "p", [0xAD#8, 0x01#8, 0x10#8, 0x00#8, 0xFF#8, 0xFF#8, 0x00#8]),
        (text "q", [0xAD#8, 0x01#8, 0x00#8, 0x01#8, 0x10#8, 0x10#8, 0x00#8, 0x50#8])]
    directories := []
    opensLeft := 2 }

def runOtherRequest : SentPacket :=
  sentPacket SP_UNFRAGED PT_STRING SYS_EXEC (text "0 q")
    execArguments (by decide)

def reusing : Kernel CardImage.sdFat :=
  (boot twoPrograms).run
    (.arrive (runRequest.bytes ++ runOtherRequest.bytes) :: List.replicate 8 .turn)

set_option maxRecDepth 4000 in
/-- The block is where the short program was, its address stands for another cell. -/
theorem reusing_not_reachable :
    Reachable reusing ∧ Mallocs reusing 2 16 128 ∧
      (reusing.step .turn).getPhysAddr 2 128 = 272 ∧
      272 ∈ (reusing.step .turn).records.cells (.segment 2) ∧
      ¬ BlockReachable (reusing.step .turn) 2 128 16 := by
  -- the run is evaluated once for all of them
  have hfacts : ((reusing.step .turn).records.block (.segment 2) = some (144, 256) ∧
      (reusing.step .turn).getPhysAddr 2 128 = 272) ∧
      (reusing.tasks 2).isRunnable = true ∧
      ¬ (reusing.tasks 2).wakeUpTime > 0#32 ∧ reusing.current = 2 ∧
      reusing.nextOpcode 2 = some .malloc ∧
      0 <= ((reusing.fetchByte 2).2.tasks 2).sp ∧
      (reusing.fetchByte 2).2.operand 2 0 = 16 ∧
      ((reusing.step .turn).tasks 2).taskState = .running ∧
      (reusing.step .turn).operand 2 0 = 128 := by decide +kernel
  rcases hfacts with ⟨hsegment, hready⟩
  refine ⟨⟨_, _, rfl⟩, mallocs_of_awake hready (by decide) (by decide),
    hsegment.right, ?_, ?_⟩
  · rw [cells_of_block hsegment.left]
    decide
  · intro hblock
    have hphys := hblock.phys 0 (by decide) (by decide)
    rw [Int.add_zero, hsegment.right] at hphys
    cases hphys

end Kernel
end ArduOS
