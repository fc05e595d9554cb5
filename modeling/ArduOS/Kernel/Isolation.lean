import ArduOS.Kernel.Instructions
import ArduOS.Kernel.Runs

/-!
# Isolation

`Kernel_getPhysAddr` translates the addresses of a task's segment and lets all
others through, because blocks of `Kernel_malloc` are addressed directly.  So
an instruction reaches whatever its operands address.  It reaches nothing else,
and as long as they address blocks of the task, it stays within these.
-/

namespace ArduOS

open Library

namespace Records

/-- The cell is in a recorded block of `t`. -/
def Owned (r : Records) (t : TaskId) (c : Int) : Prop :=
  exists b : Block, b.owner = t ∧ c ∈ r.cells b

theorem HeapSound.not_owned {r : Records} (h : HeapSound r) {t u : TaskId} (hne : u ≠ t)
    {c : Int} (hu : r.Owned u c) : ¬ r.Owned t c := by
  rintro ⟨b, hb, hc⟩
  rcases hu with ⟨b', hb', hc'⟩
  have hblocks : b ≠ b' := by
    intro heq
    rw [heq, hb'] at hb
    exact hne hb
  rcases h.ledger.apart b b' hblocks with hdisjoint | ⟨htwins, _⟩
  · exact Set.disjoint_left.mp hdisjoint hc hc'
  · -- twins have one owner
    rcases htwins with ⟨rfl, rfl⟩ | ⟨rfl, rfl⟩
    · exact hne (hb'.symm.trans hb)
    · exact hne (hb'.symm.trans hb)

end Records

namespace Kernel

open Records

variable {sd : SdFat}

/-- The access touches the heap cell `c`. -/
inductive Access.At (c : Int) : Access -> Prop where
  | read : Access.At c (.heapRead c)
  | write : Access.At c (.heapWrite c)

/-- An instruction of `t` addresses the heap through its operands in this way. -/
def Addresses (k : Kernel sd) (t : TaskId) (a : Access) : Prop :=
  exists op, k.nextOpcode t = some op ∧ OpCell (k.fetchByte t).2 t op a

def Addressed (k : Kernel sd) (t : TaskId) (a : Access) : Prop :=
  forall c, Access.At c a -> k.Addresses t a

theorem addressed_permits (k : Kernel sd) (t : TaskId) (top : Int)
    (htop : VM_STACK_SIZE - 1 <= top) : Permits (k.Addressed t) t top := by
  constructor
  · exact htop
  · rintro i _ _ c ⟨⟩
  · rintro _ _ c ⟨⟩
  · rintro _ _ c ⟨⟩

theorem runStep_addressed (k : Kernel sd) (t : TaskId)
    (hargs : k.nextOpcode t = some .sys -> 0 <= (k.tasks t).sp ->
      (k.fetchByte t).2.HasOperands t) :
    Effect (k.Addressed t) k (k.runStep t) := by
  apply runStep_effect
    (k.addressed_permits t (max (VM_STACK_SIZE - 1) (k.tasks t).sp) (by omega))
  · omega
  · rintro _ c ⟨⟩
  · rintro _ val c ⟨⟩
  · exact hargs
  · intro op a hop ha c _
    exact ⟨op, hop, ha⟩

theorem getPhysAddr_segment {k : Kernel sd} {t : TaskId} {start size : Int}
    (h : k.records.block (.segment t) = some (start, size)) {addr : Int}
    (hlo : 0 <= addr) (hhi : addr < size) :
    k.getPhysAddr t addr ∈ k.records.cells (.segment t) := by
  have hbase : (k.tasks t).heapBase = start ∧ (k.tasks t).heapLimit = size := by
    simp only [block, blockAt] at h
    split at h
    · cases h
    · cases h
      exact ⟨rfl, rfl⟩
  have hphys : k.getPhysAddr t addr = start + addr := by
    unfold getPhysAddr
    rw [hbase.left, hbase.right, if_pos ⟨hlo, hhi⟩]
  rw [hphys, cells_of_block h]
  exact ⟨by omega, by omega⟩

/--
An instruction that has the operands of its system call accesses only the heap
cells its operands address, and leaves the others as they are.  If these are
cells of the task, then no cell of another task is read or changed.  Addresses
below `heap_limit` always are.
-/
theorem task_isolation {k k' : Kernel sd} (hk : Reachable k) {t : TaskId}
    (hturn : k.dispatches t = some k')
    (hargs : k'.nextOpcode t = some .sys -> 0 <= (k'.tasks t).sp ->
      (k'.fetchByte t).2.HasOperands t) :
    (exists new, (k'.runStep t).log = k.log ++ new ∧
      (forall a, forall c : Int, a ∈ new -> Access.At c a -> k'.Addresses t a) ∧
      ((forall a, forall c : Int, k'.Addresses t a -> Access.At c a ->
          k.records.Owned t c) ->
        forall a, forall c : Int, a ∈ new -> Access.At c a ->
          k.records.Owned t c ∧ forall u, u ≠ t -> ¬ k.records.Owned u c)) ∧
    (forall c, ¬ k'.Addresses t (.heapWrite c) ->
      (k'.runStep t).globalHeap c = k.globalHeap c) ∧
    ((forall a, forall c : Int, k'.Addresses t a -> Access.At c a ->
        k.records.Owned t c) ->
      forall u, u ≠ t -> forall c, k.records.Owned u c ->
        (k'.runStep t).globalHeap c = k.globalHeap c) ∧
    (forall start size, k.records.block (.segment t) = some (start, size) ->
      forall addr, 0 <= addr -> addr < size -> k.records.Owned t (k.getPhysAddr t addr)) := by
  have hsound := hk.heapSound
  have heffect := k'.runStep_addressed t hargs
  have hwoken : Quiet k k' := by
    unfold dispatches at hturn
    split at hturn
    · cases hturn
    · split at hturn
      · cases hturn
      · exact wakeUp_quiet hturn
  have hkept : forall c, ¬ k'.Addresses t (.heapWrite c) ->
      (k'.runStep t).globalHeap c = k.globalHeap c := by
    intro c hc
    rw [← hwoken.heap]
    apply heffect.heap
    intro hcontra
    exact hc (hcontra c .write)
  refine ⟨?_, hkept, ?_, ?_⟩
  · rcases heffect.logged with ⟨new, hlog, hnew⟩
    rw [hwoken.log] at hlog
    refine ⟨new, hlog, fun a c ha hat => hnew a ha c hat, ?_⟩
    intro hown a c ha hat
    have howned := hown a c (hnew a ha c hat) hat
    refine ⟨howned, ?_⟩
    intro u hu hother
    exact hsound.not_owned hu hother howned
  · intro hown u hu c hc
    apply hkept
    intro haddressed
    exact hsound.not_owned hu hc (hown _ c haddressed .write)
  · intro start size hblock addr hlo hhi
    exact ⟨.segment t, rfl, getPhysAddr_segment hblock hlo hhi⟩

theorem dispatches_of_awake {k : Kernel sd} {t : TaskId}
    (hrun : (k.tasks t).isRunnable = true) (ht : t ≠ 0)
    (hawake : ¬ (k.tasks t).wakeUpTime > 0#32) : k.dispatches t = some k := by
  unfold dispatches wakeUp
  rw [if_neg (not_not.mpr hrun), if_neg ht, if_neg hawake]

/-- A program with a heap of 16 cells about to store 7 at this address. -/
def storing (addr : Byte) : Kernel CardImage.sdFat :=
  (boot (CardImage.ofProgram 16#8
    [0x10#8, 0x07#8, 0x00#8, 0x10#8, addr, 0x00#8, 0x52#8] 1)).run
    (.arrive runRequest.bytes :: List.replicate 7 .turn)

set_option maxRecDepth 4000 in
/-- A store inside the segment changes no cell of the daemon. -/
theorem task_isolation_store :
    (storing 3#8).records.Owned 0 16 ∧
      ((storing 3#8).runStep 1).globalHeap 16 = (storing 3#8).globalHeap 16 := by
  have hready : ((storing 3#8).tasks 1).isRunnable = true ∧
      ¬ ((storing 3#8).tasks 1).wakeUpTime > 0#32 ∧
      (storing 3#8).nextOpcode 1 = some .store ∧
      ((storing 3#8).fetchByte 1).2.getPhysAddr 1
        (((storing 3#8).fetchByte 1).2.operand 1 0) = 131 ∧
      (storing 3#8).records.block (.segment 1) = some (128, 16) ∧
      (storing 3#8).records.block (.segment 0) = some (0, 128) := by decide +kernel
  rcases hready with ⟨hrun, hawake, hop, hphys, hblock, hdaemon⟩
  have howned : (storing 3#8).records.Owned 0 16 :=
    ⟨.segment 0, rfl, by rw [cells_of_block hdaemon]; decide⟩
  have hisolated := task_isolation (k := storing 3#8) (t := 1) ⟨_, _, rfl⟩
    (dispatches_of_awake hrun (by decide) hawake) (by simp [hop])
  refine ⟨howned, hisolated.right.right.left ?_ 0 (by decide) 16 howned⟩
  rintro a c ⟨op, hnext, hcell⟩ hat
  rw [hop] at hnext
  cases hnext
  cases hcell with
  | store _ =>
      rw [hphys] at hat
      cases hat
      exact ⟨.segment 1, rfl, by rw [cells_of_block hblock]; decide⟩

set_option maxRecDepth 4000 in
/-- One cell past its segment the program changes a cell of the daemon. -/
theorem storing_past_segment :
    (storing 16#8).globalHeap 16 = 0 ∧
      (((storing 16#8).step .turn).globalHeap 16 = 7 ∧
        (storing 16#8).current = 1 ∧
        .heapWrite 16 ∈ ((storing 16#8).step .turn).log) ∧
      (storing 16#8).records.Owned 0 16 ∧ ¬ (storing 16#8).records.Owned 1 16 := by
  have hrun : (storing 16#8).globalHeap 16 = 0 ∧
      (((storing 16#8).step .turn).globalHeap 16 = 7 ∧
        (storing 16#8).current = 1 ∧
        .heapWrite 16 ∈ ((storing 16#8).step .turn).log) ∧
      (storing 16#8).records.block (.segment 0) = some (0, 128) := by decide +kernel
  rcases hrun with ⟨hbefore, hafter, hblock⟩
  have howned : (storing 16#8).records.Owned 0 16 :=
    ⟨.segment 0, rfl, by rw [cells_of_block hblock]; decide⟩
  have hreach : Reachable (storing 16#8) := ⟨_, _, rfl⟩
  exact ⟨hbefore, hafter, howned, hreach.heapSound.not_owned (by decide) howned⟩

end Kernel
end ArduOS
