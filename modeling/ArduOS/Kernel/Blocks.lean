import ArduOS.Kernel.Records
import ArduOS.Library.FirstFit

/-!
# Recorded blocks

The segment of a task and the entries of its `alloc_table` own heap cells; the
bitmap marks them.  This is a ledger, and what allocation, loading and the end
of a task do to it are its operations.
-/

namespace ArduOS

open Library

inductive Block where
  | segment (t : TaskId)
  | entry (t : TaskId) (j : Fin MAX_ALLOCATIONS)
  deriving DecidableEq

def Block.owner : Block -> TaskId
  | .segment t => t
  | .entry t _ => t

/-- The block `Kernel_init` records twice. -/
def Twins (b b' : Block) : Prop :=
  (b = .segment 0 ∧ b' = .entry 0 0) ∨ (b = .entry 0 0 ∧ b' = .segment 0)

/-- A start of `-1` stands for no block. -/
def blockAt (start size : Int) : Option (Int × Int) :=
  if start = -1 then none else some (start, size)

namespace Records

/-- Start and size of a recorded block. -/
def block (r : Records) : Block -> Option (Int × Int)
  | .segment t => blockAt (r.task t).heapBase (r.task t).heapLimit
  | .entry t j => blockAt ((r.task t).allocTable j).ptr ((r.task t).allocTable j).size

def cells (r : Records) (b : Block) : Set Int :=
  { c | exists start size, r.block b = some (start, size) ∧
      start <= c ∧ c < start + size }

def ledger (r : Records) : Ledger Block Int :=
  { owns := r.cells, used := { c | r.allocated c = true } }

/-- The ownership invariant. -/
structure HeapSound (r : Records) : Prop where
  ledger : r.ledger.Sound Twins
  proper : forall b start size, r.block b = some (start, size) ->
    0 <= start ∧ 0 < size ∧ start + size <= GLOBAL_HEAP_SIZE

theorem cells_of_block {r : Records} {b : Block} {start size : Int}
    (h : r.block b = some (start, size)) :
    r.cells b = { c | start <= c ∧ c < start + size } := by
  ext c
  constructor
  · rintro ⟨start', size', hblock, hc⟩
    rw [h] at hblock
    cases hblock
    exact hc
  · intro hc
    exact ⟨start, size, h, hc⟩

theorem cells_of_none {r : Records} {b : Block} (h : r.block b = none) :
    r.cells b = ∅ := by
  ext c
  constructor
  · rintro ⟨_, _, hblock, _⟩
    rw [h] at hblock
    cases hblock
  · intro hc
    exact absurd hc (Set.notMem_empty c)

theorem block_congr {r r' : Records} {b : Block}
    (hbase : (r'.task b.owner).heapBase = (r.task b.owner).heapBase)
    (hlimit : (r'.task b.owner).heapLimit = (r.task b.owner).heapLimit)
    (htable : (r'.task b.owner).allocTable = (r.task b.owner).allocTable) :
    r'.block b = r.block b := by
  cases b with
  | segment t =>
      have hbase' : (r'.task t).heapBase = (r.task t).heapBase := hbase
      have hlimit' : (r'.task t).heapLimit = (r.task t).heapLimit := hlimit
      simp only [block, hbase', hlimit']
  | entry t j =>
      have htable' : (r'.task t).allocTable = (r.task t).allocTable := htable
      simp only [block, htable']

theorem HeapSound.congr {r r' : Records} (h : HeapSound r)
    (hblock : forall b, r'.block b = r.block b) (halloc : r'.allocated = r.allocated) :
    HeapSound r' := by
  have hledger : r'.ledger = r.ledger := by
    simp only [Records.ledger, halloc, Ledger.mk.injEq, and_true]
    funext b
    ext c
    simp [cells, hblock]
  constructor
  · rw [hledger]
    exact h.ledger
  · intro b start size hb
    rw [hblock] at hb
    exact h.proper b start size hb

theorem block_modify (r : Records) (t : TaskId) {f : TaskRecord -> TaskRecord}
    (hbase : (f (r.task t)).heapBase = (r.task t).heapBase)
    (hlimit : (f (r.task t)).heapLimit = (r.task t).heapLimit)
    (htable : (f (r.task t)).allocTable = (r.task t).allocTable) (b : Block) :
    (r.modify t f).block b = r.block b := by
  by_cases hb : b.owner = t
  · apply block_congr
    · rw [hb, modify_task_self, hbase]
    · rw [hb, modify_task_self, hlimit]
    · rw [hb, modify_task_self, htable]
  · apply block_congr <;> rw [modify_task_of_ne _ hb]

theorem HeapSound.modify {r : Records} (h : HeapSound r) (t : TaskId)
    {f : TaskRecord -> TaskRecord}
    (hbase : (f (r.task t)).heapBase = (r.task t).heapBase)
    (hlimit : (f (r.task t)).heapLimit = (r.task t).heapLimit)
    (htable : (f (r.task t)).allocTable = (r.task t).allocTable) :
    HeapSound (r.modify t f) :=
  h.congr (block_modify r t hbase hlimit htable) rfl

/-!
## Granting a block
-/

structure Grants (b : Block) (start size : Int) (r r' : Records) : Prop where
  run : FreeRun r.allocated GLOBAL_HEAP_SIZE start size
  granted : r'.block b = some (start, size)
  others : forall b', b' ≠ b -> r'.block b' = r.block b'
  allocated : r'.allocated = (r.mark start size true).allocated

theorem Grants.ledger {b : Block} {start size : Int} {r r' : Records}
    (h : Grants b start size r r') :
    r'.ledger = r.ledger.grant b { c | start <= c ∧ c < start + size } := by
  unfold Records.ledger Ledger.grant
  congr 1
  · funext b'
    by_cases hb : b' = b
    · subst hb
      rw [Function.update_self, cells_of_block h.granted]
    · rw [Function.update_of_ne hb]
      ext c
      simp [cells, h.others b' hb]
  · ext c
    simp only [h.allocated, mark, Set.mem_ofPred_eq, Set.mem_union]
    by_cases hc : start <= c ∧ c < start + size
    · simp [hc]
    · simp [hc]

theorem Grants.fresh {b : Block} {start size : Int} {r r' : Records}
    (h : Grants b start size r r') :
    Disjoint r.ledger.used { c | start <= c ∧ c < start + size } := by
  rw [Set.disjoint_left]
  intro c hused hc
  have hfree := h.run.free c hc.left hc.right
  have hmarked : r.allocated c = true := hused
  rw [hfree] at hmarked
  cases hmarked

theorem Grants.heapSound {b : Block} {start size : Int} {r r' : Records}
    (h : Grants b start size r r') (hr : HeapSound r) : HeapSound r' := by
  constructor
  · rw [h.ledger]
    exact hr.ledger.grant h.fresh
  · intro b' start' size' hb'
    by_cases hb : b' = b
    · subst hb
      rw [h.granted] at hb'
      cases hb'
      exact ⟨h.run.nonneg, h.run.pos, h.run.fits⟩
    · rw [h.others b' hb] at hb'
      exact hr.proper b' start' size' hb'

def grantEntry (r : Records) (t : TaskId) (j : Fin MAX_ALLOCATIONS)
    (start size : Int) : Records :=
  (r.mark start size true).modify t fun task =>
    { task with
      allocTable := Function.update task.allocTable j { ptr := start, size := size } }

theorem grants_entry {r : Records} {start size : Int} (t : TaskId)
    (j : Fin MAX_ALLOCATIONS) (hrun : FreeRun r.allocated GLOBAL_HEAP_SIZE start size) :
    Grants (.entry t j) start size r (r.grantEntry t j start size) := by
  have hstart : start ≠ -1 := by
    have hnonneg := hrun.nonneg
    omega
  constructor
  · exact hrun
  · simp [block, blockAt, grantEntry, hstart]
  · intro b hb
    cases b with
    | segment u =>
        by_cases hu : u = t
        · subst hu
          simp [block, grantEntry]
        · simp [block, grantEntry, modify_task_of_ne _ hu]
    | entry u i =>
        by_cases hu : u = t
        · subst hu
          have hne : (i : Nat) ≠ j := by
            intro heq
            exact hb (by rw [Fin.ext heq])
          simp [block, grantEntry, Function.update_of_ne hne]
        · simp [block, grantEntry, modify_task_of_ne _ hu]
  · rfl

def loadSegment (r : Records) (t : TaskId) (start size : Int) : Records :=
  (r.mark start size true).modify t fun task =>
    { task with
      state := .running, heapBase := start, heapLimit := size, fileOpen := true }

theorem grants_segment {r : Records} {start size : Int} (t : TaskId)
    (hrun : FreeRun r.allocated GLOBAL_HEAP_SIZE start size) :
    Grants (.segment t) start size r (r.loadSegment t start size) := by
  have hstart : start ≠ -1 := by
    have hnonneg := hrun.nonneg
    omega
  constructor
  · exact hrun
  · simp [block, blockAt, loadSegment, hstart]
  · intro b hb
    cases b with
    | segment u =>
        have hu : u ≠ t := by
          intro heq
          exact hb (by rw [heq])
        simp [block, loadSegment, modify_task_of_ne _ hu]
    | entry u i =>
        by_cases hu : u = t
        · subst hu
          simp [block, loadSegment]
        · simp [block, loadSegment, modify_task_of_ne _ hu]
  · rfl

end Records

/-!
## Giving blocks back
-/

def TaskRecord.wake (task : TaskRecord) (t : TaskId) : TaskRecord :=
  if task.state = .paused t then { task with state := .running } else task

namespace Records

structure Exits (t : TaskId) (r r' : Records) : Prop where
  free : (r'.task t).state = .free
  base : (r'.task t).heapBase = -1
  table : forall j, j < MAX_ALLOCATIONS -> ((r'.task t).allocTable j).ptr = -1
  closed : (r'.task t).fileOpen = false
  others : forall u, u ≠ t -> r'.task u = (r.task u).wake t
  allocated : forall c, r'.allocated c = true <->
    r.allocated c = true ∧ forall b, b.owner = t -> c ∉ r.cells b
  started : r'.started = r.started

theorem Exits.block_own {t : TaskId} {r r' : Records} (h : Exits t r r') {b : Block}
    (hb : b.owner = t) : r'.block b = none := by
  cases b with
  | segment u =>
      have hu : u = t := hb
      subst hu
      simp [block, blockAt, h.base]
  | entry u j =>
      have hu : u = t := hb
      subst hu
      simp [block, blockAt, h.table j j.isLt]

theorem Exits.block_other {t : TaskId} {r r' : Records} (h : Exits t r r') {b : Block}
    (hb : b.owner ≠ t) : r'.block b = r.block b := by
  have hothers := h.others b.owner hb
  apply block_congr
  · rw [hothers]
    unfold TaskRecord.wake
    split <;> rfl
  · rw [hothers]
    unfold TaskRecord.wake
    split <;> rfl
  · rw [hothers]
    unfold TaskRecord.wake
    split <;> rfl

theorem Exits.ledger {t : TaskId} {r r' : Records} (h : Exits t r r') :
    r'.ledger = r.ledger.release { b | b.owner = t } := by
  unfold Records.ledger Ledger.release
  congr 1
  · funext b
    by_cases hb : b.owner = t
    · rw [cells_of_none (h.block_own hb)]
      ext c
      simp [hb]
    · ext c
      simp [cells, h.block_other hb, hb]
  · ext c
    simp only [Set.mem_ofPred_eq, h.allocated c, not_exists, not_and]

theorem Exits.heapSound {t : TaskId} {r r' : Records} (h : Exits t r r')
    (hr : HeapSound r) : HeapSound r' := by
  constructor
  · rw [h.ledger]
    apply hr.ledger.release
    -- twins belong to one task, so none is left behind
    rintro b b' hin hout (⟨rfl, rfl⟩ | ⟨rfl, rfl⟩)
    · exact hout hin
    · exact hout hin
  · intro b start size hb
    by_cases hown : b.owner = t
    · rw [h.block_own hown] at hb
      cases hb
    · rw [h.block_other hown] at hb
      exact hr.proper b start size hb

theorem wake_wake (task : TaskRecord) (t : TaskId) :
    (task.wake t).wake t = task.wake t := by
  by_cases hpaused : task.state = .paused t
  · simp [TaskRecord.wake, hpaused]
  · simp [TaskRecord.wake, hpaused]

theorem Exits.trans {t : TaskId} {r r' r'' : Records} (h : Exits t r r')
    (h' : Exits t r' r'') : Exits t r r'' := by
  constructor
  · exact h'.free
  · exact h'.base
  · exact h'.table
  · exact h'.closed
  · intro u hu
    rw [h'.others u hu, h.others u hu, wake_wake]
  · intro c
    rw [h'.allocated c, h.allocated c]
    constructor
    · exact And.left
    · intro hc
      refine ⟨hc, ?_⟩
      intro b hb
      rw [cells_of_none (h.block_own hb)]
      exact Set.notMem_empty c
  · rw [h'.started, h.started]

end Records
end ArduOS
