import ArduOS.Kernel.Runs

/-!
# Leaks

The converse of heap ownership: as long as no program is lost, every marked
cell belongs to a recorded block of an active task, and a FREE slot has no
recorded block.
-/

namespace ArduOS

open Library

namespace Records

structure HeapExact (r : Records) : Prop where
  sound : HeapSound r
  marked : r.ledger.Exact
  freed : forall b : Block, (r.task b.owner).state = .free -> r.block b = none

variable {kept : Prop} {t : TaskId} {r r' : Records}

theorem HeapExact.congr (h : HeapExact r)
    (hblock : forall b, r'.block b = r.block b) (halloc : r'.allocated = r.allocated)
    (hfree : forall u, (r'.task u).state = .free -> (r.task u).state = .free) :
    HeapExact r' := by
  have hledger : r'.ledger = r.ledger := by
    simp only [Records.ledger, halloc, Ledger.mk.injEq, and_true]
    funext b
    ext c
    simp [cells, hblock]
  constructor
  · exact h.sound.congr hblock halloc
  · rw [hledger]
    exact h.marked
  · intro b hb
    rw [hblock]
    exact h.freed b (hfree _ hb)

theorem HeapExact.modify (h : HeapExact r) (t : TaskId) {f : TaskRecord -> TaskRecord}
    (hbase : (f (r.task t)).heapBase = (r.task t).heapBase)
    (hlimit : (f (r.task t)).heapLimit = (r.task t).heapLimit)
    (htable : (f (r.task t)).allocTable = (r.task t).allocTable)
    (hfree : (f (r.task t)).state = .free -> (r.task t).state = .free) :
    HeapExact (r.modify t f) := by
  apply h.congr (block_modify r t hbase hlimit htable) rfl
  intro u hu
  by_cases hut : u = t
  · subst hut
    rw [modify_task_self] at hu
    exact hfree hu
  · rw [modify_task_of_ne _ hut] at hu
    exact hu

theorem Grants.heapExact {b : Block} {start size : Int} (hgrants : Grants b start size r r')
    (h : HeapExact r) (hnone : r.block b = none) (howner : (r'.task b.owner).state ≠ .free)
    (hfree : forall u, (r'.task u).state = .free -> (r.task u).state = .free) :
    HeapExact r' := by
  constructor
  · exact hgrants.heapSound h.sound
  · rw [hgrants.ledger]
    apply h.marked.grant
    exact cells_of_none hnone
  · intro b' hb'
    have hne : b' ≠ b := by
      intro heq
      rw [heq] at hb'
      exact howner hb'
    rw [hgrants.others b' hne]
    exact h.freed b' (hfree _ hb')

theorem Exits.heapExact (hexit : Exits t r r') (h : HeapExact r) : HeapExact r' := by
  constructor
  · exact hexit.heapSound h.sound
  · rw [hexit.ledger]
    exact h.marked.release
  · intro b hb
    by_cases hown : b.owner = t
    · exact hexit.block_own hown
    · rw [hexit.block_other hown]
      apply h.freed
      rw [hexit.others b.owner hown, wake_state] at hb
      split at hb
      · cases hb
      · exact hb

theorem heapExact_grantEntry (h : HeapExact r) (hrunning : (r.task t).state = .running)
    {j : Fin MAX_ALLOCATIONS} {start size : Int}
    (hentry : ((r.task t).allocTable j).ptr = -1)
    (hrun : FreeRun r.allocated GLOBAL_HEAP_SIZE start size) :
    HeapExact (r.grantEntry t j start size) := by
  apply (grants_entry t j hrun).heapExact h
  · simp [block, blockAt, hentry]
  · rw [grantEntry_state]
    intro hfree
    have hstate : (r.task t).state = .free := hfree
    rw [hrunning] at hstate
    cases hstate
  · intro u hu
    rw [grantEntry_state] at hu
    exact hu

theorem heapExact_exec (h : HeapExact r) (t : TaskId) {child : TaskId}
    {start size : Int} (waitOpt : Int)
    (hfree : (r.task child).state = .free)
    (hrun : FreeRun r.allocated GLOBAL_HEAP_SIZE start size) :
    HeapExact (r.exec t child start size waitOpt) := by
  have hloaded : HeapExact (r.loadSegment child start size) := by
    apply (grants_segment child hrun).heapExact h
    · exact h.freed (.segment child) hfree
    · simp [loadSegment, Block.owner]
    · intro u hu
      by_cases huc : u = child
      · subst huc
        exact hfree
      · simpa [loadSegment, modify_task_of_ne _ huc] using hu
  have hstarted : HeapExact ((r.loadSegment child start size).start t child waitOpt) :=
    hloaded.congr (fun b => block_congr rfl rfl rfl) rfl fun _ hu => hu
  unfold Records.exec
  simp only
  split
  · apply hstarted.modify t rfl rfl rfl
    intro hu
    cases hu
  · exact hstarted

theorem Outcome.heapExact (hout : Outcome kept t r r') (hkept : kept)
    (hrunning : (r.task t).state = .running) (h : HeapExact r) : HeapExact r' := by
  cases hout with
  | keep fileOpen _ => exact h.modify t rfl rfl rfl id
  | grant j start size hentry hrun => exact heapExact_grantEntry h hrunning hentry hrun
  | exit _ _ hexit => exact hexit.heapExact h
  | grantExit _ j start size hentry hrun _ hexit =>
      exact hexit.heapExact (heapExact_grantEntry h hrunning hentry hrun)
  | exec child start size waitOpt _ hfree hrun =>
      exact heapExact_exec h t waitOpt hfree hrun
  | execFailed child _ _ => exact h.modify child rfl rfl rfl id
  | lost hlost => exact absurd hkept hlost

/-!
## The cells of a task that ends
-/

theorem Exits.unmarks (hexit : Exits t r r') {b : Block} (hb : b.owner = t) {c : Int}
    (hc : c ∈ r.cells b) : r'.allocated c = false := by
  rw [Bool.eq_false_iff]
  intro hmarked
  exact ((hexit.allocated c).mp hmarked).right b hb hc

theorem StateChange.eq_of_freed (hchange : StateChange kept t r r') {u : TaskId}
    (hactive : (r.task u).state ≠ .free) (hfree : (r'.task u).state = .free) : u = t := by
  by_contra hu
  cases hchange with
  | same hstate _ =>
      rw [hstate] at hfree
      exact hactive hfree
  | ends _ _ hothers _ =>
      rw [hothers u hu] at hfree
      split at hfree
      · cases hfree
      · exact hactive hfree
  | starts child waitOpt _ _ hchild _ _ hothers _ =>
      have huc : u ≠ child := by
        intro heq
        rw [heq] at hactive
        exact hactive hchild
      rw [hothers u hu huc] at hfree
      exact hactive hfree
  | loses _ _ hothers _ =>
      rw [hothers u hu] at hfree
      exact hactive hfree

theorem exec_active (hrunning : (r.task t).state = .running) (child : TaskId)
    (start size waitOpt : Int) :
    ((r.exec t child start size waitOpt).task t).state ≠ .free := by
  have hloaded : ((r.loadSegment child start size).task t).state ≠ .free := by
    by_cases ht : t = child
    · subst ht
      simp [loadSegment]
    · simp [loadSegment, modify_task_of_ne _ ht, hrunning]
  unfold Records.exec
  simp only
  split
  · simp
  · exact hloaded

theorem Outcome.unmarks (hout : Outcome kept t r r') (hkept : kept)
    (hrunning : (r.task t).state = .running) {b : Block}
    (hactive : (r.task b.owner).state ≠ .free) (hfree : (r'.task b.owner).state = .free)
    {c : Int} (hc : c ∈ r.cells b) : r'.allocated c = false := by
  have hchange := hout.stateChange hrunning
  have hb := hchange.eq_of_freed hactive hfree
  rw [hb] at hactive hfree
  cases hout with
  | keep _ _ =>
      rw [modify_state_same _ _ rfl] at hfree
      exact absurd hfree hactive
  | grant j start size _ _ =>
      rw [grantEntry_state] at hfree
      exact absurd hfree hactive
  | exit _ _ hexit => exact hexit.unmarks hb hc
  | grantExit _ j start size hentry hrun _ hexit =>
      apply hexit.unmarks hb
      have hne : b ≠ .entry t j := by
        intro heq
        rw [heq, cells_of_none] at hc
        · exact hc
        · simp [block, blockAt, hentry]
      rcases hc with ⟨start', size', hblock, hin⟩
      exact ⟨start', size', by rw [(grants_entry t j hrun).others b hne, hblock], hin⟩
  | exec child start size waitOpt _ _ _ =>
      exact absurd hfree (exec_active hrunning child start size waitOpt)
  | execFailed child _ _ =>
      rw [modify_state_same _ _ rfl] at hfree
      exact absurd hfree hactive
  | lost hlost => exact absurd hkept hlost

end Records

namespace Kernel

open Records

variable {sd : SdFat}

theorem Booted.heapExact {r : Records} (h : Booted r) : HeapExact r := by
  constructor
  · exact h.heapSound
  · intro c hc
    apply Set.mem_iUnion.mpr
    refine ⟨.segment 0, 0, 128, h.segment, ?_⟩
    have hin := (h.allocated c).mp hc
    omega
  · intro b hb
    have howner : b.owner ≠ 0 := by
      intro heq
      rw [heq, h.running] at hb
      cases hb
    apply h.others
    · intro heq
      exact howner (by rw [heq, Block.owner])
    · intro heq
      exact howner (by rw [heq, Block.owner])

theorem step_heapExact (k : Kernel sd) (e : Event) (hok : KeepsProgram k e)
    (hup : DaemonUp k.records) (h : HeapExact k.records) :
    HeapExact (k.step e).records := by
  rcases k.step_outcome e hup.noFile with hsame | ⟨hturn, hrunning, hout⟩
  · rw [hsame]
    exact h
  · exact hout.heapExact (hok hturn) hrunning h

/--
As long as no step loses a program: a cell is marked if and only if it is in a
recorded block of an active task, a FREE slot has no recorded block, and a step
in which a task becomes FREE leaves none of the cells it held marked.
-/
theorem no_heap_leak {card : sd.Card} {events : List Event}
    (h : AllSteps step KeepsProgram (boot card) events) :
    (forall c, ((boot card).run events).isAllocated c = true <->
      exists b : Block, (((boot card).run events).tasks b.owner).taskState ≠ .free ∧
        c ∈ ((boot card).run events).records.cells b) ∧
    (forall b : Block, (((boot card).run events).tasks b.owner).taskState = .free ->
      ((boot card).run events).records.block b = none) ∧
    (forall e, KeepsProgram ((boot card).run events) e ->
      forall b : Block, (((boot card).run events).tasks b.owner).taskState ≠ .free ->
        ((((boot card).run events).step e).tasks b.owner).taskState = .free ->
        forall c, c ∈ ((boot card).run events).records.cells b ->
          (((boot card).run events).step e).isAllocated c = false) := by
  rcases run_records HeapExact (fun _ => Booted.heapExact) step_heapExact h with
    ⟨hup, hexact⟩
  generalize (boot card).run events = k at hup hexact ⊢
  refine ⟨?_, hexact.freed, ?_⟩
  · intro c
    constructor
    · intro hmarked
      rcases Set.mem_iUnion.mp (hexact.marked hmarked) with ⟨b, hb⟩
      refine ⟨b, ?_, hb⟩
      intro hfree
      have hnone : k.records.cells b = ∅ := cells_of_none (hexact.freed b hfree)
      have hin : c ∈ k.records.cells b := hb
      rw [hnone] at hin
      exact hin
    · rintro ⟨b, _, hb⟩
      exact hexact.sound.ledger.marked b hb
  · intro e hok b hactive hfree c hc
    rcases k.step_outcome e hup.noFile with hsame | ⟨hturn, hrunning, hout⟩
    · have hstate : ((k.step e).records.task b.owner).state = .free := hfree
      rw [hsame] at hstate
      exact absurd hstate hactive
    · exact hout.unmarks (hok hturn) hrunning hactive hfree hc

/-- A started program holds its segment, and nothing else is marked. -/
theorem no_heap_leak_one_program :
    let k := (boot (CardImage.ofProgram 16#8 listingCode 1) : Kernel CardImage.sdFat).run
      [.arrive runRequest.bytes, .turn]
    k.isAllocated 130 = true ∧ exists b : Block,
      (k.tasks b.owner).taskState ≠ .free ∧ 130 ∈ k.records.cells b := by
  have hmarked : ((boot (CardImage.ofProgram 16#8 listingCode 1) :
      Kernel CardImage.sdFat).run [.arrive runRequest.bytes, .turn]).isAllocated 130 =
        true := by decide +kernel
  have hsteps : AllSteps step KeepsProgram
      (boot (CardImage.ofProgram 16#8 listingCode 1) : Kernel CardImage.sdFat)
      [.arrive runRequest.bytes, .turn] := by decide +kernel
  exact ⟨hmarked, ((no_heap_leak hsteps).left 130).mp hmarked⟩

set_option maxRecDepth 4000 in
/-- A FREE slot still has its segment, whose cells stay marked. -/
theorem lostProgram_leaks :
    (lostProgram.tasks 1).taskState = .free ∧
      lostProgram.records.block (.segment 1) = some (128, 16) ∧
      lostProgram.isAllocated 128 = true ∧
      forall b : Block, (lostProgram.tasks b.owner).taskState ≠ .free ->
        128 ∉ lostProgram.records.cells b := by
  have hrun : (forall t, t ≠ 0 -> (lostProgram.tasks t).taskState = .free) ∧
      lostProgram.records.block (.segment 1) = some (128, 16) ∧
      lostProgram.isAllocated 128 = true ∧
      lostProgram.records.block (.segment 0) = some (0, 128) ∧
      lostProgram.records.block (.entry 0 0) = some (0, 128) ∧
      forall j, j ≠ 0 -> lostProgram.records.block (.entry 0 j) = none := by
    decide +kernel
  rcases hrun with ⟨hfree, hsegment, hmarked, hzero, hfirst, hothers⟩
  refine ⟨hfree 1 (by decide), hsegment, hmarked, ?_⟩
  rintro b hactive ⟨start, size, hblock, hin⟩
  have howner : b.owner = 0 := by
    by_contra hne
    exact hactive (hfree b.owner hne)
  cases b with
  | segment t =>
      have ht : t = 0 := howner
      rw [ht, hzero] at hblock
      cases hblock
      omega
  | entry t j =>
      have ht : t = 0 := howner
      by_cases hj : j = 0
      · rw [ht, hj, hfirst] at hblock
        cases hblock
        omega
      · rw [ht, hothers j hj] at hblock
        cases hblock

end Kernel
end ArduOS
