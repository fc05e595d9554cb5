import ArduOS.Kernel.Runs

/-!
# Segments along a run

A task keeps its segment from the moment it is loaded until it ends, and the
daemon, which never ends, has the first 128 cells of the heap for good.
-/

namespace ArduOS

open Library

namespace Records

variable {kept : Prop} {t u : TaskId} {r r' : Records}

structure SameSegment (u : TaskId) (r r' : Records) : Prop where
  base : (r'.task u).heapBase = (r.task u).heapBase
  limit : (r'.task u).heapLimit = (r.task u).heapLimit

theorem SameSegment.refl (u : TaskId) (r : Records) : SameSegment u r r := ⟨rfl, rfl⟩

theorem SameSegment.trans {r'' : Records} (h : SameSegment u r r')
    (h' : SameSegment u r' r'') : SameSegment u r r'' :=
  ⟨h'.base.trans h.base, h'.limit.trans h.limit⟩

theorem modify_sameSegment (r : Records) (t u : TaskId) {f : TaskRecord -> TaskRecord}
    (hbase : (f (r.task t)).heapBase = (r.task t).heapBase)
    (hlimit : (f (r.task t)).heapLimit = (r.task t).heapLimit) :
    SameSegment u r (r.modify t f) := by
  by_cases hu : u = t
  · subst hu
    constructor
    · rw [modify_task_self, hbase]
    · rw [modify_task_self, hlimit]
  · constructor
    · rw [modify_task_of_ne _ hu]
    · rw [modify_task_of_ne _ hu]

theorem Exits.sameSegment (hexit : Exits t r r') (hu : u ≠ t) : SameSegment u r r' := by
  constructor
  · rw [hexit.others u hu]
    unfold TaskRecord.wake
    split <;> rfl
  · rw [hexit.others u hu]
    unfold TaskRecord.wake
    split <;> rfl

theorem grantEntry_sameSegment (r : Records) (t u : TaskId) (j : Fin MAX_ALLOCATIONS)
    (start size : Int) : SameSegment u r (r.grantEntry t j start size) := by
  have hmodified : SameSegment u (r.mark start size true) (r.grantEntry t j start size) := by
    unfold grantEntry
    exact modify_sameSegment _ t u rfl rfl
  exact ⟨hmodified.base, hmodified.limit⟩

theorem exec_sameSegment (r : Records) (t : TaskId) {child : TaskId} (hu : u ≠ child)
    (start size waitOpt : Int) : SameSegment u r (r.exec t child start size waitOpt) := by
  have hloaded : SameSegment u r ((r.loadSegment child start size).start t child waitOpt) := by
    constructor
    · simp [loadSegment, modify_task_of_ne _ hu]
    · simp [loadSegment, modify_task_of_ne _ hu]
  unfold Records.exec
  simp only
  split
  · exact hloaded.trans (modify_sameSegment _ t u rfl rfl)
  · exact hloaded

theorem Outcome.sameSegment (hout : Outcome kept t r r')
    (hbefore : (r.task u).state ≠ .free) (hafter : (r'.task u).state ≠ .free) :
    SameSegment u r r' := by
  have hother : forall r'', Exits t r'' r' -> u ≠ t := by
    intro r'' hexit heq
    rw [heq] at hafter
    exact hafter hexit.free
  cases hout with
  | keep fileOpen _ => exact modify_sameSegment r t u rfl rfl
  | grant j start size _ _ =>
      exact grantEntry_sameSegment r t u j start size
  | exit _ _ hexit => exact hexit.sameSegment (hother _ hexit)
  | grantExit _ j start size _ _ _ hexit =>
      exact (grantEntry_sameSegment r t u j start size).trans
        (hexit.sameSegment (hother _ hexit))
  | exec child start size waitOpt _ hfree _ =>
      apply exec_sameSegment
      intro heq
      rw [heq] at hbefore
      exact hbefore hfree
  | execFailed child _ _ => exact modify_sameSegment r child u rfl rfl
  | lost _ => exact modify_sameSegment r t u rfl rfl

theorem Outcome.newSegment (hout : Outcome kept t r r')
    (hrunning : (r.task t).state = .running) (hbefore : (r.task u).state = .free)
    (hafter : (r'.task u).state ≠ .free) : (r'.task u).heapBase ≠ -1 := by
  have hne : u ≠ t := by
    intro heq
    rw [heq, hrunning] at hbefore
    cases hbefore
  have hexits : forall r₁ : Records, (r₁.task u).state = .free -> Exits t r₁ r' -> False := by
    intro r₁ hfree hexit
    rw [hexit.others u hne, wake_state, hfree] at hafter
    simp at hafter
  cases hout with
  | keep fileOpen _ =>
      rw [modify_state_same r t rfl] at hafter
      exact absurd hbefore hafter
  | grant j start size _ _ =>
      rw [grantEntry_state] at hafter
      exact absurd hbefore hafter
  | exit _ _ hexit => exact absurd hexit (hexits r hbefore)
  | grantExit _ j start size _ _ _ hexit =>
      apply absurd hexit
      apply hexits
      rw [grantEntry_state]
      exact hbefore
  | exec child start size waitOpt _ _ hrun =>
      by_cases hchild : u = child
      · have hnonneg := hrun.nonneg
        have hbase : ((r.exec t child start size waitOpt).task u).heapBase = start := by
          unfold Records.exec
          simp only
          split
          · rw [modify_task_of_ne _ hne]
            simp [loadSegment, hchild]
          · simp [loadSegment, hchild]
        omega
      · exfalso
        apply hafter
        unfold Records.exec
        simp only
        split
        · rw [modify_task_of_ne _ hne]
          simp [loadSegment, modify_task_of_ne _ hchild, hbefore]
        · simp [loadSegment, modify_task_of_ne _ hchild, hbefore]
  | execFailed child _ _ =>
      rw [modify_state_same r child rfl] at hafter
      exact absurd hbefore hafter
  | lost _ =>
      rw [modify_task_of_ne _ hne] at hafter
      exact absurd hbefore hafter

def ActiveSegments (r : Records) : Prop :=
  forall u, (r.task u).state ≠ .free -> (r.task u).heapBase ≠ -1

theorem Outcome.activeSegments (hout : Outcome kept t r r')
    (hrunning : (r.task t).state = .running) (h : ActiveSegments r) :
    ActiveSegments r' := by
  intro u hafter
  by_cases hbefore : (r.task u).state = .free
  · exact hout.newSegment hrunning hbefore hafter
  · rw [(hout.sameSegment hbefore hafter).base]
    exact h u hbefore

structure DaemonSegment (r : Records) : Prop where
  base : (r.task 0).heapBase = 0
  limit : (r.task 0).heapLimit = 128

theorem DaemonSegment.block (h : DaemonSegment r) : r.block (.segment 0) = some (0, 128) := by
  simp [Records.block, blockAt, h.base, h.limit]

end Records

namespace Kernel

open Records

variable {sd : SdFat}

theorem Booted.daemonSegment {r : Records} (h : Booted r) : DaemonSegment r := by
  have hblock := h.segment
  simp only [Records.block, blockAt] at hblock
  split at hblock
  · cases hblock
  · rw [Option.some.injEq, Prod.mk.injEq] at hblock
    exact ⟨hblock.left, hblock.right⟩

theorem step_sameSegment (k : Kernel sd) (e : Event) (hup : DaemonUp k.records)
    {u : TaskId} (hbefore : (k.records.task u).state ≠ .free)
    (hafter : ((k.step e).records.task u).state ≠ .free) :
    SameSegment u k.records (k.step e).records := by
  rcases k.step_outcome e hup.noFile with hsame | ⟨_, _, hout⟩
  · rw [hsame]
    exact SameSegment.refl u k.records
  · exact hout.sameSegment hbefore hafter

theorem step_daemonSegment (k : Kernel sd) (e : Event) (hup : DaemonUp k.records)
    (h : DaemonSegment k.records) : DaemonSegment (k.step e).records := by
  have hsame := k.step_sameSegment e hup hup.active (k.step_daemonUp e hup).active
  exact ⟨hsame.base.trans h.base, hsame.limit.trans h.limit⟩

theorem Reachable.daemon {k : Kernel sd} (h : Reachable k) :
    DaemonUp k.records ∧ DaemonSegment k.records := by
  cases h with
  | run card events hk =>
      rw [hk]
      have hsteps : AllSteps step (fun _ _ => True) (boot card) events :=
        AllSteps.of_forall (fun _ _ => trivial) events _
      exact run_records DaemonSegment (fun _ => Booted.daemonSegment)
        (fun k e _ => k.step_daemonSegment e) hsteps

theorem Booted.activeSegments {r : Records} (h : Booted r) : ActiveSegments r := by
  intro u hactive
  by_cases hu : u = 0
  · rw [hu, h.daemonSegment.base]
    decide
  · exact absurd (h.free u hu) hactive

theorem step_activeSegments (k : Kernel sd) (e : Event) (hup : DaemonUp k.records)
    (h : ActiveSegments k.records) : ActiveSegments (k.step e).records := by
  rcases k.step_outcome e hup.noFile with hsame | ⟨_, hrunning, hout⟩
  · rw [hsame]
    exact h
  · exact hout.activeSegments hrunning h

theorem Reachable.activeSegments {k : Kernel sd} (h : Reachable k) :
    ActiveSegments k.records := by
  cases h with
  | run card events hk =>
      rw [hk]
      have hsteps : AllSteps step (fun _ _ => True) (boot card) events :=
        AllSteps.of_forall (fun _ _ => trivial) events _
      exact (run_records ActiveSegments (fun _ => Booted.activeSegments)
        (fun k e _ => k.step_activeSegments e) hsteps).right

theorem Reachable.step {k : Kernel sd} (h : Reachable k) (e : Event) :
    Reachable (k.step e) := by
  cases h with
  | run card events hk =>
      refine ⟨card, events ++ [e], ?_⟩
      rw [hk]
      simp [Kernel.run, List.foldl_append]

/-- Every step of the run leaves `t` active. -/
def StaysActive (t : TaskId) (k : Kernel sd) (e : Event) : Prop :=
  ((k.step e).records.task t).state ≠ .free

theorem run_sameSegment {k : Kernel sd} {t : TaskId} {events : List Event}
    (hup : DaemonUp k.records) (hactive : (k.records.task t).state ≠ .free)
    (hrun : AllSteps Kernel.step (StaysActive t) k events) :
    SameSegment t k.records (k.run events).records := by
  have hinv := AllSteps.preserves
    (fun k' : Kernel sd => DaemonUp k'.records ∧ (k'.records.task t).state ≠ .free ∧
      SameSegment t k.records k'.records)
    (fun k' e hstays hk' => ⟨k'.step_daemonUp e hk'.left, hstays,
      hk'.right.right.trans
        (k'.step_sameSegment e hk'.left hk'.right.left hstays)⟩)
    events k hrun ⟨hup, hactive, SameSegment.refl t k.records⟩
  exact hinv.right.right

end Kernel
end ArduOS
