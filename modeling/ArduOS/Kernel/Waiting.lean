import ArduOS.Kernel.Runs
import ArduOS.Library.Waits

/-!
# Waiting for a child

A task is PAUSED from a synchronous exec until its child is FREE.  As long as
no program is lost while its parent waits, every PAUSED task waits for a task
it started, chains of waits have an end, and some task is RUNNING.
-/

namespace ArduOS

open Library

namespace Records

def Waits (r : Records) (p c : TaskId) : Prop := (r.task p).state = .paused c

structure WaitsSound (r : Records) : Prop where
  child : forall p c, r.Waits p c ->
    (r.task c).state ≠ .free ∧ r.started c = some (p, 1)
  noCycle : NoCycle r.Waits

/-- Who waits for `c` goes on waiting, unless `c` is FREE and it runs again. -/
def HandsOver (r r' : Records) : Prop :=
  forall p c, r.Waits p c ->
    (r'.Waits p c ∧ (r'.task c).state ≠ .free) ∨
      ((r'.task p).state = .running ∧ (r'.task c).state = .free)

variable {kept : Prop} {t : TaskId} {r r' : Records}

theorem WaitsSound.ne_of_free (h : WaitsSound r) {p c u : TaskId} (hwaits : r.Waits p c)
    (hfree : (r.task u).state = .free) : c ≠ u := by
  intro heq
  have hactive := (h.child p c hwaits).left
  rw [heq] at hactive
  exact hactive hfree

theorem waits_of_ends (hfree : (r'.task t).state = .free)
    (hothers : forall u, u ≠ t -> (r'.task u).state =
      if (r.task u).state = .paused t then .running else (r.task u).state)
    {p c : TaskId} (hwaits : r'.Waits p c) : r.Waits p c ∧ c ≠ t := by
  unfold Waits at hwaits
  have hp : p ≠ t := by
    intro heq
    rw [heq, hfree] at hwaits
    cases hwaits
  rw [hothers p hp] at hwaits
  split at hwaits
  · cases hwaits
  · rename_i hnot
    refine ⟨hwaits, ?_⟩
    intro heq
    rw [heq] at hwaits
    exact hnot hwaits

section Starting

variable {child : TaskId} {waitOpt : Int}

theorem waits_of_starts (hrunning : (r'.task child).state = .running)
    (hself : (r'.task t).state = if waitOpt = 1 then .paused child else .running)
    (hothers : forall u, u ≠ t -> u ≠ child -> (r'.task u).state = (r.task u).state)
    {p c : TaskId} (hwaits : r'.Waits p c) :
    (p = t ∧ c = child ∧ waitOpt = 1) ∨ r.Waits p c := by
  unfold Waits at hwaits
  by_cases hp : p = t
  · left
    rw [hp, hself] at hwaits
    split at hwaits
    · rename_i hwait
      cases hwaits
      exact ⟨hp, rfl, hwait⟩
    · cases hwaits
  · right
    have hp' : p ≠ child := by
      intro heq
      rw [heq, hrunning] at hwaits
      cases hwaits
    rw [hothers p hp hp'] at hwaits
    exact hwaits

theorem active_of_starts
    (hself : (r'.task t).state = if waitOpt = 1 then .paused child else .running)
    (hothers : forall u, u ≠ t -> u ≠ child -> (r'.task u).state = (r.task u).state)
    {c : TaskId} (hc : c ≠ child) (hactive : (r.task c).state ≠ .free) :
    (r'.task c).state ≠ .free := by
  by_cases hct : c = t
  · rw [hct, hself]
    split <;> simp
  · rw [hothers c hct hc]
    exact hactive

end Starting

theorem waits_of_loses (hfree : (r'.task t).state = .free)
    (hothers : forall u, u ≠ t -> (r'.task u).state = (r.task u).state)
    {p c : TaskId} (hwaits : r'.Waits p c) : r.Waits p c := by
  unfold Waits at hwaits
  have hp : p ≠ t := by
    intro heq
    rw [heq, hfree] at hwaits
    cases hwaits
  rw [hothers p hp] at hwaits
  exact hwaits

theorem StateChange.waitsSound (hchange : StateChange kept t r r')
    (hkept : kept ∨ forall p, ¬ r.Waits p t) (h : WaitsSound r) : WaitsSound r' := by
  cases hchange with
  | same hstate hstarted =>
      have hwaits : r'.Waits = r.Waits := by
        funext p c
        simp only [Waits, hstate]
      constructor
      · intro p c hpc
        rw [hstate, hstarted]
        rw [hwaits] at hpc
        exact h.child p c hpc
      · rw [hwaits]
        exact h.noCycle
  | ends _ hfree hothers hstarted =>
      constructor
      · intro p c hpc
        rcases waits_of_ends hfree hothers hpc with ⟨hold, hc⟩
        rcases h.child p c hold with ⟨hactive, hparent⟩
        rw [hstarted, hothers c hc]
        refine ⟨?_, hparent⟩
        split
        · simp
        · exact hactive
      · exact h.noCycle.mono fun p c hpc => (waits_of_ends hfree hothers hpc).left
  | starts child waitOpt _ _ hfree hrunning hself hothers hstarted =>
      constructor
      · intro p c hpc
        rw [hstarted]
        rcases waits_of_starts hrunning hself hothers hpc with ⟨rfl, rfl, rfl⟩ | hold
        · rw [hrunning, Function.update_self]
          simp
        · have hc := h.ne_of_free hold hfree
          rcases h.child p c hold with ⟨hactive, hparent⟩
          rw [Function.update_of_ne hc]
          exact ⟨active_of_starts hself hothers hc hactive, hparent⟩
      · -- the child waits for nobody, so waiting for it closes no cycle
        apply h.noCycle.add_sink (x := t) (y := child)
        · intro p c hpc
          rcases waits_of_starts hrunning hself hothers hpc with ⟨hp, hc, _⟩ | hold
          · exact Or.inr ⟨hp, hc⟩
          · exact Or.inl hold
        · intro c hpc
          unfold Waits at hpc
          rw [hrunning] at hpc
          cases hpc
  | loses hlost hfree hothers hstarted =>
      have hnobody : forall p, ¬ r.Waits p t := by
        rcases hkept with hk | hnobody
        · exact absurd hk hlost
        · exact hnobody
      constructor
      · intro p c hpc
        have hold := waits_of_loses hfree hothers hpc
        have hc : c ≠ t := by
          intro heq
          rw [heq] at hold
          exact hnobody p hold
        rw [hstarted, hothers c hc]
        exact h.child p c hold
      · exact h.noCycle.mono fun p c hpc => waits_of_loses hfree hothers hpc

theorem StateChange.handsOver (hchange : StateChange kept t r r')
    (hrunning : (r.task t).state = .running)
    (hkept : kept ∨ forall p, ¬ r.Waits p t) (h : WaitsSound r) : HandsOver r r' := by
  intro p c hpc
  have hactive := (h.child p c hpc).left
  have hstate : (r.task p).state = .paused c := hpc
  have hp : p ≠ t := by
    intro heq
    rw [heq, hrunning] at hstate
    cases hstate
  cases hchange with
  | same hsame _ =>
      left
      unfold Waits
      rw [hsame, hsame]
      exact ⟨hpc, hactive⟩
  | ends _ hfree hothers _ =>
      unfold Waits
      rw [hothers p hp, hstate]
      by_cases hc : c = t
      · right
        rw [hc]
        exact ⟨if_pos rfl, hfree⟩
      · left
        rw [hothers c hc]
        constructor
        · rw [if_neg]
          intro heq
          cases heq
          exact hc rfl
        · split
          · simp
          · exact hactive
  | starts child waitOpt _ hne hfree _ hself hothers _ =>
      left
      have hc := h.ne_of_free hpc hfree
      have hp' : p ≠ child := by
        intro heq
        rw [heq, hfree] at hstate
        cases hstate
      unfold Waits
      rw [hothers p hp hp']
      exact ⟨hpc, active_of_starts hself hothers hc hactive⟩
  | loses hlost hfree hothers _ =>
      left
      have hc : c ≠ t := by
        intro heq
        rw [heq] at hpc
        rcases hkept with hk | hnobody
        · exact hlost hk
        · exact hnobody p hpc
      unfold Waits
      rw [hothers p hp, hothers c hc]
      exact ⟨hpc, hactive⟩

/-- The task at the end of the chain of waits from Task 0 is RUNNING. -/
theorem WaitsSound.exists_running (h : WaitsSound r)
    (hzero : (r.task 0).state ≠ .free) : exists t, (r.task t).state = .running := by
  rcases h.noCycle.exists_sink 0 with ⟨t, hchain, hlast⟩
  have hactive : (r.task t).state ≠ .free := by
    cases hchain with
    | refl => exact hzero
    | tail _ hwaits => exact (h.child _ t hwaits).left
  refine ⟨t, ?_⟩
  cases hstate : (r.task t).state with
  | free => exact absurd hstate hactive
  | running => rfl
  | paused c => exact absurd hstate (hlast c)

end Records

namespace Kernel

open Records

variable {sd : SdFat}

theorem Booted.waitsSound {r : Records} (h : Booted r) : WaitsSound r := by
  have hnobody : forall p c, ¬ r.Waits p c := by
    intro p c hwaits
    unfold Waits at hwaits
    by_cases hp : p = 0
    · rw [hp, h.running] at hwaits
      cases hwaits
    · rw [h.free p hp] at hwaits
      cases hwaits
  constructor
  · intro p c hwaits
    exact absurd hwaits (hnobody p c)
  · intro a hcycle
    rcases Relation.TransGen.head'_iff.mp hcycle with ⟨c, hc, _⟩
    exact hnobody a c hc

/-- A step that loses no program whose parent waits for it. -/
def WakesParent (k : Kernel sd) (e : Event) : Prop :=
  e = .turn -> k.turnKeepsProgram k.current = true ∨
    forall p, (k.tasks p).taskState ≠ .paused k.current

instance (k : Kernel sd) (e : Event) : Decidable (WakesParent k e) :=
  inferInstanceAs (Decidable (e = .turn -> k.turnKeepsProgram k.current = true ∨
    forall p, (k.tasks p).taskState ≠ .paused k.current))

theorem step_waitsSound (k : Kernel sd) (e : Event) (hok : WakesParent k e)
    (hup : DaemonUp k.records) (h : WaitsSound k.records) :
    WaitsSound (k.step e).records ∧ HandsOver k.records (k.step e).records := by
  rcases k.step_outcome e hup.noFile with hsame | ⟨hturn, hrunning, hout⟩
  · rw [hsame]
    refine ⟨h, ?_⟩
    intro p c hpc
    exact Or.inl ⟨hpc, (h.child p c hpc).left⟩
  · have hchange := hout.stateChange hrunning
    exact ⟨hchange.waitsSound (hok hturn) h, hchange.handsOver hrunning (hok hturn) h⟩

/--
As long as no step loses a program whose parent waits: a PAUSED task waits for
an active task, the last one loaded into that slot and loaded by its own
synchronous exec; there is no cycle of waits; a task is RUNNING; and the step
in which the child becomes FREE is the one in which its parent runs again.
-/
theorem no_lost_wakeup {card : sd.Card} {events : List Event}
    (h : AllSteps step WakesParent (boot card) events) :
    (forall p c, (((boot card).run events).tasks p).taskState = .paused c ->
      (((boot card).run events).tasks c).taskState ≠ .free ∧
        startedIn ((boot card).run events).log c = some (p, 1)) ∧
    NoCycle ((boot card).run events).records.Waits ∧
    (exists t, (((boot card).run events).tasks t).taskState = .running) ∧
    (forall e, WakesParent ((boot card).run events) e ->
      HandsOver ((boot card).run events).records
        (((boot card).run events).step e).records) := by
  rcases run_records WaitsSound (fun _ => Booted.waitsSound)
    (fun k e hok hup hsound => (k.step_waitsSound e hok hup hsound).left) h with
    ⟨hup, hsound⟩
  refine ⟨hsound.child, hsound.noCycle, hsound.exists_running hup.active, ?_⟩
  intro e hok
  exact (step_waitsSound _ e hok hup hsound).right

/-- The daemon has started the program it waits for. -/
theorem no_lost_wakeup_one_program :
    let k := (boot (CardImage.ofProgram 16#8 listingCode 1) : Kernel CardImage.sdFat).run
      [.arrive runAndWaitRequest.bytes, .turn]
    (k.tasks 0).taskState = .paused 1 ∧ (k.tasks 1).taskState ≠ .free ∧
      startedIn k.log 1 = some (0, 1) := by
  have hpaused : (((boot (CardImage.ofProgram 16#8 listingCode 1) :
      Kernel CardImage.sdFat).run [.arrive runAndWaitRequest.bytes, .turn]).tasks
      0).taskState = .paused 1 := by decide +kernel
  have hsteps : AllSteps step WakesParent
      (boot (CardImage.ofProgram 16#8 listingCode 1) : Kernel CardImage.sdFat)
      [.arrive runAndWaitRequest.bytes, .turn] := by decide +kernel
  exact ⟨hpaused, (no_lost_wakeup hsteps).left 0 1 hpaused⟩

set_option maxRecDepth 4000 in
/-- Task 0 waits for a slot that is FREE, and nothing runs any more. -/
theorem lostProgram_waits_for_nobody :
    (lostProgram.tasks 0).taskState = .paused 1 ∧
      (lostProgram.tasks 1).taskState = .free ∧
      forall t, (lostProgram.tasks t).taskState ≠ .running := by
  decide +kernel

end Kernel
end ArduOS
