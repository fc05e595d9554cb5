import Mathlib.Data.List.Basic

/-!
# Runs

A machine given by a step function, and runs in which every step is taken in a
state that meets a condition.  What such steps preserve holds after the run.
-/

namespace ArduOS
namespace Library

variable {σ ε : Type*}

/-- Every step of the run is taken in a state that meets the condition. -/
def AllSteps (step : σ -> ε -> σ) (ok : σ -> ε -> Prop) : σ -> List ε -> Prop
  | _, [] => True
  | s, e :: events => ok s e ∧ AllSteps step ok (step s e) events

instance AllSteps.decidable (step : σ -> ε -> σ) (ok : σ -> ε -> Prop)
    [forall s e, Decidable (ok s e)] :
    forall s events, Decidable (AllSteps step ok s events)
  | _, [] => .isTrue trivial
  | s, e :: events =>
      have := AllSteps.decidable step ok (step s e) events
      inferInstanceAs (Decidable (ok s e ∧ AllSteps step ok (step s e) events))

variable {step : σ -> ε -> σ} {ok : σ -> ε -> Prop}

theorem AllSteps.preserves (inv : σ -> Prop)
    (hstep : forall s e, ok s e -> inv s -> inv (step s e)) :
    forall (events : List ε) (s : σ), AllSteps step ok s events -> inv s ->
      inv (events.foldl step s) := by
  intro events
  induction events with
  | nil =>
      intro s _ hs
      exact hs
  | cons e events ih =>
      intro s hrun hs
      exact ih (step s e) hrun.right (hstep s e hrun.left hs)

theorem AllSteps.of_forall (h : forall s e, ok s e) :
    forall (events : List ε) (s : σ), AllSteps step ok s events := by
  intro events
  induction events with
  | nil =>
      intro s
      trivial
  | cons e events ih =>
      intro s
      exact ⟨h s e, ih (step s e)⟩

/-- What every step preserves, wherever it is taken, holds after every run. -/
theorem run_preserves (inv : σ -> Prop) (hstep : forall s e, inv s -> inv (step s e))
    (events : List ε) (s : σ) (hs : inv s) : inv (events.foldl step s) := by
  induction events generalizing s with
  | nil => exact hs
  | cons e events ih => exact ih (step s e) (hstep s e hs)

theorem AllSteps.append :
    forall (before after : List ε) (s : σ), AllSteps step ok s (before ++ after) ->
      AllSteps step ok s before ∧ AllSteps step ok (before.foldl step s) after := by
  intro before
  induction before with
  | nil =>
      intro after s hrun
      exact ⟨trivial, hrun⟩
  | cons e before ih =>
      intro after s hrun
      rcases ih after (step s e) hrun.right with ⟨hbefore, hafter⟩
      exact ⟨⟨hrun.left, hbefore⟩, hafter⟩

/-- What every step preserves or ends holds after the run, or up to the step that ends it. -/
theorem AllSteps.preserves_until (inv ended : σ -> Prop)
    (hstep : forall s e, ok s e -> inv s -> inv (step s e) ∨ ended (step s e)) :
    forall (events : List ε) (s : σ), AllSteps step ok s events -> inv s ->
      inv (events.foldl step s) ∨
        exists done e rest, events = done ++ e :: rest ∧ inv (done.foldl step s) ∧
          ended ((done ++ [e]).foldl step s) := by
  intro events
  induction events with
  | nil =>
      intro s _ hs
      exact .inl hs
  | cons e events ih =>
      intro s hrun hs
      rcases hstep s e hrun.left hs with hnext | hended
      · rcases ih (step s e) hrun.right hnext with hend | ⟨done, e', rest, rfl, hdone, hlast⟩
        · exact .inl hend
        · exact .inr ⟨e :: done, e', rest, rfl, hdone, hlast⟩
      · exact .inr ⟨[], e, events, rfl, hs, hended⟩

/--
Where a step from a good situation leads to a good one exactly if it meets the
condition, all steps of a run meet it exactly if the run is good throughout.
What is good may depend on the events that are still to come.
-/
theorem AllSteps.iff_throughout (good : List ε -> σ -> Prop)
    (hstep : forall s e events, good (e :: events) s ->
      (good events (step s e) <-> ok s e)) :
    forall (events : List ε) (s : σ), good events s ->
      (AllSteps step ok s events <-> forall before after, events = before ++ after ->
        good after (before.foldl step s)) := by
  intro events
  induction events with
  | nil =>
      intro s hs
      constructor
      · intro _ before after hsplit
        rcases List.append_eq_nil_iff.mp hsplit.symm with ⟨rfl, rfl⟩
        exact hs
      · intro _
        trivial
  | cons e events ih =>
      intro s hs
      constructor
      · intro hrun before after hsplit
        cases before with
        | nil =>
            rw [List.nil_append] at hsplit
            rw [← hsplit]
            exact hs
        | cons e' before =>
            rcases List.cons.inj hsplit with ⟨rfl, hrest⟩
            have hnext := (hstep s e events hs).mpr hrun.left
            exact (ih _ hnext).mp hrun.right before after hrest
      · intro hgood
        have hnext : good events (step s e) := hgood [e] events rfl
        refine ⟨(hstep s e events hs).mp hnext, (ih _ hnext).mpr ?_⟩
        intro before after hsplit
        exact hgood (e :: before) after (by rw [hsplit, List.cons_append])

end Library
end ArduOS
