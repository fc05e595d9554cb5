import Mathlib.Logic.Function.Basic
import Mathlib.Logic.Function.Iterate

/-!
# Counting loops

`for (i = 0; i < n; i++)` as a function of the loop state, with and without an
early exit, and the invariant rules the proofs about such loops use.
-/

namespace ArduOS
namespace Library

variable {σ τ ρ α : Type*}

/-!
## Loops that run to the end
-/

def forLoop : Nat -> (Nat -> σ -> σ) -> σ -> σ
  | 0, _, s => s
  | n + 1, body, s => body n (forLoop n body s)

@[simp] theorem forLoop_zero (body : Nat -> σ -> σ) (s : σ) :
    forLoop 0 body s = s := rfl

theorem forLoop_succ (n : Nat) (body : Nat -> σ -> σ) (s : σ) :
    forLoop (n + 1) body s = body n (forLoop n body s) := rfl

theorem forLoop_invariant {n : Nat} {body : Nat -> σ -> σ} {s : σ}
    (inv : Nat -> σ -> Prop) (hzero : inv 0 s)
    (hstep : forall i s, i < n -> inv i s -> inv (i + 1) (body i s)) :
    inv n (forLoop n body s) := by
  induction n with
  | zero => exact hzero
  | succ n ih =>
      have hn : inv n (forLoop n body s) :=
        ih fun i s hi hs => hstep i s (Nat.lt_succ_of_lt hi) hs
      exact hstep n _ (Nat.lt_succ_self n) hn

theorem forLoop_preserves {n : Nat} {body : Nat -> σ -> σ} {s : σ}
    (inv : σ -> Prop) (hs : inv s)
    (hstep : forall i s, i < n -> inv s -> inv (body i s)) :
    inv (forLoop n body s) :=
  forLoop_invariant (fun _ => inv) hs hstep

theorem forLoop_view {n : Nat} {body : Nat -> σ -> σ} (s : σ) (view : σ -> τ)
    (hstep : forall i s, i < n -> view (body i s) = view s) :
    view (forLoop n body s) = view s := by
  apply forLoop_preserves (fun s' => view s' = view s) rfl
  intro i s' hi hs'
  rw [hstep i s' hi, hs']

theorem forLoop_congr {n : Nat} {body body' : Nat -> σ -> σ} (s : σ)
    (h : forall i s, i < n -> body i s = body' i s) :
    forLoop n body s = forLoop n body' s := by
  induction n with
  | zero => rfl
  | succ n ih =>
      rw [forLoop_succ, forLoop_succ,
        ih fun i s hi => h i s (Nat.lt_succ_of_lt hi),
        h n _ (Nat.lt_succ_self n)]

/--
Filling the cells `at 0`, ..., `at (n - 1)` of a memory: a cell hit by the loop
holds its own value when no later turn hits it again, any other cell is kept.
-/
theorem forLoop_update_of_ne [DecidableEq τ] {n : Nat} (cell : Nat -> τ)
    (value : Nat -> α) (m : τ -> α) {x : τ}
    (h : forall i, i < n -> x ≠ cell i) :
    forLoop n (fun i m => Function.update m (cell i) (value i)) m x = m x := by
  apply forLoop_preserves (fun m' : τ -> α => m' x = m x) rfl
  intro i m' hi hm'
  rw [Function.update_of_ne (h i hi), hm']

theorem forLoop_update_self [DecidableEq τ] {n : Nat} (cell : Nat -> τ)
    (value : Nat -> α) (m : τ -> α) {i : Nat} (hi : i < n)
    (hinj : forall j, i < j -> j < n -> cell i ≠ cell j) :
    forLoop n (fun i m => Function.update m (cell i) (value i)) m (cell i) =
      value i := by
  induction n with
  | zero => omega
  | succ n ih =>
      rw [forLoop_succ]
      by_cases hn : i = n
      · subst hn
        exact Function.update_self ..
      · have hlt : i < n := by omega
        rw [Function.update_of_ne (hinj n hlt (Nat.lt_succ_self n))]
        exact ih hlt fun j hij hj => hinj j hij (Nat.lt_succ_of_lt hj)

/-!
## Loops with an early exit
-/

/-- What one turn of a loop does: go on with `s`, or leave the loop with `r`. -/
inductive Flow (σ ρ : Type*) where
  | next (s : σ)
  | exit (r : ρ)

def forExitFrom (body : Nat -> σ -> Flow σ ρ) : Nat -> Nat -> σ -> Flow σ ρ
  | 0, _, s => .next s
  | m + 1, i, s =>
      match body i s with
      | .next s' => forExitFrom body m (i + 1) s'
      | .exit r => .exit r

def forExit (n : Nat) (body : Nat -> σ -> Flow σ ρ) (s : σ) : Flow σ ρ :=
  forExitFrom body n 0 s

def Flow.Ends (done : σ -> Prop) (left : ρ -> Prop) : Flow σ ρ -> Prop
  | .next s => done s
  | .exit r => left r

theorem forExitFrom_ends {body : Nat -> σ -> Flow σ ρ} {n : Nat}
    (inv : Nat -> σ -> Prop) (left : ρ -> Prop)
    (hbody : forall i s, i < n -> inv i s ->
      (body i s).Ends (inv (i + 1)) left) :
    forall (m i : Nat) (s : σ), i + m = n -> inv i s ->
      (forExitFrom body m i s).Ends (inv n) left := by
  intro m
  induction m with
  | zero =>
      intro i s hi hs
      have hin : i = n := by omega
      rw [← hin]
      exact hs
  | succ m ih =>
      intro i s hi hs
      have hturn := hbody i s (by omega) hs
      unfold forExitFrom
      cases hflow : body i s with
      | next s' =>
          rw [hflow] at hturn
          exact ih (i + 1) s' (by omega) hturn
      | exit r =>
          rw [hflow] at hturn
          exact hturn

/-- The invariant rule: `inv i` holds before turn `i`, `left` when a turn exits. -/
theorem forExit_ends {n : Nat} {f : Nat -> σ -> Flow σ ρ} {s : σ}
    (inv : Nat -> σ -> Prop) (left : ρ -> Prop) (hzero : inv 0 s)
    (hturn : forall i s, i < n -> inv i s ->
      (f i s).Ends (inv (i + 1)) left) :
    (forExit n f s).Ends (inv n) left :=
  forExitFrom_ends inv left hturn n 0 s (Nat.zero_add n) hzero

/-- A search: turns that change nothing, and the first one that leaves. -/
theorem forExit_exit {n j : Nat} {body : Nat -> σ -> Flow σ ρ} {s : σ} {r : ρ}
    (hj : j < n) (hbefore : forall i, i < j -> body i s = .next s)
    (hat : body j s = .exit r) : forExit n body s = .exit r := by
  have hfrom : forall m i, i + m = n -> i <= j ->
      forExitFrom body m i s = .exit r := by
    intro m
    induction m with
    | zero =>
        intro i hi hij
        omega
    | succ m ih =>
        intro i hi hij
        unfold forExitFrom
        by_cases heq : i = j
        · rw [heq, hat]
        · rw [hbefore i (by omega)]
          exact ih (i + 1) (by omega) (by omega)
  exact hfrom n 0 (Nat.zero_add n) (Nat.zero_le j)

theorem forExit_eq_forLoop {n : Nat} {body : Nat -> σ -> Flow σ ρ}
    {g : Nat -> σ -> σ} (s : σ)
    (h : forall i s, i < n -> body i s = .next (g i s)) :
    forExit n body s = .next (forLoop n g s) := by
  have hends : (forExit n body s).Ends (fun s' => s' = forLoop n g s) fun _ => False := by
    apply forExit_ends (fun i s' => s' = forLoop i g s) (fun _ => False) rfl
    intro i s' hi hs'
    rw [h i s' hi, hs']
    exact forLoop_succ i g s
  cases hflow : forExit n body s with
  | next s' =>
      rw [hflow] at hends
      exact congrArg Flow.next hends
  | exit r =>
      rw [hflow] at hends
      exact absurd hends id

def Flow.value : Flow σ σ -> σ
  | .next s => s
  | .exit s => s

theorem forExit_value_preserves {n : Nat} {body : Nat -> σ -> Flow σ σ} {s : σ}
    (inv : σ -> Prop) (hs : inv s)
    (hbody : forall i s, i < n -> inv s -> inv (body i s).value) :
    inv (forExit n body s).value := by
  have h : (forExit n body s).Ends inv inv := by
    apply forExit_ends (fun _ => inv) inv hs
    intro i s hi hinv
    have hturn := hbody i s hi hinv
    cases hflow : body i s with
    | next s' =>
        rw [hflow] at hturn
        exact hturn
    | exit s' =>
        rw [hflow] at hturn
        exact hturn
  cases hflow : forExit n body s with
  | next s' =>
      rw [hflow] at h
      exact h
  | exit s' =>
      rw [hflow] at h
      exact h

end Library
end ArduOS
