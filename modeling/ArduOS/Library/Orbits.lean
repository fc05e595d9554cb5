import Mathlib.Data.Fintype.Card
import Mathlib.Data.Finset.Card
import Mathlib.Logic.Function.Iterate

/-!
# Orbits in a finite range

Whatever an iteration below `m` ever reaches it reaches within `m` steps.
-/

namespace ArduOS
namespace Library

theorem exists_iterate_repeat {f : Nat -> Nat} {m : Nat} {x : Nat}
    (hf : forall y, f y < m) (hx : x < m) :
    exists i j, i < j ∧ j <= m ∧ f^[i] x = f^[j] x := by
  have hrange : forall k, f^[k] x < m := by
    intro k
    cases k with
    | zero => exact hx
    | succ k =>
        rw [Function.iterate_succ_apply']
        exact hf _
  have hmaps : forall k, k ∈ Finset.range (m + 1) ->
      f^[k] x ∈ Finset.range m := by
    intro k _
    exact Finset.mem_range.mpr (hrange k)
  have hcard : (Finset.range m).card < (Finset.range (m + 1)).card := by simp
  rcases Finset.exists_ne_map_eq_of_card_lt_of_maps_to hcard hmaps with
    ⟨i, hi, j, hj, hne, heq⟩
  rw [Finset.mem_range] at hi hj
  rcases Nat.lt_or_gt_of_ne hne with hlt | hgt
  · exact ⟨i, j, hlt, by omega, heq⟩
  · exact ⟨j, i, hgt, by omega, heq.symm⟩

theorem exists_iterate_iff_lt {f : Nat -> Nat} {m : Nat} {x : Nat}
    (hf : forall y, f y < m) (hx : x < m) (P : Nat -> Prop) :
    (exists k, P (f^[k] x)) <-> exists k, k < m ∧ P (f^[k] x) := by
  constructor
  · rintro ⟨k, hk⟩
    -- strong induction: a step past the repetition can be taken back
    induction k using Nat.strong_induction_on with
    | _ k ih =>
        by_cases hkm : k < m
        · exact ⟨k, hkm, hk⟩
        · rcases exists_iterate_repeat hf hx with ⟨i, j, hij, hjm, heq⟩
          have hsplit : k = (k - j) + j := by omega
          have hback : f^[k] x = f^[(k - j) + i] x := by
            conv => lhs; rw [hsplit]
            rw [Function.iterate_add_apply, ← heq, ← Function.iterate_add_apply]
          rw [hback] at hk
          exact ih ((k - j) + i) (by omega) hk
  · rintro ⟨k, _, hk⟩
    exact ⟨k, hk⟩

end Library
end ArduOS
