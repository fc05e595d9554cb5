import Mathlib.Logic.Function.Basic

/-!
# Lists in a memory

A memory with a list of values stored from some address on, built up one cell
after the other.
-/

namespace ArduOS
namespace Library

variable {α : Type*}

def stored (m : Int -> α) (start : Int) (vals : List α) : Int -> α := fun c =>
  if start <= c then (vals[(c - start).toNat]?).getD (m c) else m c

@[simp] theorem stored_nil (m : Int -> α) (start : Int) : stored m start [] = m := by
  funext c
  simp [stored]

theorem stored_below (m : Int -> α) {start c : Int} (vals : List α) (h : c < start) :
    stored m start vals c = m c :=
  if_neg (by omega)

theorem stored_above (m : Int -> α) {start c : Int} {vals : List α}
    (h : start + vals.length <= c) : stored m start vals c = m c := by
  unfold stored
  rw [if_pos (by omega), List.getElem?_eq_none (by omega)]
  rfl

theorem stored_at (m : Int -> α) (start : Int) (vals : List α) (i : Nat) :
    stored m start vals (start + i) = (vals[i]?).getD (m (start + i)) := by
  have hindex : (start + (i : Int) - start).toNat = i := by omega
  unfold stored
  rw [if_pos (by omega), hindex]

theorem stored_snoc (m : Int -> α) (start : Int) (vals : List α) (v : α) :
    Function.update (stored m start vals) (start + vals.length) v =
      stored m start (vals ++ [v]) := by
  funext c
  by_cases hc : c = start + vals.length
  · rw [hc, Function.update_self, stored_at, List.getElem?_concat_length]
    rfl
  · rw [Function.update_of_ne hc]
    by_cases hlo : c < start
    · rw [stored_below m _ hlo, stored_below m _ hlo]
    · by_cases hhi : c < start + vals.length
      · unfold stored
        rw [List.getElem?_append_left (by omega)]
      · rw [stored_above m (by omega), stored_above m]
        simp only [List.length_append, List.length_singleton]
        omega

/-!
## A stack in a memory
-/

def descending (m : Int -> α) : Nat -> List α
  | 0 => []
  | n + 1 => m n :: descending m n

@[simp] theorem descending_zero (m : Int -> α) : descending m 0 = [] := rfl

@[simp] theorem descending_succ (m : Int -> α) (n : Nat) :
    descending m (n + 1) = m n :: descending m n := rfl

theorem descending_update (m : Int -> α) (v : α) {n : Nat} {i : Int} (h : n <= i) :
    descending (Function.update m i v) n = descending m n := by
  induction n with
  | zero => rfl
  | succ n ih =>
      have hne : (n : Int) ≠ i := by omega
      rw [descending_succ, descending_succ, Function.update_of_ne hne, ih (by omega)]

end Library
end ArduOS
