import Mathlib.Data.Nat.Basic

/-!
# Clocks that wrap

A deadline on a clock that counts modulo `M`, and a test that compares it with
the clock as if both were times: the test is right as long as the clock and the
deadline have wrapped equally often.
-/

namespace ArduOS
namespace Library

/-- The test of a deadline; 0 stands for no deadline at all. -/
def Due (deadline now : Nat) : Prop := deadline = 0 ∨ deadline <= now

theorem add_mod_of_lt {M a b : Nat} (h : a + b < M) : (a + b) % M = a + b :=
  Nat.mod_eq_of_lt h

theorem add_mod_of_le {M a b : Nat} (ha : a < M) (hb : b < M) (h : M <= a + b) :
    (a + b) % M = a + b - M := by
  rw [Nat.mod_eq_sub_mod h]
  exact Nat.mod_eq_of_lt (by omega)

/--
The test says that the delay is over exactly when it is, if and only if both
sums pass the end of the clock or neither does.
-/
theorem due_iff_same_side {M start delay elapsed : Nat} (hstart : start < M)
    (hdelay : delay < M) (helapsed : elapsed < M) :
    (Due ((start + delay) % M) ((start + elapsed) % M) <-> delay <= elapsed) <->
      (start + delay < M <-> start + elapsed < M) := by
  unfold Due
  by_cases hd : start + delay < M
  · rw [add_mod_of_lt hd]
    by_cases he : start + elapsed < M
    · rw [add_mod_of_lt he]
      omega
    · -- the clock has wrapped and stands before the start
      rw [add_mod_of_le hstart helapsed (by omega)]
      omega
  · rw [add_mod_of_le hstart hdelay (by omega)]
    by_cases he : start + elapsed < M
    · -- the deadline has wrapped and lies before the start
      rw [add_mod_of_lt he]
      omega
    · rw [add_mod_of_le hstart helapsed (by omega)]
      omega

end Library
end ArduOS
