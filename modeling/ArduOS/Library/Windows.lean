import Mathlib.Data.List.Basic

/-!
# Reading through a window

Data read through a window of `n` cells.  The cells from `idx` on hold what
comes next, the rest of the data starts at `next`, and a window that is used up
is filled again with as much of it as there is.
-/

namespace ArduOS
namespace Library

variable {β : Type*}

structure Window (n : Nat) (data : List β) (cells : Nat -> β) (idx next here : Nat) :
    Prop where
  used : idx <= n
  inside : here <= data.length
  rest : next = min (here + (n - idx)) data.length
  holds : forall i, idx + i < n -> here + i < data.length ->
    data[here + i]? = some (cells (idx + i))

def refilled (bytes : List β) (cells : Nat -> β) (i : Nat) : β :=
  (bytes[i]?).getD (cells i)

variable {n : Nat} {data : List β} {cells : Nat -> β} {idx next here : Nat}

theorem Window.current (h : Window n data cells idx next here) (hidx : idx < n)
    (hhere : here < data.length) : data[here]? = some (cells idx) :=
  h.holds 0 hidx hhere

theorem Window.take (h : Window n data cells idx next here) (hidx : idx < n)
    (hhere : here < data.length) : Window n data cells (idx + 1) next (here + 1) := by
  constructor
  · omega
  · omega
  · rw [h.rest]
    congr 1
    omega
  · intro i hi hin
    have hheld := h.holds (i + 1) (by omega) (by omega)
    have hplace : here + 1 + i = here + (i + 1) := by omega
    have hcell : idx + 1 + i = idx + (i + 1) := by omega
    rw [hplace, hcell]
    exact hheld

theorem Window.next_of_used (h : Window n data cells n next here) : next = here := by
  have hinside := h.inside
  rw [h.rest]
  omega

theorem Window.refill (h : Window n data cells n next here) :
    Window n data (refilled ((data.drop next).take n) cells) 0
      (next + min n (data.length - next)) here := by
  have hnext := h.next_of_used
  have hinside := h.inside
  constructor
  · omega
  · exact hinside
  · omega
  · intro i hi hin
    have hbyte : ((data.drop next).take n)[i]? = data[here + i]? := by
      rw [List.getElem?_take_of_lt (by omega), List.getElem?_drop, hnext]
    unfold refilled
    rw [Nat.zero_add, hbyte, List.getElem?_eq_getElem hin]
    rfl

theorem window_jump (n : Nat) (data : List β) (cells : Nat -> β) (here : Nat)
    (hinside : here <= data.length) : Window n data cells n here here := by
  constructor
  · omega
  · exact hinside
  · omega
  · intro i hi _
    omega

end Library
end ArduOS
