import ArduOS.Library.Framing
import ArduOS.Library.Orbits

/-!
# A receiver fed one list over and over

Where a receiver cuts an input that repeats is, after the first cut, a walk on
the offsets within the repeated list.  So whether it ever cuts a given frame is
decided by at most as many steps of this walk as the list is long.
-/

namespace ArduOS
namespace Library

section Cycle

variable {α β : Type*} [Inhabited α]

def cycle (p : List α) : Nat -> α := fun i => p.getD (i % p.length) default

/-- The list `held` followed by a stream. -/
def after (held : List α) (s : Nat -> α) : Nat -> α := fun i =>
  if i < held.length then held.getD i default else s (i - held.length)

theorem takeFrom_after (held : List α) (s : Nat -> α) :
    takeFrom (after held s) held.length = held := by
  apply List.ext_getElem
  · simp
  · intro i hi hi'
    simp [takeFrom, after, hi']

theorem shift_after (held : List α) (s : Nat -> α) {k : Nat}
    (hk : held.length <= k) :
    shift (after held s) k = shift s (k - held.length) := by
  funext i
  have hge : ¬ k + i < held.length := by omega
  have hsub : k + i - held.length = k - held.length + i := by omega
  simp [shift, after, hge, hsub]

theorem shift_cycle (p : List α) (k : Nat) :
    shift (cycle p) (k % p.length) = shift (cycle p) k := by
  funext i
  simp [shift, cycle, Nat.mod_add_mod]

theorem takeFrom_cycle (p : List α) (n : Nat) :
    takeFrom (cycle p) (n * p.length) = (List.replicate n p).flatten := by
  have honce : takeFrom (cycle p) p.length = p := by
    apply List.ext_getElem
    · simp
    · intro i hi hi'
      simp [takeFrom, cycle, Nat.mod_eq_of_lt hi', hi']
  have hback : shift (cycle p) p.length = cycle p := by
    have hmod := shift_cycle p p.length
    rw [Nat.mod_self, shift_zero] at hmod
    exact hmod.symm
  induction n with
  | zero => simp [takeFrom]
  | succ n ih =>
      rw [Nat.succ_mul, Nat.add_comm, takeFrom_add, honce, hback, ih,
        List.replicate_succ, List.flatten_cons]

/-!
## The walk on the offsets
-/

variable (span : (Nat -> α) -> Nat)

def firstOffset (held p : List α) : Nat :=
  (span (after held (cycle p)) - held.length) % p.length

def nextOffset (p : List α) (offset : Nat) : Nat :=
  (offset + span (shift (cycle p) offset)) % p.length

variable {span}

theorem shift_frameStart {held p : List α}
    (hheld : held.length < span (after held (cycle p))) (k : Nat) :
    held.length <= frameStart span (after held (cycle p)) (k + 1) ∧
      shift (after held (cycle p)) (frameStart span (after held (cycle p)) (k + 1)) =
        shift (cycle p) ((nextOffset span p)^[k] (firstOffset span held p)) := by
  induction k with
  | zero =>
      have hle : held.length <= frameStart span (after held (cycle p)) 1 := by
        simp only [frameStart, shift_zero, Nat.zero_add]
        omega
      refine ⟨hle, ?_⟩
      rw [shift_after held _ hle, Function.iterate_zero_apply, firstOffset,
        shift_cycle]
      simp [frameStart]
  | succ k ih =>
      rcases ih with ⟨hle, hshift⟩
      have hstart : frameStart span (after held (cycle p)) (k + 1 + 1) =
          frameStart span (after held (cycle p)) (k + 1) +
            span (shift (cycle p)
              ((nextOffset span p)^[k] (firstOffset span held p))) := by
        rw [frameStart, hshift]
      refine ⟨by omega, ?_⟩
      rw [hstart, ← shift_shift, hshift, shift_shift, Function.iterate_succ_apply',
        nextOffset, shift_cycle]

variable {capacity : Nat} {verdict : List α -> Verdict β}
  {frame : (Nat -> α) -> Option β}

/-- What a receiver that holds `held` ever cuts from `p`, `p`, ... -/
theorem Delimits.mem_frames_replicate (h : Delimits capacity verdict span frame)
    {held p : List α} (hp : 0 < p.length)
    (hheld : held.length < span (after held (cycle p))) (f : β) :
    (exists n, f ∈ frames capacity verdict held (List.replicate n p).flatten) <->
      frame (after held (cycle p)) = some f ∨
        exists k, k < p.length ∧
          frame (shift (cycle p)
            ((nextOffset span p)^[k] (firstOffset span held p))) = some f := by
  have hfirst : firstOffset span held p < p.length := Nat.mod_lt _ hp
  have hnext : forall o, nextOffset span p o < p.length := fun _ => Nat.mod_lt _ hp
  have htail : shift (after held (cycle p)) held.length = cycle p := by
    rw [shift_after held _ (Nat.le_refl _), Nat.sub_self, shift_zero]
  have hmem : forall n, f ∈ frames capacity verdict held (List.replicate n p).flatten <->
      exists k, frameStart span (after held (cycle p)) (k + 1) <=
          held.length + n * p.length ∧
        frame (shift (after held (cycle p))
          (frameStart span (after held (cycle p)) k)) = some f := by
    intro n
    have hframes := h.mem_frames f _ (after held (cycle p)) held.length
      (n * p.length) (Nat.le_refl _) hheld
    rw [takeFrom_after, htail, takeFrom_cycle] at hframes
    exact hframes
  rw [← exists_iterate_iff_lt hnext hfirst fun o =>
    frame (shift (cycle p) o) = some f]
  constructor
  · rintro ⟨n, hn⟩
    rcases (hmem n).mp hn with ⟨k, _, hk⟩
    cases k with
    | zero =>
        left
        simpa [frameStart] using hk
    | succ k =>
        right
        rw [(shift_frameStart hheld k).right] at hk
        exact ⟨k, hk⟩
  · intro hfound
    have hlong : forall m, m <= held.length + m * p.length := by
      intro m
      have hmul := Nat.le_mul_of_pos_right m hp
      omega
    rcases hfound with hzero | ⟨k, hk⟩
    · refine ⟨_, (hmem _).mpr ⟨0, hlong _, ?_⟩⟩
      simpa [frameStart] using hzero
    · refine ⟨_, (hmem _).mpr ⟨k + 1, hlong _, ?_⟩⟩
      rw [(shift_frameStart hheld k).right]
      exact hk

end Cycle

end Library
end ArduOS
