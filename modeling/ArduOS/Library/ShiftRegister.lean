import ArduOS.Library.Loops
import ArduOS.Library.Bits

/-!
# Linear shift registers

A register that takes in one bit at its low end and shifts: linear for
exclusive or, a plain shift when the low bit is clear, and never zero after a
step unless it was zero before.  Fed an error that is confined to as many
consecutive bits as the register has, it does not come back to zero.
-/

namespace ArduOS
namespace Library

variable {w : Nat}

structure ShiftRegister (w : Nat) where
  step : BitVec w -> BitVec w
  step_xor : forall a b, step (a ^^^ b) = step a ^^^ step b
  step_even : forall r, r.getLsbD 0 = false -> step r = r >>> 1
  step_ne_zero : forall r, step r = 0#w -> r = 0#w

def bitWord (w : Nat) (b : Bool) : BitVec w := (BitVec.ofBool b).setWidth w

theorem getLsbD_bitWord (b : Bool) (i : Nat) :
    (bitWord w b).getLsbD i = (decide (i = 0 ∧ 0 < w) && b) := by
  unfold bitWord
  rw [BitVec.getLsbD_setWidth, BitVec.getLsbD_ofBool]
  by_cases hi : i = 0
  · simp [hi]
  · simp [hi]

theorem bitWord_xor (a b : Bool) :
    bitWord w (a ^^ b) = bitWord w a ^^^ bitWord w b := by
  apply BitVec.eq_of_getLsbD_eq
  intro i hi
  rw [BitVec.getLsbD_xor, getLsbD_bitWord, getLsbD_bitWord, getLsbD_bitWord]
  by_cases h0 : i = 0 ∧ 0 < w
  · simp [h0]
  · simp [h0]

def wordOf (w : Nat) (bits : Nat -> Bool) (n : Nat) : BitVec w :=
  forLoop n (fun i word => word ^^^ (bitWord w (bits i) <<< i)) 0#w

theorem getLsbD_wordOf (bits : Nat -> Bool) (n i : Nat) :
    (wordOf w bits n).getLsbD i = (decide (i < n ∧ i < w) && bits i) := by
  induction n with
  | zero => simp [wordOf]
  | succ n ih =>
      have hstep : wordOf w bits (n + 1) =
          wordOf w bits n ^^^ (bitWord w (bits n) <<< n) := rfl
      rw [hstep, BitVec.getLsbD_xor, ih, BitVec.getLsbD_shiftLeft, getLsbD_bitWord]
      by_cases hw : i < w
      · have hpos : 0 < w := by omega
        rcases Nat.lt_trichotomy i n with hlt | heq | hgt
        · have hsucc : i < n + 1 := by omega
          simp [hlt, hsucc, hw]
        · subst heq
          simp [hw, hpos]
        · have hnot : ¬ i < n := by omega
          have hsucc : ¬ i < n + 1 := by omega
          have hsub : i - n ≠ 0 := by omega
          simp [hnot, hsucc, hsub]
      · simp [hw]

theorem wordOf_eq {word : BitVec w} {bits : Nat -> Bool} {n : Nat}
    (hin : forall i, i < n -> bits i = word.getLsbD i)
    (hout : forall i, n <= i -> word.getLsbD i = false) : wordOf w bits n = word := by
  apply BitVec.eq_of_getLsbD_eq
  intro i hi
  rw [getLsbD_wordOf]
  by_cases hn : i < n
  · simp [hn, hi, hin i hn]
  · simp [hn, hout i (by omega)]

theorem littleEndian_eq_wordOf {n : Nat} (hw : w = 8 * n) (bytes : Nat -> BitVec 8) :
    littleEndian w bytes n =
      wordOf w (fun i => (bytes (i / 8)).getLsbD (i % 8)) w := by
  symm
  apply wordOf_eq
  · intro i hi
    rw [getLsbD_littleEndian hw]
    simp [hi]
  · intro i hi
    exact BitVec.getLsbD_of_ge _ _ hi

namespace ShiftRegister

variable (R : ShiftRegister w)

/-!
## Stepping without input
-/

theorem step_zero : R.step 0#w = 0#w := by
  rw [R.step_even 0#w (by simp)]
  simp

theorem iterate_zero (n : Nat) : R.step^[n] 0#w = 0#w := by
  induction n with
  | zero => rfl
  | succ n ih => rw [Function.iterate_succ_apply', ih, R.step_zero]

theorem iterate_xor (n : Nat) (a b : BitVec w) :
    R.step^[n] (a ^^^ b) = R.step^[n] a ^^^ R.step^[n] b := by
  induction n with
  | zero => rfl
  | succ n ih =>
      rw [Function.iterate_succ_apply', Function.iterate_succ_apply',
        Function.iterate_succ_apply', ih, R.step_xor]

theorem iterate_ne_zero (n : Nat) {r : BitVec w} (h : R.step^[n] r = 0#w) :
    r = 0#w := by
  induction n with
  | zero => exact h
  | succ n ih =>
      rw [Function.iterate_succ_apply'] at h
      exact ih (R.step_ne_zero _ h)

theorem iterate_bitWord (b : Bool) {n : Nat} (hn : n < w) :
    R.step^[n] (bitWord w b <<< n) = bitWord w b := by
  induction n with
  | zero => simp
  | succ n ih =>
      have hlow : (bitWord w b <<< (n + 1)).getLsbD 0 = false := by simp
      have hdown : (bitWord w b <<< (n + 1)) >>> 1 = bitWord w b <<< n := by
        apply BitVec.eq_of_getLsbD_eq
        intro i hi
        rw [BitVec.getLsbD_ushiftRight, BitVec.getLsbD_shiftLeft,
          BitVec.getLsbD_shiftLeft, getLsbD_bitWord, getLsbD_bitWord]
        by_cases hin : i = n
        · subst hin
          have hplace : 1 + i - (i + 1) = 0 := by omega
          have hroom : 1 + i < w := by omega
          have hup : ¬ 1 + i < i + 1 := by omega
          simp [hplace, hroom, hup, hi]
        · have hplace : i - n = 0 -> i < n := by omega
          by_cases hlt : i < n
          · have hup : 1 + i < n + 1 := by omega
            simp [hlt, hup]
          · have hsub : i - n ≠ 0 := by omega
            have hsub' : 1 + i - (n + 1) ≠ 0 := by omega
            simp [hsub, hsub']
      rw [Function.iterate_succ_apply, R.step_even _ hlow, hdown]
      exact ih (by omega)

/-!
## Feeding bits
-/

def feed (bits : Nat -> Bool) (n : Nat) (r : BitVec w) : BitVec w :=
  forLoop n (fun i r => R.step (r ^^^ bitWord w (bits i))) r

theorem feed_succ (bits : Nat -> Bool) (n : Nat) (r : BitVec w) :
    R.feed bits (n + 1) r = R.step (R.feed bits n r ^^^ bitWord w (bits n)) := rfl

theorem feed_add (bits : Nat -> Bool) (m n : Nat) (r : BitVec w) :
    R.feed bits (m + n) r = R.feed (fun i => bits (m + i)) n (R.feed bits m r) := by
  induction n with
  | zero => rfl
  | succ n ih => rw [← Nat.add_assoc, feed_succ, feed_succ, ih]

theorem feed_xor (a b : Nat -> Bool) (n : Nat) (r s : BitVec w) :
    R.feed (fun i => a i ^^ b i) n (r ^^^ s) = R.feed a n r ^^^ R.feed b n s := by
  induction n with
  | zero => rfl
  | succ n ih =>
      have hswap : (R.feed a n r ^^^ R.feed b n s) ^^^
          (bitWord w (a n) ^^^ bitWord w (b n)) =
            (R.feed a n r ^^^ bitWord w (a n)) ^^^
              (R.feed b n s ^^^ bitWord w (b n)) := by
        ac_rfl
      rw [feed_succ, feed_succ, feed_succ, ih, bitWord_xor, hswap, R.step_xor]

theorem feed_clear {bits : Nat -> Bool} {n : Nat} (r : BitVec w)
    (h : forall i, i < n -> bits i = false) : R.feed bits n r = R.step^[n] r := by
  induction n with
  | zero => rfl
  | succ n ih =>
      have hbit : bitWord w (bits n) = 0#w := by
        rw [h n (Nat.lt_succ_self n)]
        simp [bitWord]
      rw [feed_succ, ih fun i hi => h i (Nat.lt_succ_of_lt hi), hbit,
        Function.iterate_succ_apply', BitVec.xor_zero]

/-- Up to `w` bits fed one at a time go in as if they were added at once. -/
theorem feed_word (bits : Nat -> Bool) {n : Nat} (hn : n <= w) (r : BitVec w) :
    R.feed bits n r = R.step^[n] (r ^^^ wordOf w bits n) := by
  induction n with
  | zero => simp [feed, wordOf]
  | succ n ih =>
      have hword : wordOf w bits (n + 1) =
          wordOf w bits n ^^^ (bitWord w (bits n) <<< n) := rfl
      rw [feed_succ, ih (by omega), hword, ← BitVec.xor_assoc,
        Function.iterate_succ_apply', R.iterate_xor n (r ^^^ wordOf w bits n),
        R.iterate_bitWord (bits n) (by omega)]

theorem feed_self {bits : Nat -> Bool} {r : BitVec w} (h : wordOf w bits w = r) :
    R.feed bits w r = 0#w := by
  rw [R.feed_word bits (Nat.le_refl w), h, BitVec.xor_self, R.iterate_zero]

/--
Bits that are all found in one window of the register's width, and are not all
clear, do not leave the register zero, wherever the input ends after them.
-/
theorem feed_burst {bits : Nat -> Bool} {n start : Nat}
    (hset : exists i, bits i = true) (hend : forall i, bits i = true -> i < n)
    (hburst : forall i, bits i = true -> start <= i ∧ i < start + w) :
    R.feed bits n 0#w ≠ 0#w := by
  intro hzero
  rcases hset with ⟨j, hj⟩
  have hjn := hend j hj
  have hjstart := (hburst j hj).left
  have hjw := (hburst j hj).right
  have hclear : forall i, n <= i ∨ i < start ∨ start + w <= i ->
      bits i = false := by
    intro i hi
    cases hb : bits i with
    | false => rfl
    | true =>
        have h1 := hend i hb
        have h2 := hburst i hb
        omega
  -- the input is lengthened by clear bits, so that it covers the whole window
  have hlong : R.feed bits (n + w) 0#w = 0#w := by
    rw [R.feed_add, hzero, R.feed_clear _ (by intro i _; exact hclear _ (by omega)),
      R.iterate_zero]
  have hbefore : R.feed bits start 0#w = 0#w := by
    rw [R.feed_clear _ (by intro i hi; exact hclear _ (by omega)), R.iterate_zero]
  have hsplit : n + w = start + (w + (n - start)) := by omega
  rw [hsplit, R.feed_add, hbefore, R.feed_add,
    R.feed_clear (n := n - start) _ (by intro i _; exact hclear _ (by omega)),
    R.feed_word _ (Nat.le_refl w), BitVec.zero_xor] at hlong
  have hword := R.iterate_ne_zero w (R.iterate_ne_zero (n - start) hlong)
  have hbit : (wordOf w (fun i => bits (start + i)) w).getLsbD (j - start) = true := by
    have hplace : start + (j - start) = j := by omega
    have hin : j - start < w := by omega
    rw [getLsbD_wordOf, hplace, hj]
    simp [hin]
  rw [hword] at hbit
  simp at hbit

end ShiftRegister
end Library
end ArduOS
