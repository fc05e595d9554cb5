import ArduOS.Library.Loops
import Mathlib.Data.BitVec
import Mathlib.Data.Nat.Bitwise

/-!
# Words and their bytes

Masks are remainders and disjoint shifted fields add up, so that a packed word
can be taken apart by division and remainder; and a word read from its bytes,
lowest first, is the word they were cut from.
-/

namespace ArduOS
namespace Library

theorem toNat_and_mask {w : Nat} (x : BitVec w) (n : Nat) {m : BitVec w}
    (hm : m.toNat = 2 ^ n - 1) : (x &&& m).toNat = x.toNat % 2 ^ n := by
  rw [BitVec.toNat_and, hm, Nat.and_two_pow_sub_one_eq_mod]

theorem toNat_or_shiftLeft {w : Nat} (low high : BitVec w) (n : Nat)
    (hlow : low.toNat < 2 ^ n) (hhigh : high.toNat * 2 ^ n < 2 ^ w) :
    (low ||| (high <<< n)).toNat = low.toNat + high.toNat * 2 ^ n := by
  rw [BitVec.toNat_or, BitVec.toNat_shiftLeft, Nat.shiftLeft_eq,
    Nat.mod_eq_of_lt hhigh, Nat.lor_comm, ← Nat.shiftLeft_eq,
    ← Nat.shiftLeft_add_eq_or_of_lt hlow, Nat.add_comm]

theorem setWidth_and_byte_mask {w : Nat} (x m : BitVec w)
    (hm : m.toNat = 2 ^ 8 - 1) : (x &&& m).setWidth 8 = x.setWidth 8 := by
  apply BitVec.eq_of_toNat_eq
  rw [BitVec.toNat_setWidth, toNat_and_mask x 8 hm, BitVec.toNat_setWidth,
    Nat.mod_mod]

/-!
## Little-endian words
-/

def littleEndian (w : Nat) (bytes : Nat -> BitVec 8) (n : Nat) : BitVec w :=
  forLoop n (fun i word => word ||| ((bytes i).setWidth w <<< (i * 8))) 0#w

theorem getLsbD_littleEndian {w n : Nat} (hw : w = 8 * n)
    (bytes : Nat -> BitVec 8) (i : Nat) :
    (littleEndian w bytes n).getLsbD i =
      (decide (i < w) && (bytes (i / 8)).getLsbD (i % 8)) := by
  let inv : Nat -> BitVec w -> Prop := fun m word =>
    forall i, word.getLsbD i =
      (decide (i < 8 * m ∧ i < w) && (bytes (i / 8)).getLsbD (i % 8))
  have h : inv n (littleEndian w bytes n) := by
    apply forLoop_invariant inv
    · intro i
      simp
    · intro m word hm hinv i
      rw [BitVec.getLsbD_or, hinv i, BitVec.getLsbD_shiftLeft,
        BitVec.getLsbD_setWidth]
      by_cases hold : i < 8 * m
      · have hlt : i < m * 8 := by omega
        have hnew : i < 8 * (m + 1) := by omega
        simp [hold, hlt, hnew]
      · have hge : ¬ i < m * 8 := by omega
        by_cases hnew : i < 8 * (m + 1)
        · -- the bits of the byte added by this turn
          have hdiv : i / 8 = m := by omega
          have hmod : i % 8 = i - m * 8 := by omega
          have hiw : i < w := by omega
          have hsub : i - m * 8 < w := by omega
          simp [hdiv, hmod, hold, hnew, hge, hiw, hsub]
        · have hout : (bytes m).getLsbD (i - m * 8) = false :=
            BitVec.getLsbD_of_ge _ _ (by omega)
          simp [hold, hnew, hout]
  rw [h i]
  by_cases hi : i < w
  · have hin : i < 8 * n := by omega
    simp [hi, hin]
  · simp [hi]

theorem littleEndian_congr {w n : Nat} (hw : w = 8 * n)
    {bytes bytes' : Nat -> BitVec 8} (h : forall i, i < n -> bytes i = bytes' i) :
    littleEndian w bytes n = littleEndian w bytes' n := by
  apply BitVec.eq_of_getLsbD_eq
  intro i hi
  rw [getLsbD_littleEndian hw, getLsbD_littleEndian hw, h (i / 8) (by omega)]

theorem littleEndian_eq {w n : Nat} (hw : w = 8 * n) {bytes : Nat -> BitVec 8}
    {word : BitVec w}
    (h : forall i, i < n -> bytes i = (word >>> (i * 8)).setWidth 8) :
    littleEndian w bytes n = word := by
  apply BitVec.eq_of_getLsbD_eq
  intro i hi
  have hbit : i % 8 < 8 := by omega
  have hsplit : i / 8 * 8 + i % 8 = i := by omega
  rw [getLsbD_littleEndian hw, h (i / 8) (by omega), BitVec.getLsbD_setWidth,
    BitVec.getLsbD_ushiftRight, hsplit]
  simp [hi, hbit]

theorem setWidth_littleEndian_shiftRight {w n i : Nat} (hw : w = 8 * n) (hi : i < n)
    (bytes : Nat -> BitVec 8) :
    (littleEndian w bytes n >>> (i * 8)).setWidth 8 = bytes i := by
  apply BitVec.eq_of_getLsbD_eq
  intro j hj
  have hbit : i * 8 + j < w := by omega
  have hdiv : (i * 8 + j) / 8 = i := by omega
  have hmod : (i * 8 + j) % 8 = j := by omega
  rw [BitVec.getLsbD_setWidth, BitVec.getLsbD_ushiftRight, getLsbD_littleEndian hw,
    hdiv, hmod]
  simp [hj, hbit]

end Library
end ArduOS
