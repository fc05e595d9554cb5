import ArduOS.StreamProtocol.Codec
import ArduOS.Library.Bits

/-!
# Reading back what was written

Byte by byte descriptions of the loops of the codec: the header word, the
payload copy and the checksum field, each written little-endian.
-/

namespace ArduOS

open Library

def bytesOf (buffer : Buffer) (n : Nat) : List Byte := (List.range n).map buffer

/-- The buffer whose first bytes are `bytes`. -/
def bufferOf (bytes : List Byte) : Buffer := fun i => bytes.getD i 0#8

@[simp] theorem length_bytesOf (buffer : Buffer) (n : Nat) :
    (bytesOf buffer n).length = n := by
  simp [bytesOf]

theorem getElem?_bytesOf (buffer : Buffer) {n i : Nat} (h : i < n) :
    (bytesOf buffer n)[i]? = some (buffer i) := by
  simp [bytesOf, h]

theorem bufferOf_bytesOf (buffer : Buffer) {n i : Nat} (h : i < n) :
    bufferOf (bytesOf buffer n) i = buffer i := by
  simp [bufferOf, bytesOf, List.getD, h]

theorem bytesOf_bufferOf (bytes : List Byte) :
    bytesOf (bufferOf bytes) bytes.length = bytes := by
  apply List.ext_getElem?
  intro i
  by_cases hi : i < bytes.length
  · rw [getElem?_bytesOf _ hi]
    simp [bufferOf, List.getD, hi]
  · rw [List.getElem?_eq_none (by simpa using hi),
      List.getElem?_eq_none (by simpa using hi)]

theorem bufferOf_append_left (bytes suffix : List Byte) {i : Nat}
    (h : i < bytes.length) : bufferOf (bytes ++ suffix) i = bufferOf bytes i := by
  simp [bufferOf, List.getD, List.getElem?_append_left h]

theorem bytesOf_congr {p q : Buffer} {n : Nat} (h : forall i, i < n -> p i = q i) :
    bytesOf p n = bytesOf q n := by
  apply List.map_congr_left
  intro i hi
  exact h i (List.mem_range.mp hi)

theorem eq_of_bytesOf_eq {p q : Buffer} {n i : Nat}
    (h : bytesOf p n = bytesOf q n) (hi : i < n) : p i = q i := by
  rw [← bufferOf_bytesOf p hi, h, bufferOf_bytesOf q hi]

/-!
## Header word
-/

theorem spHeaderValue_toNat (totalLen64 : BitVec 64) (fragFlag payloadType : Byte)
    (userField : BitVec 16) :
    (spHeaderValue totalLen64 fragFlag payloadType userField).toNat =
      1 + totalLen64.toNat % 2 ^ 45 * 2 ^ 4 + fragFlag.toNat % 2 * 2 ^ 49 +
        payloadType.toNat % 16 * 2 ^ 50 + userField.toNat % 1024 * 2 ^ 54 := by
  have hl : (totalLen64 &&& 0x1FFFFFFFFFFF#64).toNat = totalLen64.toNat % 2 ^ 45 :=
    toNat_and_mask totalLen64 45 (by decide)
  have hf : (fragFlag.setWidth 64 &&& 0x01#64).toNat = fragFlag.toNat % 2 := by
    rw [toNat_and_mask _ 1 (by decide), BitVec.toNat_setWidth]
    omega
  have hp : (payloadType.setWidth 64 &&& 0x0F#64).toNat = payloadType.toNat % 16 := by
    rw [toNat_and_mask _ 4 (by decide), BitVec.toNat_setWidth]
    omega
  have hu : (userField.setWidth 64 &&& 0x3FF#64).toNat = userField.toNat % 1024 := by
    rw [toNat_and_mask _ 10 (by decide), BitVec.toNat_setWidth]
    omega
  have h0 : (0#64 ||| (((1#8 : Byte).setWidth 64 &&& 0x0F#64) <<< 0)).toNat = 1 := by
    decide
  -- the fields are added from the low end, each above everything so far
  have h1 := toNat_or_shiftLeft
    (0#64 ||| (((1#8 : Byte).setWidth 64 &&& 0x0F#64) <<< 0))
    (totalLen64 &&& 0x1FFFFFFFFFFF#64) 4 (by omega) (by omega)
  rw [h0, hl] at h1
  have h2 := toNat_or_shiftLeft _ (fragFlag.setWidth 64 &&& 0x01#64) 49
    (by rw [h1]; omega) (by omega)
  rw [h1, hf] at h2
  have h3 := toNat_or_shiftLeft _ (payloadType.setWidth 64 &&& 0x0F#64) 50
    (by rw [h2]; omega) (by omega)
  rw [h2, hp] at h3
  have h4 := toNat_or_shiftLeft _ (userField.setWidth 64 &&& 0x3FF#64) 54
    (by rw [h3]; omega) (by omega)
  rw [h3, hu] at h4
  exact h4

theorem spPacketLength64_toNat (headerValue : BitVec 64) :
    (spPacketLength64 headerValue).toNat = headerValue.toNat / 2 ^ 4 % 2 ^ 45 := by
  unfold spPacketLength64
  rw [toNat_and_mask _ 45 (by decide), BitVec.toNat_ushiftRight,
    Nat.shiftRight_eq_div_pow]

theorem spReadHeader_eq_littleEndian (packet : Buffer) :
    spReadHeader packet = littleEndian 64 packet 8 := rfl

theorem spReadHeader_congr {p q : Buffer} (h : forall i, i < 8 -> p i = q i) :
    spReadHeader p = spReadHeader q :=
  littleEndian_congr rfl h

theorem spWriteHeader_apply (headerValue : BitVec 64) (out : Buffer) (j : Nat) :
    spWriteHeader headerValue out j =
      if j < 8 then (headerValue >>> (j * 8)).setWidth 8 else out j := by
  unfold spWriteHeader
  by_cases hj : j < 8
  · rw [if_pos hj, ← setWidth_and_byte_mask _ 0xFF#64 (by decide)]
    exact forLoop_update_self (fun i => i)
      (fun i => ((headerValue >>> (i * 8)) &&& 0xFF#64).setWidth 8)
      out hj (by intros; omega)
  · rw [if_neg hj]
    exact forLoop_update_of_ne (fun i => i)
      (fun i => ((headerValue >>> (i * 8)) &&& 0xFF#64).setWidth 8)
      out (by
        intro i hi
        have hi8 : i < 8 := hi
        omega)

/-!
## Payload
-/

theorem spWritePayload_apply (payload : Buffer) {payloadLength : BitVec 32}
    (out : Buffer) (hfit : payloadLength.toNat + 12 < 2 ^ 32) (j : Nat) :
    spWritePayload payload payloadLength out j =
      if 8 <= j ∧ j < 8 + payloadLength.toNat then payload (j - 8) else out j := by
  have hcell : forall i, i < payloadLength.toNat ->
      (SP_HEADER_SIZE + BitVec.ofNat 32 i).toNat = 8 + i := by
    intro i hi
    rw [BitVec.toNat_add, BitVec.toNat_ofNat, BitVec.toNat_ofNat]
    omega
  have hloop : spWritePayload payload payloadLength out =
      forLoop payloadLength.toNat (fun i out =>
        Function.update out (8 + i) (payload i)) out := by
    unfold spWritePayload
    apply forLoop_congr
    intro i out hi
    rw [hcell i hi]
  rw [hloop]
  by_cases hj : 8 <= j ∧ j < 8 + payloadLength.toNat
  · rw [if_pos hj]
    obtain ⟨i, rfl⟩ : exists i, j = 8 + i := ⟨j - 8, by omega⟩
    rw [Nat.add_sub_cancel_left]
    exact forLoop_update_self (fun i => 8 + i) payload out
      (by omega) (by intros; omega)
  · rw [if_neg hj]
    exact forLoop_update_of_ne (fun i => 8 + i) payload out
      (by intros; omega)

/-!
## Checksum field
-/

theorem spCrc32_congr {p q : Buffer} {length : BitVec 32}
    (h : forall i, i < length.toNat -> p i = q i) :
    spCrc32 p length = spCrc32 q length := by
  unfold spCrc32
  rw [forLoop_congr]
  intro i crc hi
  rw [h i hi]

/-- Byte `j` of the checksum field. -/
def spCrcByte (crc : BitVec 32) (j : Nat) : Byte := (crc >>> (j * 8)).setWidth 8

theorem toNat_add_ofNat {crcOffset : BitVec 32}
    (hfit : crcOffset.toNat + 4 < 2 ^ 32) {j : Nat} (hj : j < 4) :
    (crcOffset + BitVec.ofNat 32 j).toNat = crcOffset.toNat + j := by
  rw [BitVec.toNat_add, BitVec.toNat_ofNat]
  omega

theorem spWriteCrc_apply (crc : BitVec 32) {crcOffset : BitVec 32} (out : Buffer)
    (hfit : crcOffset.toNat + 4 < 2 ^ 32) (j : Nat) :
    spWriteCrc crc crcOffset out j =
      if crcOffset.toNat <= j ∧ j < crcOffset.toNat + 4 then
        spCrcByte crc (j - crcOffset.toNat)
      else out j := by
  unfold spWriteCrc
  simp only [toNat_add_ofNat hfit (show 0 < 4 by omega),
    toNat_add_ofNat hfit (show 1 < 4 by omega),
    toNat_add_ofNat hfit (show 2 < 4 by omega),
    toNat_add_ofNat hfit (show 3 < 4 by omega),
    setWidth_and_byte_mask _ 0xFF#32 (by decide)]
  by_cases hj : crcOffset.toNat <= j ∧ j < crcOffset.toNat + 4
  · rw [if_pos hj]
    obtain ⟨i, rfl⟩ : exists i, j = crcOffset.toNat + i :=
      ⟨j - crcOffset.toNat, by omega⟩
    have hi : i = 0 ∨ i = 1 ∨ i = 2 ∨ i = 3 := by omega
    rcases hi with rfl | rfl | rfl | rfl <;>
      simp [spCrcByte]
  · rw [if_neg hj]
    have h0 : j ≠ crcOffset.toNat + 0 := by omega
    have h1 : j ≠ crcOffset.toNat + 1 := by omega
    have h2 : j ≠ crcOffset.toNat + 2 := by omega
    have h3 : j ≠ crcOffset.toNat + 3 := by omega
    rw [Function.update_of_ne h3, Function.update_of_ne h2,
      Function.update_of_ne h1, Function.update_of_ne h0]

theorem spReadCrc_eq_littleEndian {packet : Buffer} {crcOffset : BitVec 32}
    (hfit : crcOffset.toNat + 4 < 2 ^ 32) :
    spReadCrc packet crcOffset =
      littleEndian 32 (fun j => packet (crcOffset.toNat + j)) 4 := by
  have hread : spReadCrc packet crcOffset =
      littleEndian 32 (fun j => packet (crcOffset + BitVec.ofNat 32 j).toNat) 4 := rfl
  rw [hread]
  apply littleEndian_congr rfl
  intro j hj
  rw [toNat_add_ofNat hfit hj]

theorem spReadCrc_eq {packet : Buffer} {crcOffset crc : BitVec 32}
    (hfit : crcOffset.toNat + 4 < 2 ^ 32)
    (h : forall j, j < 4 -> packet (crcOffset.toNat + j) = spCrcByte crc j) :
    spReadCrc packet crcOffset = crc := by
  rw [spReadCrc_eq_littleEndian hfit]
  exact littleEndian_eq rfl h

theorem spReadCrc_congr {p q : Buffer} {crcOffset : BitVec 32}
    (hfit : crcOffset.toNat + 4 < 2 ^ 32)
    (h : forall j, j < 4 -> p (crcOffset.toNat + j) = q (crcOffset.toNat + j)) :
    spReadCrc p crcOffset = spReadCrc q crcOffset := by
  rw [spReadCrc_eq_littleEndian hfit, spReadCrc_eq_littleEndian hfit]
  exact littleEndian_congr rfl h

end ArduOS
