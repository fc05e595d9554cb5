import ArduOS.StreamProtocol.EncoderImage
import ArduOS.Library.ShiftRegister

/-!
# Detection of burst errors

`sp_crc32` is a linear shift register that is fed the packet bit by bit, lowest
bit of each byte first, and the checksum field is its contents in the same
order.  An accepted packet that is hit by an error within 32 consecutive bits
is therefore refused, whatever its length and payload.
-/

namespace ArduOS

open Library

/-!
## The register
-/

theorem spCrc32Bit_eq (crc : BitVec 32) :
    spCrc32Bit crc =
      if crc.getLsbD 0 then (crc >>> 1) ^^^ 0xEDB88320#32 else crc >>> 1 := by
  unfold spCrc32Bit
  rw [BitVec.and_one_eq_setWidth_ofBool_getLsbD]
  cases crc.getLsbD 0 with
  | false => simp
  | true =>
      have hmask : 0#32 - (BitVec.ofBool true).setWidth 32 = BitVec.allOnes 32 := by
        decide
      simp only [hmask, BitVec.and_allOnes, if_true]

theorem spCrc32Bit_xor (a b : BitVec 32) :
    spCrc32Bit (a ^^^ b) = spCrc32Bit a ^^^ spCrc32Bit b := by
  have hcancel : forall p : BitVec 32, (a >>> 1) ^^^ (b >>> 1) =
      (a >>> 1 ^^^ p) ^^^ (b >>> 1 ^^^ p) := by
    intro p
    have hswap : (a >>> 1 ^^^ p) ^^^ (b >>> 1 ^^^ p) =
        ((a >>> 1) ^^^ (b >>> 1)) ^^^ (p ^^^ p) := by ac_rfl
    rw [hswap, BitVec.xor_self, BitVec.xor_zero]
  rw [spCrc32Bit_eq, spCrc32Bit_eq, spCrc32Bit_eq, BitVec.getLsbD_xor,
    BitVec.ushiftRight_xor_distrib]
  cases a.getLsbD 0 with
  | false =>
      cases b.getLsbD 0 with
      | false => rfl
      | true => exact BitVec.xor_assoc _ _ _
  | true =>
      cases b.getLsbD 0 with
      | false =>
          simp only [Bool.xor_false, if_true, Bool.false_eq_true, if_false]
          ac_rfl
      | true =>
          simp only [Bool.xor_self, if_true, Bool.false_eq_true, if_false]
          exact hcancel _

theorem spCrc32Bit_ne_zero (crc : BitVec 32) (h : spCrc32Bit crc = 0#32) :
    crc = 0#32 := by
  rw [spCrc32Bit_eq] at h
  have hbits := fun i => congrArg (fun r : BitVec 32 => r.getLsbD i) h
  cases hlow : crc.getLsbD 0 with
  | true =>
      have htop := hbits 31
      rw [hlow] at htop
      simp [BitVec.getLsbD_of_ge] at htop
  | false =>
      apply BitVec.eq_of_getLsbD_eq
      intro i hi
      rw [BitVec.getLsbD_zero]
      cases i with
      | zero => exact hlow
      | succ i =>
          have hbit := hbits i
          rw [hlow] at hbit
          simpa [Nat.add_comm] using hbit

def crcRegister : ShiftRegister 32 where
  step := spCrc32Bit
  step_xor := spCrc32Bit_xor
  step_even := by
    intro crc hlow
    rw [spCrc32Bit_eq, hlow]
    rfl
  step_ne_zero := spCrc32Bit_ne_zero

/-!
## The packet as a stream of bits
-/

/-- Bit `8 * byte + bit` of a packet, the lowest bit of a byte first. -/
def packetBit (packet : Buffer) (n : Nat) : Bool := (packet (n / 8)).getLsbD (n % 8)

theorem packetBit_byte (packet : Buffer) (i : Nat) {j : Nat} (hj : j < 8) :
    packetBit packet (8 * i + j) = (packet i).getLsbD j := by
  have hdiv : (8 * i + j) / 8 = i := by omega
  have hmod : (8 * i + j) % 8 = j := by omega
  unfold packetBit
  rw [hdiv, hmod]

theorem spCrc32Byte_eq_feed (packet : Buffer) (i : Nat) (crc : BitVec 32) :
    spCrc32Byte crc (packet i) =
      crcRegister.feed (fun j => packetBit packet (8 * i + j)) 8 crc := by
  have hword : wordOf 32 (fun j => packetBit packet (8 * i + j)) 8 =
      (packet i).setWidth 32 := by
    apply wordOf_eq
    · intro j hj
      have hin : j < 32 := by omega
      rw [packetBit_byte packet i hj, BitVec.getLsbD_setWidth]
      simp [hin]
    · intro j hj
      rw [BitVec.getLsbD_setWidth, BitVec.getLsbD_of_ge _ _ hj]
      simp
  rw [crcRegister.feed_word _ (by omega), hword]
  rfl

def crcAfter (packet : Buffer) (n : Nat) (crc : BitVec 32) : BitVec 32 :=
  crcRegister.feed (packetBit packet) (8 * n) crc

theorem spCrc32_eq_crcAfter (packet : Buffer) (length : BitVec 32) :
    spCrc32 packet length = ~~~ crcAfter packet length.toNat 0xFFFFFFFF#32 := by
  have hbytes : forall n, forLoop n (fun i crc => spCrc32Byte crc (packet i))
      0xFFFFFFFF#32 = crcAfter packet n 0xFFFFFFFF#32 := by
    intro n
    induction n with
    | zero => rfl
    | succ n ih =>
        unfold crcAfter at ih ⊢
        have hsplit : 8 * (n + 1) = 8 * n + 8 := by omega
        rw [forLoop_succ, ih, spCrc32Byte_eq_feed, hsplit, ShiftRegister.feed_add]
  unfold spCrc32
  rw [hbytes]

theorem spReadCrc_eq_wordOf {packet : Buffer} {crcOffset : BitVec 32}
    (hfit : crcOffset.toNat + 4 < 2 ^ 32) :
    spReadCrc packet crcOffset =
      wordOf 32 (fun i => packetBit packet (8 * crcOffset.toNat + i)) 32 := by
  have hbits : (fun i => (packet (crcOffset.toNat + i / 8)).getLsbD (i % 8)) =
      fun i => packetBit packet (8 * crcOffset.toNat + i) := by
    funext i
    have hdiv : (8 * crcOffset.toNat + i) / 8 = crcOffset.toNat + i / 8 := by omega
    have hmod : (8 * crcOffset.toNat + i) % 8 = i % 8 := by omega
    unfold packetBit
    rw [hdiv, hmod]
  rw [spReadCrc_eq_littleEndian hfit, littleEndian_eq_wordOf (n := 4) rfl, hbits]

/-!
## Errors
-/

/-- A packet with some of its bits flipped. -/
def flipped (packet error : Buffer) : Buffer := fun i => packet i ^^^ error i

theorem packetBit_flipped (packet error : Buffer) (n : Nat) :
    packetBit (flipped packet error) n = (packetBit packet n ^^ packetBit error n) :=
  BitVec.getLsbD_xor

theorem spCrc32_flipped (packet error : Buffer) (length : BitVec 32) :
    spCrc32 (flipped packet error) length =
      spCrc32 packet length ^^^ crcAfter error length.toNat 0#32 := by
  have hlinear : crcAfter (flipped packet error) length.toNat 0xFFFFFFFF#32 =
      crcAfter packet length.toNat 0xFFFFFFFF#32 ^^^
        crcAfter error length.toNat 0#32 := by
    unfold crcAfter
    rw [← ShiftRegister.feed_xor, BitVec.xor_zero,
      funext (packetBit_flipped packet error)]
  rw [spCrc32_eq_crcAfter, spCrc32_eq_crcAfter, hlinear, BitVec.not_xor_left]

theorem spReadCrc_flipped (packet error : Buffer) {crcOffset : BitVec 32}
    (hfit : crcOffset.toNat + 4 < 2 ^ 32) :
    spReadCrc (flipped packet error) crcOffset =
      spReadCrc packet crcOffset ^^^ spReadCrc error crcOffset := by
  rw [spReadCrc_eq_wordOf hfit, spReadCrc_eq_wordOf hfit, spReadCrc_eq_wordOf hfit]
  apply BitVec.eq_of_getLsbD_eq
  intro i hi
  rw [BitVec.getLsbD_xor, getLsbD_wordOf, getLsbD_wordOf, getLsbD_wordOf,
    packetBit_flipped]
  simp [hi]

/-- Only an error the register takes back to zero goes unnoticed. -/
theorem crcAfter_of_checksumMatches {packet error : Buffer} {length : Nat}
    (hmatch : ChecksumMatches packet length)
    (hflipped : ChecksumMatches (flipped packet error) length)
    (hlo : 4 <= length) (hhi : length < 2 ^ 32) :
    crcAfter error length 0#32 = 0#32 := by
  have hoff : (BitVec.ofNat 32 (length - 4)).toNat = length - 4 := by
    rw [BitVec.toNat_ofNat]
    omega
  unfold ChecksumMatches at hmatch hflipped
  rw [spCrc32_flipped, spReadCrc_flipped packet error (by omega), hmatch,
    BitVec.xor_right_inj, hoff, spReadCrc_eq_wordOf (by omega), hoff] at hflipped
  have hsplit : 8 * length = 8 * (length - 4) + 32 := by omega
  unfold crcAfter at hflipped ⊢
  rw [hsplit, ShiftRegister.feed_add]
  exact crcRegister.feed_self hflipped.symm

theorem declaredLength_flipped {packet error : Buffer}
    (h : forall n, 4 <= n -> n <= 48 -> packetBit error n = false) :
    declaredLength (flipped packet error) = declaredLength packet := by
  have hmask : forall i, (0x1FFFFFFFFFFF#64).getLsbD i = decide (i < 45) := by
    intro i
    have hones : 0x1FFFFFFFFFFF#64 = BitVec.ofNat 64 (2 ^ 45 - 1) := rfl
    rw [hones, BitVec.getLsbD_ofNat, Nat.testBit_two_pow_sub_one]
    by_cases hi : i < 45
    · have hin : i < 64 := by omega
      simp [hi, hin]
    · simp [hi]
  have hfield : spPacketLength64 (spReadHeader (flipped packet error)) =
      spPacketLength64 (spReadHeader packet) := by
    apply BitVec.eq_of_getLsbD_eq
    intro i hi
    unfold spPacketLength64
    rw [BitVec.getLsbD_and, BitVec.getLsbD_and, BitVec.getLsbD_ushiftRight,
      BitVec.getLsbD_ushiftRight, spReadHeader_eq_littleEndian,
      spReadHeader_eq_littleEndian, getLsbD_littleEndian (n := 8) rfl,
      getLsbD_littleEndian (n := 8) rfl, hmask]
    by_cases hlt : i < 45
    · have hbit : packetBit (flipped packet error) (4 + i) = packetBit packet (4 + i) := by
        rw [packetBit_flipped, h (4 + i) (by omega) (by omega), Bool.xor_false]
      unfold packetBit at hbit
      rw [hbit]
    · simp [hlt]
  unfold declaredLength
  rw [hfield]

/--
An accepted packet with a burst of at most 32 bits flipped, none of them in the
length field, fails the checksum.
-/
theorem spParsePacket_burst (packet error : Buffer) (packetLen : BitVec 32)
    (outPacket parsed : SpParsedPacket) (start : Nat)
    (haccepted : spParsePacket (some packet) packetLen (some outPacket) =
      (.ok, some parsed))
    (hset : exists n, packetBit error n = true)
    (hinside : forall n, packetBit error n = true ->
      n < 8 * parsed.packetLength.toNat)
    (hburst : forall n, packetBit error n = true -> start <= n ∧ n < start + 32)
    (hlength : forall n, 4 <= n -> n <= 48 -> packetBit error n = false) :
    spParsePacket (some (flipped packet error)) packetLen (some outPacket) =
      (.errCrcMismatch, some outPacket) := by
  rcases spParsePacket_accepts haccepted with ⟨hlo, hhi, hmatch, rfl⟩
  have hlen32 := packetLen.isLt
  have hsame : declaredLength (flipped packet error) = declaredLength packet :=
    declaredLength_flipped hlength
  have hinside' : forall n, packetBit error n = true ->
      n < 8 * declaredLength packet := hinside
  rw [spParsePacket_complete outPacket (by omega) (by omega), hsame, if_neg]
  intro hflipped
  have hzero := crcAfter_of_checksumMatches hmatch hflipped (by omega) (by omega)
  exact crcRegister.feed_burst hset hinside' hburst hzero

def twoBits : Buffer := bufferOf (List.replicate 11 0#8 ++ [0x80#8, 0x01#8])

theorem packetBit_twoBits {n : Nat} (h : packetBit twoBits n = true) :
    n = 95 ∨ n = 96 := by
  by_cases hn : n < 104
  · revert h
    revert n
    decide
  · have hzero : twoBits (n / 8) = 0#8 := by
      unfold twoBits bufferOf
      rw [List.getD_eq_default]
      simp only [List.length_append, List.length_replicate, List.length_cons,
        List.length_nil]
      omega
    unfold packetBit at h
    rw [hzero] at h
    simp at h

theorem twoBits_detected :
    spParsePacket (some (flipped listingRequest twoBits)) 16#32 (some default) =
      (.errCrcMismatch, some default) := by
  have hlength : (parsedPacket listingRequest).packetLength.toNat = 16 :=
    listingRequest_reports.length
  apply spParsePacket_burst listingRequest twoBits 16#32 default _ 95
    listingRequest_accepted ⟨95, by decide⟩
  · intro n hn
    rw [hlength]
    rcases packetBit_twoBits hn with rfl | rfl <;> decide
  · intro n hn
    rcases packetBit_twoBits hn with rfl | rfl <;> decide
  · intro n hlo hhi
    cases hn : packetBit twoBits n with
    | false => rfl
    | true =>
        have hbits := packetBit_twoBits hn
        omega

end ArduOS
