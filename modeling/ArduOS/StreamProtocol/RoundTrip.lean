import ArduOS.StreamProtocol.Fields

/-!
# Decoding undoes encoding

The encoder's output as a function of its arguments, the parser's verdict as a
function of the declared length and the checksum, and the round trip that
follows from the two.
-/

namespace ArduOS

open Library

/-!
## The parser's verdict
-/

def declaredLength (packet : Buffer) : Nat :=
  (spPacketLength64 (spReadHeader packet)).toNat

theorem declaredLength_congr {p q : Buffer} (h : forall i, i < 8 -> p i = q i) :
    declaredLength p = declaredLength q := by
  unfold declaredLength
  rw [spReadHeader_congr h]

theorem declaredLength_of_starts {p bytes : List Byte} (hp : p <+: bytes)
    (hlen : 8 <= p.length) :
    declaredLength (bufferOf p) = declaredLength (bufferOf bytes) := by
  apply declaredLength_congr
  intro i hi
  rcases hp with ⟨rest, hrest⟩
  rw [← hrest, bufferOf_append_left p rest (by omega)]

def ChecksumMatches (packet : Buffer) (length : Nat) : Prop :=
  spCrc32 packet (BitVec.ofNat 32 (length - 4)) =
    spReadCrc packet (BitVec.ofNat 32 (length - 4))

instance (packet : Buffer) (length : Nat) :
    Decidable (ChecksumMatches packet length) :=
  inferInstanceAs (Decidable (_ = _))

theorem checksumMatches_congr {p q : Buffer} {length : Nat}
    (hlo : 4 <= length) (hhi : length < 2 ^ 32)
    (h : forall i, i < length -> p i = q i) :
    ChecksumMatches p length <-> ChecksumMatches q length := by
  have hoff : (BitVec.ofNat 32 (length - 4)).toNat = length - 4 := by
    rw [BitVec.toNat_ofNat]
    omega
  have hcrc : spCrc32 p (BitVec.ofNat 32 (length - 4)) =
      spCrc32 q (BitVec.ofNat 32 (length - 4)) := by
    apply spCrc32_congr
    intro i hi
    exact h i (by omega)
  have hread : spReadCrc p (BitVec.ofNat 32 (length - 4)) =
      spReadCrc q (BitVec.ofNat 32 (length - 4)) := by
    apply spReadCrc_congr (by omega)
    intro j hj
    exact h _ (by omega)
  unfold ChecksumMatches
  rw [hcrc, hread]

/-- What the parser reports about an accepted packet. -/
def parsedPacket (packet : Buffer) : SpParsedPacket :=
  let headerValue := spReadHeader packet
  { protocolVersion := ((headerValue >>> 0) &&& 0x0F#64).setWidth 8
    packetLength := spPacketLength64 headerValue
    fragmentFlag := ((headerValue >>> 49) &&& 0x01#64).setWidth 8
    payloadType := ((headerValue >>> 50) &&& 0x0F#64).setWidth 8
    userField := ((headerValue >>> 54) &&& 0x3FF#64).setWidth 16
    payload := fun i => packet (8 + i)
    payloadLength := BitVec.ofNat 32 (declaredLength packet - 12) }

theorem spParsePacket_incomplete {packet : Buffer} {packetLen : BitVec 32}
    (outPacket : SpParsedPacket)
    (h : packetLen.toNat < 12 ∨ declaredLength packet < 12 ∨
      packetLen.toNat < declaredLength packet) :
    spParsePacket (some packet) packetLen (some outPacket) =
      (.errBufferTooSmall, some outPacket) := by
  unfold declaredLength at h
  unfold spParsePacket
  simp only [BitVec.lt_def, BitVec.toNat_setWidth]
  split
  · rfl
  · split
    · rfl
    · split
      · rfl
      · have h12 : (SP_HEADER_SIZE + 4#32).toNat = 12 := rfl
        omega

theorem spParsePacket_complete {packet : Buffer} {packetLen : BitVec 32}
    (outPacket : SpParsedPacket) (hlo : 12 <= declaredLength packet)
    (hhi : declaredLength packet <= packetLen.toNat) :
    spParsePacket (some packet) packetLen (some outPacket) =
      if ChecksumMatches packet (declaredLength packet) then
        (.ok, some (parsedPacket packet))
      else (.errCrcMismatch, some outPacket) := by
  have hlen := packetLen.isLt
  have h12 : (SP_HEADER_SIZE + 4#32).toNat = 12 := rfl
  have hnarrow : (spPacketLength64 (spReadHeader packet)).setWidth 32 =
      BitVec.ofNat 32 (declaredLength packet) := by
    apply BitVec.eq_of_toNat_eq
    rw [BitVec.toNat_setWidth, BitVec.toNat_ofNat]
    rfl
  have hoffset : BitVec.ofNat 32 (declaredLength packet) - 4#32 =
      BitVec.ofNat 32 (declaredLength packet - 4) := by
    apply BitVec.eq_of_toNat_eq
    rw [BitVec.toNat_sub, BitVec.toNat_ofNat, BitVec.toNat_ofNat,
      BitVec.toNat_ofNat]
    omega
  have hpayload : BitVec.ofNat 32 (declaredLength packet) - SP_HEADER_SIZE - 4#32 =
      BitVec.ofNat 32 (declaredLength packet - 12) := by
    apply BitVec.eq_of_toNat_eq
    rw [BitVec.toNat_sub, BitVec.toNat_sub, BitVec.toNat_ofNat,
      BitVec.toNat_ofNat, BitVec.toNat_ofNat, BitVec.toNat_ofNat]
    omega
  have hnotShort : ¬ packetLen < SP_HEADER_SIZE + 4#32 := by
    rw [BitVec.lt_def]
    omega
  have hnotTiny : ¬ spPacketLength64 (spReadHeader packet) <
      (SP_HEADER_SIZE + 4#32).setWidth 64 := by
    rw [BitVec.lt_def, BitVec.toNat_setWidth, h12]
    unfold declaredLength at hlo
    omega
  have hnotMissing : ¬ packetLen.setWidth 64 <
      spPacketLength64 (spReadHeader packet) := by
    rw [BitVec.lt_def, BitVec.toNat_setWidth]
    unfold declaredLength at hhi
    omega
  unfold spParsePacket
  simp only [if_neg hnotShort, if_neg hnotTiny, if_neg hnotMissing, hnarrow,
    hoffset, hpayload]
  by_cases hmatch : ChecksumMatches packet (declaredLength packet)
  · have hcrc : ¬ spCrc32 packet (BitVec.ofNat 32 (declaredLength packet - 4)) ≠
        spReadCrc packet (BitVec.ofNat 32 (declaredLength packet - 4)) :=
      not_not_intro hmatch
    rw [if_neg hcrc, if_pos hmatch]
    rfl
  · have hcrc : spCrc32 packet (BitVec.ofNat 32 (declaredLength packet - 4)) ≠
        spReadCrc packet (BitVec.ofNat 32 (declaredLength packet - 4)) := hmatch
    rw [if_pos hcrc, if_neg hmatch]

/-!
## The encoder's output
-/

/-- The pointer argument `ptr` denotes the bytes `payload`. -/
def PointsTo (ptr : Option Buffer) (payload : List Byte) : Prop :=
  match ptr with
  | some buffer => bytesOf buffer payload.length = payload
  | none => payload = []

structure EncoderArguments (fragFlag payloadType : Byte) (userField : BitVec 16) :
    Prop where
  frag : fragFlag.toNat <= 1
  type : payloadType.toNat <= 15
  user : userField.toNat <= 1023

def packetHeader (fragFlag payloadType : Byte) (userField : BitVec 16)
    (payload : List Byte) : BitVec 64 :=
  spHeaderValue (BitVec.ofNat 64 (payload.length + 12)) fragFlag payloadType userField

def packetBody (fragFlag payloadType : Byte) (userField : BitVec 16)
    (payload : List Byte) (out : Buffer) : Buffer := fun j =>
  if j < 8 then
    ((packetHeader fragFlag payloadType userField payload) >>> (j * 8)).setWidth 8
  else if j < 8 + payload.length then bufferOf payload (j - 8)
  else out j

def packetCrc (fragFlag payloadType : Byte) (userField : BitVec 16)
    (payload : List Byte) : BitVec 32 :=
  spCrc32 (packetBody fragFlag payloadType userField payload fun _ => 0#8)
    (BitVec.ofNat 32 (8 + payload.length))

def packetImage (fragFlag payloadType : Byte) (userField : BitVec 16)
    (payload : List Byte) (out : Buffer) : Buffer := fun j =>
  if 8 + payload.length <= j ∧ j < 12 + payload.length then
    spCrcByte (packetCrc fragFlag payloadType userField payload)
      (j - (8 + payload.length))
  else packetBody fragFlag payloadType userField payload out j

def packetBytes (fragFlag payloadType : Byte) (userField : BitVec 16)
    (payload : List Byte) : List Byte :=
  bytesOf (packetImage fragFlag payloadType userField payload fun _ => 0#8)
    (payload.length + 12)

theorem arguments_of_ok {ptr : Option Buffer} {payloadLength : BitVec 32}
    {fragFlag payloadType : Byte} {userField : BitVec 16} {out : Buffer}
    {outBufferCap outLength : BitVec 32}
    (h : (spEncodePacketBuffer ptr payloadLength fragFlag payloadType userField
      (some out) outBufferCap (some outLength)).result = .ok) :
    EncoderArguments fragFlag payloadType userField ∧
      payloadLength.toNat + 12 <= outBufferCap.toNat := by
  have hlen := payloadLength.isLt
  have hcap := outBufferCap.isLt
  unfold spEncodePacketBuffer at h
  simp only at h
  split at h
  · cases h
  · split at h
    · cases h
    · rename_i hfrag
      split at h
      · cases h
      · rename_i htype
        split at h
        · cases h
        · rename_i huser
          split at h
          · cases h
          · rename_i hroom
            rw [gt_iff_lt, BitVec.lt_def, BitVec.toNat_setWidth, BitVec.toNat_add,
              BitVec.toNat_add, BitVec.toNat_setWidth, BitVec.toNat_setWidth,
              BitVec.toNat_ofNat, BitVec.toNat_ofNat] at hroom
            rw [gt_iff_lt, BitVec.lt_def, BitVec.toNat_ofNat] at htype huser
            refine ⟨⟨?_, by omega, by omega⟩, by omega⟩
            by_cases hone : fragFlag = SP_FRAGED
            · simp [hone]
            · by_cases hzero : fragFlag = SP_UNFRAGED
              · simp [hzero]
              · exact absurd ⟨hone, hzero⟩ hfrag

section Encoding

variable {fragFlag payloadType : Byte} {userField : BitVec 16}
  {payload : List Byte}

@[simp] theorem length_packetBytes :
    (packetBytes fragFlag payloadType userField payload).length =
      payload.length + 12 := by
  simp [packetBytes]

theorem packetImage_eq (out : Buffer) {j : Nat} (h : j < payload.length + 12) :
    packetImage fragFlag payloadType userField payload out j =
      bufferOf (packetBytes fragFlag payloadType userField payload) j := by
  unfold packetBytes
  rw [bufferOf_bytesOf _ h]
  unfold packetImage
  by_cases hcrc : 8 + payload.length <= j ∧ j < 12 + payload.length
  · rw [if_pos hcrc, if_pos hcrc]
  · rw [if_neg hcrc, if_neg hcrc]
    unfold packetBody
    have hlt : j < 8 + payload.length := by omega
    simp [hlt]

theorem pointsTo_apply {ptr : Option Buffer} (h : PointsTo ptr payload) {j : Nat}
    (hj : j < payload.length) : exists buffer, ptr = some buffer ∧
      buffer j = bufferOf payload j := by
  cases ptr with
  | none =>
      have hnil : payload = [] := h
      simp [hnil] at hj
  | some buffer =>
      have hbytes : bytesOf buffer payload.length = payload := h
      refine ⟨buffer, rfl, ?_⟩
      rw [← bytesOf_bufferOf payload] at hbytes
      simp only [length_bytesOf] at hbytes
      exact eq_of_bytesOf_eq hbytes hj

theorem packetBody_eq {ptr : Option Buffer} (hptr : PointsTo ptr payload)
    (hfit : payload.length + 12 < 2 ^ 32) (out : Buffer) :
    spCopyPayload ptr (BitVec.ofNat 32 payload.length)
        (spWriteHeader (packetHeader fragFlag payloadType userField payload) out) =
      packetBody fragFlag payloadType userField payload out := by
  have hlen : (BitVec.ofNat 32 payload.length).toNat = payload.length := by
    rw [BitVec.toNat_ofNat]
    omega
  funext j
  unfold packetBody
  cases ptr with
  | none =>
      have hnil : payload = [] := hptr
      have hzero : payload.length = 0 := by simp [hnil]
      simp only [spCopyPayload, spWriteHeader_apply]
      by_cases hj : j < 8
      · rw [if_pos hj, if_pos hj]
      · have hj8 : ¬ j < 8 + payload.length := by omega
        rw [if_neg hj, if_neg hj, if_neg hj8]
  | some buffer =>
      by_cases hzero : payload.length = 0
      · have hskip : ¬ BitVec.ofNat 32 payload.length > 0#32 := by
          simp [hzero]
        simp only [spCopyPayload, if_neg hskip, spWriteHeader_apply]
        by_cases hj : j < 8
        · rw [if_pos hj, if_pos hj]
        · have hj8 : ¬ j < 8 + payload.length := by omega
          rw [if_neg hj, if_neg hj, if_neg hj8]
      · have hcopy : BitVec.ofNat 32 payload.length > 0#32 := by
          rw [gt_iff_lt, BitVec.lt_def, hlen]
          simp only [BitVec.toNat_ofNat]
          omega
        simp only [spCopyPayload, if_pos hcopy]
        rw [spWritePayload_apply buffer _ (by omega), spWriteHeader_apply, hlen]
        by_cases hj : j < 8
        · have hnot : ¬ (8 <= j ∧ j < 8 + payload.length) := by omega
          rw [if_neg hnot, if_pos hj, if_pos hj]
        · by_cases hj8 : j < 8 + payload.length
          · rw [if_pos ⟨by omega, hj8⟩, if_neg hj, if_pos hj8]
            have hidx : j - 8 < payload.length := by omega
            rcases pointsTo_apply hptr hidx with ⟨buffer', hbuffer, hbyte⟩
            cases hbuffer
            exact hbyte
          · have hnot : ¬ (8 <= j ∧ j < 8 + payload.length) := by omega
            rw [if_neg hnot, if_neg hj, if_neg hj, if_neg hj8]

theorem spEncodePacketBuffer_ok {ptr : Option Buffer} {outBufferCap : BitVec 32}
    (hargs : EncoderArguments fragFlag payloadType userField)
    (hptr : PointsTo ptr payload)
    (hcap : payload.length + 12 <= outBufferCap.toNat)
    (out : Buffer) (outLength : BitVec 32) :
    spEncodePacketBuffer ptr (BitVec.ofNat 32 payload.length) fragFlag payloadType
        userField (some out) outBufferCap (some outLength) =
      { result := .ok
        outBuffer := some (packetImage fragFlag payloadType userField payload out)
        outLength := some (BitVec.ofNat 32 (payload.length + 12)) } := by
  have hcap32 := outBufferCap.isLt
  have hlen : (BitVec.ofNat 32 payload.length).toNat = payload.length := by
    rw [BitVec.toNat_ofNat]
    omega
  have htotal : SP_HEADER_SIZE.setWidth 64 +
      (BitVec.ofNat 32 payload.length).setWidth 64 + 4#64 =
        BitVec.ofNat 64 (payload.length + 12) := by
    apply BitVec.eq_of_toNat_eq
    rw [BitVec.toNat_add, BitVec.toNat_add, BitVec.toNat_setWidth,
      BitVec.toNat_setWidth, hlen, BitVec.toNat_ofNat, BitVec.toNat_ofNat,
      BitVec.toNat_ofNat]
    omega
  have htotalNat : (BitVec.ofNat 64 (payload.length + 12)).toNat =
      payload.length + 12 := by
    rw [BitVec.toNat_ofNat]
    omega
  have hnull : ¬ (ptr.isNone = true ∧ BitVec.ofNat 32 payload.length > 0#32) := by
    rintro ⟨hnone, hpos⟩
    rw [Option.isNone_iff_eq_none] at hnone
    subst hnone
    have hnil : payload = [] := hptr
    simp [hnil] at hpos
  have hfrag : ¬ (fragFlag ≠ SP_FRAGED ∧ fragFlag ≠ SP_UNFRAGED) := by
    have hle := hargs.frag
    rintro ⟨hone, hzero⟩
    have hone' : fragFlag.toNat ≠ 1 := fun h => hone (BitVec.eq_of_toNat_eq h)
    have hzero' : fragFlag.toNat ≠ 0 := fun h => hzero (BitVec.eq_of_toNat_eq h)
    omega
  have htype : ¬ payloadType > 0x0F#8 := by
    have hle := hargs.type
    rw [gt_iff_lt, BitVec.lt_def, BitVec.toNat_ofNat]
    omega
  have huser : ¬ userField > 0x3FF#16 := by
    have hle := hargs.user
    rw [gt_iff_lt, BitVec.lt_def, BitVec.toNat_ofNat]
    omega
  have hroom : ¬ BitVec.ofNat 64 (payload.length + 12) >
      outBufferCap.setWidth 64 := by
    rw [gt_iff_lt, BitVec.lt_def, htotalNat, BitVec.toNat_setWidth]
    omega
  have hlimit : ¬ BitVec.ofNat 64 (payload.length + 12) >
      SP_MAX_HEADER_LENGTH_VALUE := by
    rw [gt_iff_lt, BitVec.lt_def, htotalNat, BitVec.toNat_ofNat]
    omega
  have hnarrow : (BitVec.ofNat 64 (payload.length + 12)).setWidth 32 =
      BitVec.ofNat 32 (payload.length + 12) := by
    apply BitVec.eq_of_toNat_eq
    rw [BitVec.toNat_setWidth, htotalNat, BitVec.toNat_ofNat]
  have hcrcLength : SP_HEADER_SIZE + BitVec.ofNat 32 payload.length =
      BitVec.ofNat 32 (8 + payload.length) := by
    apply BitVec.eq_of_toNat_eq
    rw [BitVec.toNat_add, hlen, BitVec.toNat_ofNat, BitVec.toNat_ofNat]
  have hoffset : BitVec.ofNat 32 (payload.length + 12) - 4#32 =
      BitVec.ofNat 32 (8 + payload.length) := by
    apply BitVec.eq_of_toNat_eq
    rw [BitVec.toNat_sub, BitVec.toNat_ofNat, BitVec.toNat_ofNat,
      BitVec.toNat_ofNat]
    omega
  have hoffsetNat : (BitVec.ofNat 32 (8 + payload.length)).toNat =
      8 + payload.length := by
    rw [BitVec.toNat_ofNat]
    omega
  have hcrc : spCrc32 (packetBody fragFlag payloadType userField payload out)
      (BitVec.ofNat 32 (8 + payload.length)) =
        packetCrc fragFlag payloadType userField payload := by
    apply spCrc32_congr
    intro i hi
    have hlt : i < 8 + payload.length := by omega
    simp [packetBody, hlt]
  have himage : spWriteCrc (packetCrc fragFlag payloadType userField payload)
      (BitVec.ofNat 32 (8 + payload.length))
      (packetBody fragFlag payloadType userField payload out) =
        packetImage fragFlag payloadType userField payload out := by
    funext j
    rw [spWriteCrc_apply _ _ (by omega), hoffsetNat]
    unfold packetImage
    have hend : 8 + payload.length + 4 = 12 + payload.length := by omega
    rw [hend]
  have hbody := @packetBody_eq fragFlag payloadType userField payload ptr hptr
    (by omega) out
  unfold packetHeader at hbody
  unfold spEncodePacketBuffer
  simp only [if_neg hnull, if_neg hfrag, if_neg htype, if_neg huser, htotal,
    if_neg hroom, if_neg hlimit, hnarrow, hcrcLength, hoffset]
  rw [hbody, hcrc, himage]

/-!
## Reading a packet back
-/

def StartsWith (packet : Buffer) (bytes : List Byte) : Prop :=
  forall i, i < bytes.length -> packet i = bufferOf bytes i

theorem startsWith_append (bytes suffix : List Byte) :
    StartsWith (bufferOf (bytes ++ suffix)) bytes :=
  fun _ hi => bufferOf_append_left bytes suffix hi

variable {packet : Buffer}

theorem spReadHeader_packet {n : Nat} (hn : 8 <= n)
    (h : forall i, i < n ->
      packet i = bufferOf (packetBytes fragFlag payloadType userField payload) i) :
    spReadHeader packet = packetHeader fragFlag payloadType userField payload := by
  rw [spReadHeader_eq_littleEndian]
  apply littleEndian_eq rfl
  intro i hi
  rw [h i (by omega), ← packetImage_eq (fun _ => 0#8) (by omega)]
  have hnot : ¬ (8 + payload.length <= i ∧ i < 12 + payload.length) := by omega
  simp [packetImage, packetBody, hnot, hi]

variable (hargs : EncoderArguments fragFlag payloadType userField)
  (hfit : payload.length + 12 < 2 ^ 32)

include hargs hfit

theorem packetHeader_toNat :
    (packetHeader fragFlag payloadType userField payload).toNat =
      1 + (payload.length + 12) * 2 ^ 4 + fragFlag.toNat * 2 ^ 49 +
        payloadType.toNat * 2 ^ 50 + userField.toNat * 2 ^ 54 := by
  have h1 := hargs.frag
  have h2 := hargs.type
  have h3 := hargs.user
  unfold packetHeader
  rw [spHeaderValue_toNat, BitVec.toNat_ofNat]
  omega

/-- The header alone fixes the declared length, whatever follows it. -/
theorem declaredLength_packet {n : Nat} (hn : 8 <= n)
    (h : forall i, i < n ->
      packet i = bufferOf (packetBytes fragFlag payloadType userField payload) i) :
    declaredLength packet = payload.length + 12 := by
  have h1 := hargs.frag
  have h2 := hargs.type
  have h3 := hargs.user
  unfold declaredLength
  rw [spPacketLength64_toNat, spReadHeader_packet hn h,
    packetHeader_toNat hargs hfit]
  omega

omit hargs in
theorem checksumMatches_packet
    (h : StartsWith packet (packetBytes fragFlag payloadType userField payload)) :
    ChecksumMatches packet (payload.length + 12) := by
  have hsub : payload.length + 12 - 4 = 8 + payload.length := by omega
  have hoff : (BitVec.ofNat 32 (8 + payload.length)).toNat =
      8 + payload.length := by
    rw [BitVec.toNat_ofNat]
    omega
  have hbyte : forall i, i < payload.length + 12 -> packet i =
      packetImage fragFlag payloadType userField payload (fun _ => 0#8) i := by
    intro i hi
    rw [h i (by simpa using hi), packetImage_eq _ hi]
  unfold ChecksumMatches
  rw [hsub]
  have hcrc : spCrc32 packet (BitVec.ofNat 32 (8 + payload.length)) =
      packetCrc fragFlag payloadType userField payload := by
    apply spCrc32_congr
    intro i hi
    have hnot : ¬ (8 + payload.length <= i ∧ i < 12 + payload.length) := by omega
    rw [hbyte i (by omega)]
    simp [packetImage, hnot]
  rw [hcrc]
  symm
  apply spReadCrc_eq (by omega)
  intro j hj
  have hin : 8 + payload.length <= 8 + payload.length + j ∧
      8 + payload.length + j < 12 + payload.length := by omega
  rw [hoff, hbyte _ (by omega)]
  unfold packetImage
  rw [if_pos hin, Nat.add_sub_cancel_left]

structure ReportsPacket (parsed : SpParsedPacket) (fragFlag payloadType : Byte)
    (userField : BitVec 16) (payload : List Byte) : Prop where
  version : parsed.protocolVersion = 1#8
  length : parsed.packetLength.toNat = payload.length + 12
  frag : parsed.fragmentFlag = fragFlag
  type : parsed.payloadType = payloadType
  user : parsed.userField = userField
  payloadLength : parsed.payloadLength.toNat = payload.length
  bytes : bytesOf parsed.payload payload.length = payload

theorem parsedPacket_reports
    (h : StartsWith packet (packetBytes fragFlag payloadType userField payload)) :
    ReportsPacket (parsedPacket packet) fragFlag payloadType userField payload := by
  have h1 := hargs.frag
  have h2 := hargs.type
  have h3 := hargs.user
  have hstart : forall i, i < payload.length + 12 -> packet i =
      bufferOf (packetBytes fragFlag payloadType userField payload) i := by
    intro i hi
    exact h i (by simpa using hi)
  have hheader := spReadHeader_packet (by omega) hstart
  have hvalue := packetHeader_toNat hargs hfit
  have hlength := declaredLength_packet hargs hfit (by omega) hstart
  have hfield : forall (w k n : Nat) (m : BitVec 64), m.toNat = 2 ^ n - 1 ->
      ((((packetHeader fragFlag payloadType userField payload) >>> k) &&& m).setWidth
        w).toNat = (packetHeader fragFlag payloadType userField payload).toNat /
          2 ^ k % 2 ^ n % 2 ^ w := by
    intro w k n m hm
    rw [BitVec.toNat_setWidth, toNat_and_mask _ n hm, BitVec.toNat_ushiftRight,
      Nat.shiftRight_eq_div_pow]
  constructor
  · apply BitVec.eq_of_toNat_eq
    simp only [parsedPacket, hheader]
    rw [hfield 8 0 4 _ (by decide), hvalue, BitVec.toNat_ofNat]
    omega
  · exact hlength
  · apply BitVec.eq_of_toNat_eq
    simp only [parsedPacket, hheader]
    rw [hfield 8 49 1 _ (by decide), hvalue]
    omega
  · apply BitVec.eq_of_toNat_eq
    simp only [parsedPacket, hheader]
    rw [hfield 8 50 4 _ (by decide), hvalue]
    omega
  · apply BitVec.eq_of_toNat_eq
    simp only [parsedPacket, hheader]
    rw [hfield 16 54 10 _ (by decide), hvalue]
    omega
  · simp only [parsedPacket, hlength, BitVec.toNat_ofNat]
    omega
  · have hcopy : bytesOf (parsedPacket packet).payload payload.length =
        bytesOf (bufferOf payload) payload.length := by
      apply bytesOf_congr
      intro i hi
      have hnot : ¬ (8 + payload.length <= 8 + i ∧ 8 + i < 12 + payload.length) := by
        omega
      have hhead : ¬ 8 + i < 8 := by omega
      have hbody : 8 + i < 8 + payload.length := by omega
      simp only [parsedPacket]
      rw [hstart _ (by omega), ← packetImage_eq (fun _ => 0#8) (by omega)]
      unfold packetImage packetBody
      rw [if_neg hnot, if_neg hhead, if_pos hbody, Nat.add_sub_cancel_left]
    rw [hcopy, bytesOf_bufferOf]

theorem spParsePacket_packet {packetLen : BitVec 32} (outPacket : SpParsedPacket)
    (h : StartsWith packet (packetBytes fragFlag payloadType userField payload))
    (hlen : payload.length + 12 <= packetLen.toNat) :
    spParsePacket (some packet) packetLen (some outPacket) =
      (.ok, some (parsedPacket packet)) := by
  have hlength : declaredLength packet = payload.length + 12 := by
    apply declaredLength_packet hargs hfit (n := payload.length + 12) (by omega)
    intro i hi
    exact h i (by simpa using hi)
  have hmatch := checksumMatches_packet hfit h
  rw [spParsePacket_complete outPacket (by omega) (by omega), hlength,
    if_pos hmatch]

end Encoding

/-- Whatever bytes follow it, an encoded packet is read back field by field. -/
theorem spParsePacket_spEncodePacketBuffer (fragFlag payloadType : Byte)
    (userField : BitVec 16) (payload : List Byte) (ptr : Option Buffer)
    (out : Buffer) (outBufferCap outLength : BitVec 32)
    (hptr : PointsTo ptr payload)
    (hfrag : fragFlag = SP_FRAGED ∨ fragFlag = SP_UNFRAGED)
    (htype : payloadType.toNat <= 15) (huser : userField.toNat <= 1023)
    (hcap : payload.length + 12 <= outBufferCap.toNat) :
    exists written : Buffer,
      spEncodePacketBuffer ptr (BitVec.ofNat 32 payload.length) fragFlag payloadType
          userField (some out) outBufferCap (some outLength) =
        { result := .ok
          outBuffer := some written
          outLength := some (BitVec.ofNat 32 (payload.length + 12)) } ∧
      forall (suffix : List Byte) (packetLen : BitVec 32) (outPacket : SpParsedPacket),
        packetLen.toNat = payload.length + 12 + suffix.length ->
        exists parsed : SpParsedPacket,
          spParsePacket
              (some (bufferOf (bytesOf written (payload.length + 12) ++ suffix)))
              packetLen (some outPacket) = (.ok, some parsed) ∧
            ReportsPacket parsed fragFlag payloadType userField payload := by
  have hcap32 := outBufferCap.isLt
  have hargs : EncoderArguments fragFlag payloadType userField := by
    constructor
    · rcases hfrag with h | h
      · simp [h]
      · simp [h]
    · exact htype
    · exact huser
  refine ⟨packetImage fragFlag payloadType userField payload out,
    spEncodePacketBuffer_ok hargs hptr hcap out outLength, ?_⟩
  intro suffix packetLen outPacket hlen
  have hbytes : bytesOf (packetImage fragFlag payloadType userField payload out)
      (payload.length + 12) = packetBytes fragFlag payloadType userField payload := by
    apply bytesOf_congr
    intro i hi
    rw [packetImage_eq _ hi, packetImage_eq _ hi]
  have hstart : StartsWith
      (bufferOf (packetBytes fragFlag payloadType userField payload ++ suffix))
      (packetBytes fragFlag payloadType userField payload) :=
    startsWith_append _ _
  rw [hbytes]
  exact ⟨_, spParsePacket_packet hargs (by omega) outPacket hstart (by omega),
    parsedPacket_reports hargs (by omega) hstart⟩

theorem readBack_listing_request :
    exists written : Buffer,
      spEncodePacketBuffer (some (bufferOf (text "/bin"))) 4#32 SP_UNFRAGED PT_STRING
          SYS_LS (some fun _ => 0#8) 16#32 (some 0#32) =
        { result := .ok, outBuffer := some written, outLength := some 16#32 } ∧
      forall (suffix : List Byte) (packetLen : BitVec 32) (outPacket : SpParsedPacket),
        packetLen.toNat = 16 + suffix.length ->
        exists parsed : SpParsedPacket,
          spParsePacket (some (bufferOf (bytesOf written 16 ++ suffix)))
              packetLen (some outPacket) = (.ok, some parsed) ∧
            ReportsPacket parsed SP_UNFRAGED PT_STRING SYS_LS (text "/bin") :=
  spParsePacket_spEncodePacketBuffer SP_UNFRAGED PT_STRING SYS_LS (text "/bin")
    (some (bufferOf (text "/bin"))) (fun _ => 0#8) 16#32 0#32
    (bytesOf_bufferOf (text "/bin")) (Or.inr rfl) (by decide) (by decide) (by decide)

end ArduOS
