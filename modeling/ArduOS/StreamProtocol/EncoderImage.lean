import ArduOS.StreamProtocol.RoundTrip

/-!
# Encoding undoes decoding

The parsed fields tile the header word and the checksum is forced by what it
covers, so every accepted packet of protocol version 1 is the encoder's output
for the fields and the payload the parser reports.
-/

namespace ArduOS

open Library

/-!
## Accepted packets
-/

theorem spParsePacket_accepts {packet : Buffer} {packetLen : BitVec 32}
    {outPacket parsed : SpParsedPacket}
    (h : spParsePacket (some packet) packetLen (some outPacket) = (.ok, some parsed)) :
    12 <= declaredLength packet ∧ declaredLength packet <= packetLen.toNat ∧
      ChecksumMatches packet (declaredLength packet) ∧ parsed = parsedPacket packet := by
  by_cases hwhole : 12 <= declaredLength packet ∧
      declaredLength packet <= packetLen.toNat
  · rcases hwhole with ⟨hlo, hhi⟩
    rw [spParsePacket_complete outPacket hlo hhi] at h
    by_cases hmatch : ChecksumMatches packet (declaredLength packet)
    · rw [if_pos hmatch] at h
      cases h
      exact ⟨hlo, hhi, hmatch, rfl⟩
    · rw [if_neg hmatch] at h
      cases h
  · rw [spParsePacket_incomplete outPacket (by omega)] at h
    cases h

/-!
## The header word and its fields
-/

theorem field_toNat (headerValue m : BitVec 64) (w k n : Nat)
    (hm : m.toNat = 2 ^ n - 1) :
    (((headerValue >>> k) &&& m).setWidth w).toNat =
      headerValue.toNat / 2 ^ k % 2 ^ n % 2 ^ w := by
  rw [BitVec.toNat_setWidth, toNat_and_mask _ n hm, BitVec.toNat_ushiftRight,
    Nat.shiftRight_eq_div_pow]

structure SameHeader (p q : SpParsedPacket) : Prop where
  version : p.protocolVersion = q.protocolVersion
  length : p.packetLength = q.packetLength
  frag : p.fragmentFlag = q.fragmentFlag
  type : p.payloadType = q.payloadType
  user : p.userField = q.userField

section Fields

variable (packet : Buffer)

theorem parsedPacket_version_toNat :
    (parsedPacket packet).protocolVersion.toNat =
      (spReadHeader packet).toNat % 16 := by
  have h := field_toNat (spReadHeader packet) 0x0F#64 8 0 4 (by decide)
  unfold parsedPacket
  rw [h]
  omega

theorem parsedPacket_length_toNat :
    (parsedPacket packet).packetLength.toNat =
      (spReadHeader packet).toNat / 2 ^ 4 % 2 ^ 45 :=
  spPacketLength64_toNat _

theorem parsedPacket_frag_toNat :
    (parsedPacket packet).fragmentFlag.toNat =
      (spReadHeader packet).toNat / 2 ^ 49 % 2 := by
  have h := field_toNat (spReadHeader packet) 0x01#64 8 49 1 (by decide)
  unfold parsedPacket
  rw [h]
  omega

theorem parsedPacket_type_toNat :
    (parsedPacket packet).payloadType.toNat =
      (spReadHeader packet).toNat / 2 ^ 50 % 16 := by
  have h := field_toNat (spReadHeader packet) 0x0F#64 8 50 4 (by decide)
  unfold parsedPacket
  rw [h]
  omega

theorem parsedPacket_user_toNat :
    (parsedPacket packet).userField.toNat =
      (spReadHeader packet).toNat / 2 ^ 54 % 1024 := by
  have h := field_toNat (spReadHeader packet) 0x3FF#64 16 54 10 (by decide)
  unfold parsedPacket
  rw [h]
  omega

theorem spReadHeader_tiled :
    (spReadHeader packet).toNat =
      (parsedPacket packet).protocolVersion.toNat +
        (parsedPacket packet).packetLength.toNat * 2 ^ 4 +
        (parsedPacket packet).fragmentFlag.toNat * 2 ^ 49 +
        (parsedPacket packet).payloadType.toNat * 2 ^ 50 +
        (parsedPacket packet).userField.toNat * 2 ^ 54 := by
  have hheader := (spReadHeader packet).isLt
  rw [parsedPacket_version_toNat, parsedPacket_length_toNat, parsedPacket_frag_toNat,
    parsedPacket_type_toNat, parsedPacket_user_toNat]
  omega

theorem parsedPacket_arguments :
    EncoderArguments (parsedPacket packet).fragmentFlag
      (parsedPacket packet).payloadType (parsedPacket packet).userField := by
  constructor
  · rw [parsedPacket_frag_toNat]
    omega
  · rw [parsedPacket_type_toNat]
    omega
  · rw [parsedPacket_user_toNat]
    omega

end Fields

theorem spReadHeader_byte (packet : Buffer) {i : Nat} (hi : i < 8) :
    (spReadHeader packet >>> (i * 8)).setWidth 8 = packet i := by
  rw [spReadHeader_eq_littleEndian]
  exact setWidth_littleEndian_shiftRight rfl hi packet

theorem eq_of_spReadHeader_eq {packet packet' : Buffer}
    (h : spReadHeader packet = spReadHeader packet') {i : Nat} (hi : i < 8) :
    packet i = packet' i := by
  rw [← spReadHeader_byte packet hi, h, spReadHeader_byte packet' hi]

theorem spReadHeader_eq_of_sameHeader {packet packet' : Buffer}
    (h : SameHeader (parsedPacket packet) (parsedPacket packet')) :
    spReadHeader packet = spReadHeader packet' := by
  apply BitVec.eq_of_toNat_eq
  rw [spReadHeader_tiled, spReadHeader_tiled, h.version, h.length, h.frag, h.type,
    h.user]

/-!
## The checksum field
-/

theorem spCrcByte_spReadCrc {packet : Buffer} {crcOffset : BitVec 32}
    (hfit : crcOffset.toNat + 4 < 2 ^ 32) {j : Nat} (hj : j < 4) :
    spCrcByte (spReadCrc packet crcOffset) j = packet (crcOffset.toNat + j) := by
  rw [spReadCrc_eq_littleEndian hfit]
  exact setWidth_littleEndian_shiftRight rfl hj fun j => packet (crcOffset.toNat + j)

theorem checksumMatches_byte {packet : Buffer} {length : Nat}
    (hmatch : ChecksumMatches packet length) (hlo : 4 <= length)
    (hhi : length < 2 ^ 32) {j : Nat} (hj : j < 4) :
    packet (length - 4 + j) =
      spCrcByte (spCrc32 packet (BitVec.ofNat 32 (length - 4))) j := by
  have hoff : (BitVec.ofNat 32 (length - 4)).toNat = length - 4 := by
    rw [BitVec.toNat_ofNat]
    omega
  have hcrc : spCrc32 packet (BitVec.ofNat 32 (length - 4)) =
      spReadCrc packet (BitVec.ofNat 32 (length - 4)) := hmatch
  have hbyte := @spCrcByte_spReadCrc packet (BitVec.ofNat 32 (length - 4)) (by omega) j hj
  rw [hoff] at hbyte
  rw [hcrc, hbyte]

theorem bytesOf_eq_of_checksumMatches {packet packet' : Buffer} {length : Nat}
    (hmatch : ChecksumMatches packet length) (hmatch' : ChecksumMatches packet' length)
    (hlo : 4 <= length) (hhi : length < 2 ^ 32)
    (h : forall i, i < length - 4 -> packet i = packet' i) :
    bytesOf packet length = bytesOf packet' length := by
  have hcrc : spCrc32 packet (BitVec.ofNat 32 (length - 4)) =
      spCrc32 packet' (BitVec.ofNat 32 (length - 4)) := by
    apply spCrc32_congr
    intro i hi
    rw [BitVec.toNat_ofNat] at hi
    exact h i (by omega)
  apply bytesOf_congr
  intro i hi
  by_cases hcovered : i < length - 4
  · exact h i hcovered
  · obtain ⟨j, rfl⟩ : exists j, i = length - 4 + j := ⟨i - (length - 4), by omega⟩
    rw [checksumMatches_byte hmatch hlo hhi (by omega),
      checksumMatches_byte hmatch' hlo hhi (by omega), hcrc]

/-!
## The encoder's image
-/

theorem packetHeader_parsedPacket {packet : Buffer}
    (hversion : (parsedPacket packet).protocolVersion = 1#8)
    {payload : List Byte} (hlen : declaredLength packet = payload.length + 12)
    (hfit : payload.length + 12 < 2 ^ 32) :
    packetHeader (parsedPacket packet).fragmentFlag (parsedPacket packet).payloadType
      (parsedPacket packet).userField payload = spReadHeader packet := by
  have hlength : (parsedPacket packet).packetLength.toNat = payload.length + 12 := hlen
  apply BitVec.eq_of_toNat_eq
  rw [packetHeader_toNat (parsedPacket_arguments packet) hfit, spReadHeader_tiled,
    hversion, hlength]
  rfl

theorem bytesOf_packetImage_parsedPacket {packet : Buffer}
    (hlo : 12 <= declaredLength packet) (hhi : declaredLength packet < 2 ^ 32)
    (hmatch : ChecksumMatches packet (declaredLength packet))
    (hversion : (parsedPacket packet).protocolVersion = 1#8) (out : Buffer) :
    bytesOf (packetImage (parsedPacket packet).fragmentFlag
        (parsedPacket packet).payloadType (parsedPacket packet).userField
        (bytesOf (parsedPacket packet).payload (declaredLength packet - 12)) out)
      (declaredLength packet) = bytesOf packet (declaredLength packet) := by
  have hpayload : (bytesOf (parsedPacket packet).payload
      (declaredLength packet - 12)).length + 12 = declaredLength packet := by
    rw [length_bytesOf]
    omega
  have hheader := packetHeader_parsedPacket hversion hpayload.symm (by omega)
  have hstart : StartsWith
      (packetImage (parsedPacket packet).fragmentFlag
        (parsedPacket packet).payloadType (parsedPacket packet).userField
        (bytesOf (parsedPacket packet).payload (declaredLength packet - 12)) out)
      (packetBytes (parsedPacket packet).fragmentFlag
        (parsedPacket packet).payloadType (parsedPacket packet).userField
        (bytesOf (parsedPacket packet).payload (declaredLength packet - 12))) := by
    intro i hi
    rw [length_packetBytes] at hi
    exact packetImage_eq out hi
  have hencoded := checksumMatches_packet (by omega) hstart
  rw [hpayload] at hencoded
  apply bytesOf_eq_of_checksumMatches hencoded hmatch (by omega) hhi
  intro i hi
  unfold packetImage packetBody
  rw [length_bytesOf]
  have hcovered : ¬ (8 + (declaredLength packet - 12) <= i ∧
      i < 12 + (declaredLength packet - 12)) := by omega
  have hbody : i < 8 + (declaredLength packet - 12) := by omega
  rw [if_neg hcovered]
  by_cases hhead : i < 8
  · rw [if_pos hhead, hheader, spReadHeader_byte packet hhead]
  · rw [if_neg hhead, if_pos hbody, bufferOf_bytesOf _ (by omega)]
    unfold parsedPacket
    have hsum : 8 + (i - 8) = i := by omega
    simp only [hsum]

/--
Encoding what the parser reports gives back the packet, and two accepted
packets with one header and one payload are one packet.
-/
theorem spEncodePacketBuffer_spParsePacket (packet : Buffer) (packetLen : BitVec 32)
    (outPacket parsed : SpParsedPacket)
    (hparse : spParsePacket (some packet) packetLen (some outPacket) =
      (.ok, some parsed)) :
    (parsed.protocolVersion = 1#8 ->
      exists outBufferCap : BitVec 32,
        outBufferCap.toNat = parsed.packetLength.toNat ∧
        forall (out : Buffer) (outLength : BitVec 32), exists written : Buffer,
          spEncodePacketBuffer (some parsed.payload) parsed.payloadLength
              parsed.fragmentFlag parsed.payloadType parsed.userField (some out)
              outBufferCap (some outLength) =
            { result := .ok
              outBuffer := some written
              outLength := some outBufferCap } ∧
          bytesOf written parsed.packetLength.toNat =
            bytesOf packet parsed.packetLength.toNat) ∧
    forall (packet' : Buffer) (packetLen' : BitVec 32)
        (outPacket' parsed' : SpParsedPacket),
      spParsePacket (some packet') packetLen' (some outPacket') = (.ok, some parsed') ->
      SameHeader parsed parsed' ->
      bytesOf packet 8 = bytesOf packet' 8 ∧
        (bytesOf parsed.payload parsed.payloadLength.toNat =
            bytesOf parsed'.payload parsed.payloadLength.toNat ->
          bytesOf packet parsed.packetLength.toNat =
            bytesOf packet' parsed.packetLength.toNat) := by
  rcases spParsePacket_accepts hparse with ⟨hlo, hhi, hmatch, rfl⟩
  have hlen32 := packetLen.isLt
  have hlength : (parsedPacket packet).packetLength.toNat = declaredLength packet := rfl
  constructor
  · intro hversion
    refine ⟨BitVec.ofNat 32 (declaredLength packet), ?_, ?_⟩
    · rw [hlength, BitVec.toNat_ofNat]
      omega
    · intro out outLength
      have hpayload : (bytesOf (parsedPacket packet).payload
          (declaredLength packet - 12)).length = declaredLength packet - 12 :=
        length_bytesOf _ _
      have hptr : PointsTo (some (parsedPacket packet).payload)
          (bytesOf (parsedPacket packet).payload (declaredLength packet - 12)) := by
        unfold PointsTo
        rw [hpayload]
      have hcap : (bytesOf (parsedPacket packet).payload
          (declaredLength packet - 12)).length + 12 <=
            (BitVec.ofNat 32 (declaredLength packet)).toNat := by
        rw [hpayload, BitVec.toNat_ofNat]
        omega
      have hencode := spEncodePacketBuffer_ok (parsedPacket_arguments packet) hptr hcap
        out outLength
      have hsum : declaredLength packet - 12 + 12 = declaredLength packet := by omega
      rw [hpayload, hsum] at hencode
      exact ⟨_, hencode,
        bytesOf_packetImage_parsedPacket hlo (by omega) hmatch hversion out⟩
  · intro packet' packetLen' outPacket' parsed' hparse' hsame
    rcases spParsePacket_accepts hparse' with ⟨hlo', hhi', hmatch', rfl⟩
    have hheader := spReadHeader_eq_of_sameHeader hsame
    have hhead : forall i, i < 8 -> packet i = packet' i := by
      intro i hi
      exact eq_of_spReadHeader_eq hheader hi
    refine ⟨bytesOf_congr hhead, ?_⟩
    intro hpayload
    have hcount : (parsedPacket packet).payloadLength.toNat =
        declaredLength packet - 12 := by
      unfold parsedPacket
      rw [BitVec.toNat_ofNat]
      omega
    rw [hcount] at hpayload
    have hsameLength : declaredLength packet' = declaredLength packet :=
      (declaredLength_congr hhead).symm
    rw [hsameLength] at hmatch'
    apply bytesOf_eq_of_checksumMatches hmatch hmatch' (by omega) (by omega)
    intro i hi
    by_cases hlt : i < 8
    · exact hhead i hlt
    · have hbyte := eq_of_bytesOf_eq hpayload (show i - 8 < _ by omega)
      have hsum : 8 + (i - 8) = i := by omega
      unfold parsedPacket at hbyte
      simp only [hsum] at hbyte
      exact hbyte

def listingRequest : Buffer :=
  bufferOf (packetBytes SP_UNFRAGED PT_STRING SYS_LS (text "/bin"))

theorem startsWith_listingRequest : StartsWith listingRequest
    (packetBytes SP_UNFRAGED PT_STRING SYS_LS (text "/bin")) :=
  fun _ _ => rfl

theorem arguments_listingRequest :
    EncoderArguments SP_UNFRAGED PT_STRING SYS_LS :=
  ⟨by decide, by decide, by decide⟩

theorem listingRequest_accepted :
    spParsePacket (some listingRequest) 16#32 (some default) =
      (.ok, some (parsedPacket listingRequest)) :=
  spParsePacket_packet arguments_listingRequest (by decide) default
    startsWith_listingRequest (by decide)

theorem listingRequest_reports :
    ReportsPacket (parsedPacket listingRequest) SP_UNFRAGED PT_STRING SYS_LS
      (text "/bin") :=
  parsedPacket_reports arguments_listingRequest (by decide) startsWith_listingRequest

theorem reencode_listingRequest :
    exists outBufferCap : BitVec 32,
      outBufferCap.toNat = (parsedPacket listingRequest).packetLength.toNat ∧
      forall (out : Buffer) (outLength : BitVec 32), exists written : Buffer,
        spEncodePacketBuffer (some (parsedPacket listingRequest).payload)
            (parsedPacket listingRequest).payloadLength
            (parsedPacket listingRequest).fragmentFlag
            (parsedPacket listingRequest).payloadType
            (parsedPacket listingRequest).userField (some out) outBufferCap
            (some outLength) =
          { result := .ok
            outBuffer := some written
            outLength := some outBufferCap } ∧
        bytesOf written (parsedPacket listingRequest).packetLength.toNat =
          bytesOf listingRequest (parsedPacket listingRequest).packetLength.toNat :=
  (spEncodePacketBuffer_spParsePacket listingRequest 16#32 default _
    listingRequest_accepted).left listingRequest_reports.version

end ArduOS
