import ArduOS.StreamProtocol.Accesses
import ArduOS.StreamProtocol.RoundTrip

/-!
# The codec stays inside its buffers

Whatever the lengths and the header, no access is out of bounds, no sum and no
difference wraps, and a call that fails has written nothing.
-/

namespace ArduOS

open Library Traced

namespace Codec

/-!
## Erasing the trace
-/

@[simp] theorem value_add {w : Nat} (a b : BitVec w) : (add a b).value = a + b := by
  rw [add, value_emit]

@[simp] theorem value_sub {w : Nat} (a b : BitVec w) : (sub a b).value = a - b := by
  rw [sub, value_emit]

@[simp] theorem value_input (data : Buffer) (i : Nat) : (input data i).value = data i := rfl

@[simp] theorem value_fetch (out : Buffer) (i : Nat) : (fetch out i).value = out i := rfl

@[simp] theorem value_store (out : Buffer) (i : Nat) (b : Byte) :
    (store out i b).value = Function.update out i b := rfl

@[simp] theorem value_count {σ : Type} (length : BitVec 32) (body : Nat -> σ -> Codec σ)
    (s : σ) : (count length body s).value =
      forLoop length.toNat (fun i s => (body i s).value) s := by
  unfold count
  rw [value_loop]
  rfl

theorem value_spCrc32 {read : Buffer -> Nat -> Codec Byte}
    (hread : forall data i, (read data i).value = data i) (data : Buffer)
    (length : BitVec 32) :
    (spCrc32 read data length).value = ArduOS.spCrc32 data length := by
  unfold spCrc32 ArduOS.spCrc32
  simp only [value_bind, value_count, value_pure, hread]

theorem value_spWriteHeader (headerValue : BitVec 64) (out : Buffer) :
    (spWriteHeader headerValue out).value = ArduOS.spWriteHeader headerValue out := by
  unfold spWriteHeader ArduOS.spWriteHeader
  simp only [value_count, value_store]

theorem value_spCopyPayload (payload : Option Buffer) (payloadLength : BitVec 32)
    (out : Buffer) : (spCopyPayload payload payloadLength out).value =
      ArduOS.spCopyPayload payload payloadLength out := by
  cases payload with
  | none => rfl
  | some payload =>
      unfold spCopyPayload ArduOS.spCopyPayload spWritePayload ArduOS.spWritePayload
      simp only [value_ite, value_count, value_bind, value_add, value_input, value_store,
        value_pure]

theorem value_spWriteCrc (crc crcOffset : BitVec 32) (out : Buffer) :
    (spWriteCrc crc crcOffset out).value = ArduOS.spWriteCrc crc crcOffset out := rfl

theorem value_writePacket (payload : Option Buffer) (payloadLength : BitVec 32)
    (fragFlag payloadType : Byte) (userField : BitVec 16) (out : Buffer)
    (totalLen64 : BitVec 64) :
    (writePacket payload payloadLength fragFlag payloadType userField out
      totalLen64).value =
      let headerValue := spHeaderValue totalLen64 fragFlag payloadType userField
      let out := ArduOS.spCopyPayload payload payloadLength
        (ArduOS.spWriteHeader headerValue out)
      let crc := ArduOS.spCrc32 out (SP_HEADER_SIZE + payloadLength)
      { result := .ok
        outBuffer := some (ArduOS.spWriteCrc crc (totalLen64.setWidth 32 - 4#32) out)
        outLength := some (totalLen64.setWidth 32) } := by
  unfold writePacket
  simp only [value_bind, value_spWriteHeader, value_spCopyPayload, value_add, value_sub,
    value_spCrc32 value_fetch, value_spWriteCrc, value_pure]

/-- The encoder with a trace is the encoder. -/
theorem value_spEncodePacketBuffer (payload : Option Buffer) (payloadLength : BitVec 32)
    (fragFlag payloadType : Byte) (userField : BitVec 16) (outBuffer : Option Buffer)
    (outBufferCap : BitVec 32) (outLength : Option (BitVec 32)) :
    (spEncodePacketBuffer payload payloadLength fragFlag payloadType userField outBuffer
      outBufferCap outLength).value =
      ArduOS.spEncodePacketBuffer payload payloadLength fragFlag payloadType userField
        outBuffer outBufferCap outLength := by
  unfold spEncodePacketBuffer ArduOS.spEncodePacketBuffer
  cases outBuffer with
  | none => rfl
  | some out =>
      cases outLength with
      | none => rfl
      | some _ =>
          simp only [value_ite, value_bind, value_add, value_pure, value_writePacket]

theorem value_spReadHeader (packet : Buffer) :
    (spReadHeader packet).value = ArduOS.spReadHeader packet := by
  unfold spReadHeader ArduOS.spReadHeader
  simp only [value_count, value_bind, value_input, value_pure]

theorem value_spReadCrc (packet : Buffer) (crcOffset : BitVec 32) :
    (spReadCrc packet crcOffset).value = ArduOS.spReadCrc packet crcOffset := rfl

/-- The parser with a trace is the parser. -/
theorem value_spParsePacket (packet : Option Buffer) (packetLen : BitVec 32)
    (outPacket : Option SpParsedPacket) :
    (spParsePacket packet packetLen outPacket).value =
      ArduOS.spParsePacket packet packetLen outPacket := by
  unfold spParsePacket ArduOS.spParsePacket
  cases packet with
  | none => rfl
  | some packet =>
      cases outPacket with
      | none => rfl
      | some _ =>
          unfold checkPacket
          simp only [value_ite, value_bind, value_add, value_sub, value_spReadHeader,
            value_spReadCrc, value_spCrc32 value_input, value_pure]

/-!
## Inside the buffers
-/

def Inside (inputs fetches stores : Nat) : CodecEvent -> Prop
  | .input i => i < inputs
  | .fetch i => i < fetches
  | .store i => i < stores
  | .sum w a b => a.toNat + b.toNat < 2 ^ w
  | .difference _ a b => b.toNat <= a.toNat
  | .setLength => True
  | .setPacket => True

def AllowsSums (P : CodecEvent -> Prop) : Prop :=
  forall a b : BitVec 32, a.toNat + b.toNat < 2 ^ 32 -> P (.sum 32 a b)

section Loops

variable {P : CodecEvent -> Prop} (hP : AllowsSums P)

theorem toNat_counter {length : BitVec 32} {i : Nat} (hi : i < length.toNat) :
    (BitVec.ofNat 32 i).toNat = i := by
  rw [BitVec.toNat_ofNat]
  exact Nat.mod_eq_of_lt (Nat.lt_trans hi length.isLt)

include hP

theorem every_count {σ : Type} {length : BitVec 32} {body : Nat -> σ -> Codec σ} {s : σ}
    (h : forall i s, i < length.toNat -> (body i s).Every P) :
    (count length body s).Every P := by
  apply every_loop
  intro i s hi
  have hlen := length.isLt
  have hnat := toNat_counter hi
  have hone : (1#32).toNat = 1 := rfl
  have hsum := hP (BitVec.ofNat 32 i) 1#32 (by omega)
  simp only [every_bind, add, every_emit, every_pure, and_true]
  exact ⟨h i s hi, hsum⟩

theorem every_spCrc32 {read : Buffer -> Nat -> Codec Byte} {length : BitVec 32}
    (hread : forall data i, i < length.toNat -> (read data i).Every P) (data : Buffer) :
    (spCrc32 read data length).Every P := by
  simp only [spCrc32, every_bind, every_pure, and_true]
  apply every_count hP
  intro i crc hi
  simp only [every_bind, every_pure, and_true]
  exact hread data i hi

end Loops

theorem inside_allowsSums {inputs fetches stores : Nat} :
    AllowsSums (Inside inputs fetches stores) :=
  fun _ _ h => h

/--
All or nothing: the value is as `done` says, or as `kept` says and nothing of
the caller's was written.
-/
def Atomic {α : Type} (done kept : α -> Prop) (m : Codec α) : Prop :=
  done m.value ∨ (kept m.value ∧ m.Every CodecEvent.Silent)

section Atomic

variable {α β : Type} {done kept : α -> Prop}

theorem atomic_pure {a : α} (h : kept a) : Atomic done kept (pure a) :=
  .inr ⟨h, (every_pure a).mpr trivial⟩

theorem atomic_bind {m : Codec β} {f : β -> Codec α} (hm : m.Every CodecEvent.Silent)
    (hf : Atomic done kept (f m.value)) : Atomic done kept (m >>= f) := by
  rcases hf with hdone | ⟨hkept, hsilent⟩
  · exact .inl hdone
  · exact .inr ⟨hkept, (every_bind ..).mpr ⟨hm, hsilent⟩⟩

theorem atomic_ite {c : Prop} [Decidable c] {m m' : Codec α}
    (hthen : c -> Atomic done kept m) (helse : ¬ c -> Atomic done kept m') :
    Atomic done kept (if c then m else m') := by
  by_cases hc : c
  · rw [if_pos hc]
    exact hthen hc
  · rw [if_neg hc]
    exact helse hc

end Atomic

theorem silent_add {w : Nat} (a b : BitVec w) : (add a b).Every CodecEvent.Silent :=
  (every_emit ..).mpr trivial

/-!
## The encoder
-/

section Encoder

variable {n : Nat} {payloadLength : BitVec 32}

abbrev EncoderInside (n : Nat) : CodecEvent -> Prop := Inside n (n + 12) (n + 12)

theorem inside_spWriteHeader (headerValue : BitVec 64) (out : Buffer) :
    (spWriteHeader headerValue out).Every (EncoderInside n) := by
  apply every_count inside_allowsSums
  intro i out hi
  have height : SP_HEADER_SIZE.toNat = 8 := rfl
  have hin : i < n + 12 := by omega
  exact (every_emit ..).mpr hin

theorem inside_spCopyPayload (hn : payloadLength.toNat = n) (hfit : n + 12 < 2 ^ 32)
    (payload : Option Buffer) (out : Buffer) :
    (spCopyPayload payload payloadLength out).Every (EncoderInside n) := by
  have height : SP_HEADER_SIZE.toNat = 8 := rfl
  cases payload with
  | none => exact (every_pure out).mpr trivial
  | some payload =>
      apply every_ite
      · intro _
        apply every_count inside_allowsSums
        intro i out hi
        have hi' := toNat_counter hi
        have hindex : (SP_HEADER_SIZE + BitVec.ofNat 32 i).toNat = 8 + i := by
          rw [BitVec.toNat_add_of_lt (by omega), height, hi']
        have hsum : SP_HEADER_SIZE.toNat + (BitVec.ofNat 32 i).toNat < 2 ^ 32 := by omega
        have hread : i < n := by omega
        have hwrite : (SP_HEADER_SIZE + BitVec.ofNat 32 i).toNat < n + 12 := by omega
        simp only [every_bind, value_add, value_input]
        exact ⟨(every_emit ..).mpr hsum, (every_emit ..).mpr hread,
          (every_emit ..).mpr hwrite⟩
      · intro _
        exact (every_pure out).mpr trivial

theorem inside_writeCrcByte {crcOffset : BitVec 32} (hoff : crcOffset.toNat = 8 + n)
    (hfit : n + 12 < 2 ^ 32) (crc : BitVec 32) {i : BitVec 32} (hi : i.toNat < 4)
    (out : Buffer) : (writeCrcByte crc crcOffset i out).Every (EncoderInside n) := by
  have hindex : (crcOffset + i).toNat = 8 + n + i.toNat := by
    rw [BitVec.toNat_add_of_lt (by omega), hoff]
  have hsum : crcOffset.toNat + i.toNat < 2 ^ 32 := by omega
  have hwrite : (crcOffset + i).toNat < n + 12 := by omega
  simp only [writeCrcByte, every_bind, value_add]
  exact ⟨(every_emit ..).mpr hsum, (every_emit ..).mpr hwrite⟩

theorem inside_writePacket (hn : payloadLength.toNat = n) {totalLen64 : BitVec 64}
    (htotal : totalLen64.toNat = n + 12) (hfit : n + 12 < 2 ^ 32)
    (payload : Option Buffer) (fragFlag payloadType : Byte) (userField : BitVec 16)
    (out : Buffer) :
    (writePacket payload payloadLength fragFlag payloadType userField out
      totalLen64).Every (EncoderInside n) := by
  have height : SP_HEADER_SIZE.toNat = 8 := rfl
  have hfour : (4#32).toNat = 4 := rfl
  have htotal32 : (totalLen64.setWidth 32).toNat = n + 12 := by
    rw [BitVec.toNat_setWidth, htotal]
    omega
  have hcovered : (SP_HEADER_SIZE + payloadLength).toNat = 8 + n := by
    rw [BitVec.toNat_add_of_lt (by omega), height, hn]
  have hcrc : (totalLen64.setWidth 32 - 4#32).toNat = 8 + n := by
    rw [BitVec.toNat_sub_of_le (by rw [BitVec.le_def]; omega), htotal32]
    omega
  have hsum : SP_HEADER_SIZE.toNat + payloadLength.toNat < 2 ^ 32 := by omega
  have hsub : (4#32).toNat <= (totalLen64.setWidth 32).toNat := by omega
  have hfetch : forall (data : Buffer) i, i < (SP_HEADER_SIZE + payloadLength).toNat ->
      (fetch data i).Every (EncoderInside n) := by
    intro data i hi
    have hin : i < n + 12 := by omega
    exact (every_emit ..).mpr hin
  simp only [writePacket, spWriteCrc, every_bind, value_add, value_sub, every_pure,
    and_true]
  exact ⟨inside_spWriteHeader _ _, inside_spCopyPayload hn hfit _ _,
    (every_emit ..).mpr hsum, every_spCrc32 inside_allowsSums hfetch _, (every_emit ..).mpr hsub,
    ⟨inside_writeCrcByte hcrc hfit _ (by decide) _,
      inside_writeCrcByte hcrc hfit _ (by decide) _,
      inside_writeCrcByte hcrc hfit _ (by decide) _,
      inside_writeCrcByte hcrc hfit _ (by decide) _⟩,
    (every_emit ..).mpr trivial⟩

theorem toNat_totalLen64 (payloadLength : BitVec 32) :
    (SP_HEADER_SIZE.setWidth 64 + payloadLength.setWidth 64 + 4#64).toNat =
      payloadLength.toNat + 12 := by
  have hlen := payloadLength.isLt
  rw [BitVec.toNat_add, BitVec.toNat_add, BitVec.toNat_setWidth, BitVec.toNat_setWidth,
    BitVec.toNat_ofNat, BitVec.toNat_ofNat]
  omega

theorem no_wrap_totalLen64 (payloadLength : BitVec 32) :
    (SP_HEADER_SIZE.setWidth 64).toNat + (payloadLength.setWidth 64).toNat < 2 ^ 64 ∧
      (SP_HEADER_SIZE.setWidth 64 + payloadLength.setWidth 64).toNat + (4#64).toNat <
        2 ^ 64 := by
  have hlen := payloadLength.isLt
  rw [BitVec.toNat_add, BitVec.toNat_setWidth, BitVec.toNat_setWidth, BitVec.toNat_ofNat,
    BitVec.toNat_ofNat]
  omega

section Calls

variable (payload : Option Buffer) (payloadLength : BitVec 32) (fragFlag payloadType : Byte)
  (userField : BitVec 16) (outBuffer : Option Buffer) (outBufferCap : BitVec 32)
  (outLength : Option (BitVec 32))

theorem inside_spEncodePacketBuffer :
    (spEncodePacketBuffer payload payloadLength fragFlag payloadType userField outBuffer
      outBufferCap outLength).Every (EncoderInside payloadLength.toNat) := by
  have hlen := payloadLength.isLt
  have hcap := outBufferCap.isLt
  have htotal := toNat_totalLen64 payloadLength
  have hsums := no_wrap_totalLen64 payloadLength
  unfold spEncodePacketBuffer
  cases outBuffer with
  | none => exact (every_pure _).mpr trivial
  | some out =>
      cases outLength with
      | none => exact (every_pure _).mpr trivial
      | some _ =>
          refine every_ite (fun _ => (every_pure _).mpr trivial) fun _ => ?_
          refine every_ite (fun _ => (every_pure _).mpr trivial) fun _ => ?_
          refine every_ite (fun _ => (every_pure _).mpr trivial) fun _ => ?_
          refine every_ite (fun _ => (every_pure _).mpr trivial) fun _ => ?_
          refine (every_bind ..).mpr ⟨(every_emit ..).mpr ?_, ?_⟩
          · exact hsums.left
          · refine (every_bind ..).mpr ⟨(every_emit ..).mpr hsums.right, ?_⟩
            refine every_ite (fun _ => (every_pure _).mpr trivial) fun hroom => ?_
            refine every_ite (fun _ => (every_pure _).mpr trivial) fun _ => ?_
            simp only [value_add] at hroom ⊢
            rw [gt_iff_lt, BitVec.lt_def, htotal, BitVec.toNat_setWidth] at hroom
            exact inside_writePacket rfl htotal (by omega) _ _ _ _ _

theorem atomic_spEncodePacketBuffer :
    Atomic (fun e : SpEncoded => e.result = .ok)
      (fun e => e.result ≠ .ok ∧ e.outBuffer = outBuffer ∧ e.outLength = outLength)
      (spEncodePacketBuffer payload payloadLength fragFlag payloadType userField outBuffer
        outBufferCap outLength) := by
  have hfail : forall result : SpResult, result ≠ .ok ->
      Atomic (fun e : SpEncoded => e.result = .ok)
        (fun e => e.result ≠ .ok ∧ e.outBuffer = outBuffer ∧ e.outLength = outLength)
        (pure { result := result, outBuffer := outBuffer, outLength := outLength }) :=
    fun result h => atomic_pure ⟨h, rfl, rfl⟩
  unfold spEncodePacketBuffer
  cases outBuffer with
  | none => exact hfail _ (by decide)
  | some out =>
      cases outLength with
      | none => exact hfail _ (by decide)
      | some _ =>
          refine atomic_ite (fun _ => hfail _ (by decide)) fun _ => ?_
          refine atomic_ite (fun _ => hfail _ (by decide)) fun _ => ?_
          refine atomic_ite (fun _ => hfail _ (by decide)) fun _ => ?_
          refine atomic_ite (fun _ => hfail _ (by decide)) fun _ => ?_
          refine atomic_bind (silent_add _ _) (atomic_bind (silent_add _ _) ?_)
          refine atomic_ite (fun _ => hfail _ (by decide)) fun _ => ?_
          refine atomic_ite (fun _ => hfail _ (by decide)) fun _ => ?_
          exact .inl rfl

end Calls

end Encoder

/-!
## The parser
-/

section Parser

variable {n : Nat}

def Reads (n : Nat) (e : CodecEvent) : Prop := Inside n 0 0 e ∧ e.Silent

theorem reads_allowsSums : AllowsSums (Reads n) := fun _ _ h => ⟨h, trivial⟩

theorem reads_input {i : Nat} (hi : i < n) (packet : Buffer) :
    (input packet i).Every (Reads n) :=
  (every_emit ..).mpr ⟨hi, trivial⟩

theorem reads_add {w : Nat} {a b : BitVec w} (h : a.toNat + b.toNat < 2 ^ w) :
    (add a b).Every (Reads n) :=
  (every_emit ..).mpr ⟨h, trivial⟩

theorem reads_sub {w : Nat} {a b : BitVec w} (h : b.toNat <= a.toNat) :
    (sub a b).Every (Reads n) :=
  (every_emit ..).mpr ⟨h, trivial⟩

theorem reads_spReadHeader (hn : 8 <= n) (packet : Buffer) :
    (spReadHeader packet).Every (Reads n) := by
  apply every_count reads_allowsSums
  intro i headerValue hi
  have height : SP_HEADER_SIZE.toNat = 8 := rfl
  simp only [every_bind, every_pure, and_true]
  exact reads_input (by omega) packet

theorem reads_readCrcByte {crcOffset i : BitVec 32} (hn : n < 2 ^ 32)
    (h : crcOffset.toNat + i.toNat < n) (packet : Buffer) (receivedCrc : BitVec 32) :
    (readCrcByte packet crcOffset i receivedCrc).Every (Reads n) := by
  have hindex : (crcOffset + i).toNat < n := by
    rw [BitVec.toNat_add_of_lt (by omega)]
    exact h
  simp only [readCrcByte, every_bind, value_add, every_pure, and_true]
  exact ⟨reads_add (by omega), reads_input hindex packet⟩

theorem reads_spReadCrc {crcOffset : BitVec 32} (hn : n < 2 ^ 32)
    (h : crcOffset.toNat + 4 <= n) (packet : Buffer) :
    (spReadCrc packet crcOffset).Every (Reads n) := by
  have h1 : (1#32).toNat = 1 := rfl
  have h2 : (2#32).toNat = 2 := rfl
  have h3 : (3#32).toNat = 3 := rfl
  have h0 : (0#32).toNat = 0 := rfl
  simp only [spReadCrc, every_bind]
  exact ⟨reads_readCrcByte hn (by omega) _ _, reads_readCrcByte hn (by omega) _ _,
    reads_readCrcByte hn (by omega) _ _, reads_readCrcByte hn (by omega) _ _⟩

theorem packetLength_bounds {packetLength64 : BitVec 64} {packetLen : BitVec 32}
    (hleast : 12 <= packetLength64.toNat) (hmost : packetLength64.toNat <= packetLen.toNat) :
    (packetLength64.setWidth 32).toNat = packetLength64.toNat ∧
      (packetLength64.setWidth 32 - 4#32).toNat = packetLength64.toNat - 4 ∧
      (packetLength64.setWidth 32 - SP_HEADER_SIZE).toNat = packetLength64.toNat - 8 ∧
      (packetLength64.setWidth 32 - SP_HEADER_SIZE - 4#32).toNat =
        packetLength64.toNat - 12 := by
  have hlen := packetLen.isLt
  have height : SP_HEADER_SIZE.toNat = 8 := rfl
  have hfour : (4#32).toNat = 4 := rfl
  have h32 : (packetLength64.setWidth 32).toNat = packetLength64.toNat := by
    rw [BitVec.toNat_setWidth]
    exact Nat.mod_eq_of_lt (by omega)
  have h8 : (packetLength64.setWidth 32 - SP_HEADER_SIZE).toNat =
      packetLength64.toNat - 8 := by
    rw [BitVec.toNat_sub_of_le (by rw [BitVec.le_def]; omega), h32, height]
  refine ⟨h32, ?_, h8, ?_⟩
  · rw [BitVec.toNat_sub_of_le (by rw [BitVec.le_def]; omega), h32, hfour]
  · rw [BitVec.toNat_sub_of_le (by rw [BitVec.le_def]; omega), h8, hfour]
    omega

def Delivered (packet : Option Buffer) (packetLen : BitVec 32)
    (r : SpResult × Option SpParsedPacket) : Prop :=
  exists buffer parsed, packet = some buffer ∧ r = (.ok, some parsed) ∧
    parsed.payload = (fun i => buffer (8 + i)) ∧
    8 + parsed.payloadLength.toNat + 4 <= packetLen.toNat

def Kept (outPacket : Option SpParsedPacket) (r : SpResult × Option SpParsedPacket) :
    Prop :=
  r.1 ≠ .ok ∧ r.2 = outPacket

section Check

variable {packetLength64 : BitVec 64} {packetLen : BitVec 32}
  (hleast : 12 <= packetLength64.toNat) (hmost : packetLength64.toNat <= packetLen.toNat)

include hleast hmost

theorem reads_checkPacket (packet : Buffer) :
    (sub (packetLength64.setWidth 32) 4#32).Every (Reads packetLen.toNat) ∧
      (spReadCrc packet (packetLength64.setWidth 32 - 4#32)).Every
        (Reads packetLen.toNat) ∧
      (spCrc32 input packet (packetLength64.setWidth 32 - 4#32)).Every
        (Reads packetLen.toNat) := by
  have hlen := packetLen.isLt
  have hfour : (4#32).toNat = 4 := rfl
  rcases packetLength_bounds hleast hmost with ⟨h32, h4, _, _⟩
  refine ⟨reads_sub (by omega), reads_spReadCrc (by omega) (by omega) packet, ?_⟩
  apply every_spCrc32 reads_allowsSums
  intro data i hi
  exact reads_input (by omega) data

theorem inside_checkPacket (packet : Buffer) (outPacket : Option SpParsedPacket)
    (headerValue : BitVec 64) :
    (checkPacket packet outPacket headerValue packetLength64).Every
      (Inside packetLen.toNat 0 0) := by
  have height : SP_HEADER_SIZE.toNat = 8 := rfl
  have hfour : (4#32).toNat = 4 := rfl
  rcases packetLength_bounds hleast hmost with ⟨h32, _, h8, _⟩
  rcases reads_checkPacket hleast hmost packet with ⟨hsub, hcrc, hsum⟩
  have hheader : SP_HEADER_SIZE.toNat <= (packetLength64.setWidth 32).toNat := by omega
  have hlast : (4#32).toNat <= (packetLength64.setWidth 32 - SP_HEADER_SIZE).toNat := by
    omega
  simp only [checkPacket, every_bind, value_sub]
  refine ⟨hsub.mono fun _ h => h.left, hcrc.mono fun _ h => h.left,
    hsub.mono fun _ h => h.left, hsum.mono fun _ h => h.left, ?_⟩
  refine every_ite (fun _ => (every_pure _).mpr trivial) fun _ => ?_
  simp only [every_bind, value_sub, every_pure, and_true]
  exact ⟨(every_emit ..).mpr hheader, (every_emit ..).mpr hlast, (every_emit ..).mpr trivial⟩

theorem atomic_checkPacket (packet : Buffer) (outPacket : Option SpParsedPacket)
    (headerValue : BitVec 64) :
    Atomic (Delivered (some packet) packetLen) (Kept outPacket)
      (checkPacket packet outPacket headerValue packetLength64) := by
  rcases packetLength_bounds hleast hmost with ⟨_, _, _, h12⟩
  rcases reads_checkPacket hleast hmost packet with ⟨hsub, hcrc, hsum⟩
  refine atomic_bind (hsub.mono fun _ h => h.right) ?_
  refine atomic_bind (hcrc.mono fun _ h => h.right) ?_
  refine atomic_bind (hsub.mono fun _ h => h.right) ?_
  refine atomic_bind (hsum.mono fun _ h => h.right) ?_
  refine atomic_ite (fun _ => atomic_pure ⟨by simp, rfl⟩) fun _ => ?_
  have hfits : 8 + (packetLength64.setWidth 32 - SP_HEADER_SIZE - 4#32).toNat + 4 <=
      packetLen.toNat := by
    omega
  exact .inl ⟨packet, _, rfl, rfl, rfl, hfits⟩

end Check

theorem inside_spParsePacket (packet : Option Buffer) (packetLen : BitVec 32)
    (outPacket : Option SpParsedPacket) :
    (spParsePacket packet packetLen outPacket).Every (Inside packetLen.toNat 0 0) := by
  have hleast : (SP_HEADER_SIZE + 4#32).toNat = 12 := rfl
  have hsum : SP_HEADER_SIZE.toNat + (4#32).toNat < 2 ^ 32 := by decide
  unfold spParsePacket
  cases packet with
  | none => exact (every_pure _).mpr trivial
  | some packet =>
      cases outPacket with
      | none => exact (every_pure _).mpr trivial
      | some _ =>
          refine (every_bind ..).mpr ⟨(every_emit ..).mpr hsum, ?_⟩
          refine every_ite (fun _ => (every_pure _).mpr trivial) fun hshort => ?_
          simp only [value_add] at hshort
          rw [BitVec.lt_def, hleast] at hshort
          have hheader := reads_spReadHeader (n := packetLen.toNat) (by omega) packet
          refine (every_bind ..).mpr ⟨hheader.mono fun _ h => h.left, ?_⟩
          refine (every_bind ..).mpr ⟨(every_emit ..).mpr hsum, ?_⟩
          refine every_ite (fun _ => (every_pure _).mpr trivial) fun hdeclared => ?_
          refine every_ite (fun _ => (every_pure _).mpr trivial) fun hcomplete => ?_
          simp only [value_add] at hdeclared
          rw [BitVec.lt_def, BitVec.toNat_setWidth, hleast] at hdeclared
          rw [BitVec.lt_def, BitVec.toNat_setWidth] at hcomplete
          have hlen := packetLen.isLt
          exact inside_checkPacket (by omega) (by omega) packet _ _

theorem atomic_spParsePacket (packet : Option Buffer) (packetLen : BitVec 32)
    (outPacket : Option SpParsedPacket) :
    Atomic (Delivered packet packetLen) (Kept outPacket)
      (spParsePacket packet packetLen outPacket) := by
  have hleast : (SP_HEADER_SIZE + 4#32).toNat = 12 := rfl
  have hfail : forall result : SpResult, result ≠ .ok ->
      Atomic (Delivered packet packetLen) (Kept outPacket) (pure (result, outPacket)) :=
    fun result h => atomic_pure ⟨h, rfl⟩
  unfold spParsePacket
  cases packet with
  | none => exact hfail _ (by decide)
  | some packet =>
      cases outPacket with
      | none => exact hfail _ (by decide)
      | some _ =>
          refine atomic_bind (silent_add _ _) ?_
          refine atomic_ite (fun _ => hfail _ (by decide)) fun hshort => ?_
          simp only [value_add] at hshort
          rw [BitVec.lt_def, hleast] at hshort
          have hheader := reads_spReadHeader (n := packetLen.toNat) (by omega) packet
          refine atomic_bind (hheader.mono fun _ h => h.right) ?_
          refine atomic_bind (silent_add _ _) ?_
          refine atomic_ite (fun _ => hfail _ (by decide)) fun hdeclared => ?_
          refine atomic_ite (fun _ => hfail _ (by decide)) fun hcomplete => ?_
          simp only [value_add] at hdeclared
          rw [BitVec.lt_def, BitVec.toNat_setWidth, hleast] at hdeclared
          rw [BitVec.lt_def, BitVec.toNat_setWidth] at hcomplete
          have hlen := packetLen.isLt
          exact atomic_checkPacket (by omega) (by omega) packet _ _

end Parser

end Codec

/--
The codec touches nothing outside its buffers, none of its sums and differences
wraps, and a call that does not return `SP_OK` has written nothing.
-/
theorem codec_inside_buffers (payload : Option Buffer) (payloadLength : BitVec 32)
    (fragFlag payloadType : Byte) (userField : BitVec 16) (outBuffer : Option Buffer)
    (outBufferCap : BitVec 32) (outLength : Option (BitVec 32))
    (packet : Option Buffer) (packetLen : BitVec 32) (outPacket : Option SpParsedPacket) :
    let encoding := Codec.spEncodePacketBuffer payload payloadLength fragFlag payloadType
      userField outBuffer outBufferCap outLength
    let encoded := spEncodePacketBuffer payload payloadLength fragFlag payloadType
      userField outBuffer outBufferCap outLength
    let parsing := Codec.spParsePacket packet packetLen outPacket
    let parsed := spParsePacket packet packetLen outPacket
    encoding.value = encoded ∧ parsing.value = parsed ∧
    encoding.Every (Codec.Inside payloadLength.toNat (payloadLength.toNat + 12)
      (payloadLength.toNat + 12)) ∧
    (encoded.result = .ok -> payloadLength.toNat + 12 <= outBufferCap.toNat) ∧
    (encoded.result ≠ .ok -> encoding.Every CodecEvent.Silent ∧
      encoded.outBuffer = outBuffer ∧ encoded.outLength = outLength) ∧
    parsing.Every (Codec.Inside packetLen.toNat 0 0) ∧
    (parsed.1 = .ok -> Codec.Delivered packet packetLen parsed) ∧
    (parsed.1 ≠ .ok -> parsing.Every CodecEvent.Silent ∧ parsed.2 = outPacket) := by
  intro encoding encoded parsing parsed
  have hencoding : encoding.value = encoded :=
    Codec.value_spEncodePacketBuffer payload payloadLength fragFlag payloadType userField
      outBuffer outBufferCap outLength
  have hparsing : parsing.value = parsed :=
    Codec.value_spParsePacket packet packetLen outPacket
  have hencoder := Codec.atomic_spEncodePacketBuffer payload payloadLength fragFlag
    payloadType userField outBuffer outBufferCap outLength
  have hparser := Codec.atomic_spParsePacket packet packetLen outPacket
  refine ⟨hencoding, hparsing,
    Codec.inside_spEncodePacketBuffer payload payloadLength fragFlag payloadType userField
      outBuffer outBufferCap outLength,
    ?_, ?_, Codec.inside_spParsePacket packet packetLen outPacket, ?_, ?_⟩
  · intro hok
    cases outBuffer with
    | none => cases hok
    | some out =>
        cases outLength with
        | none => cases hok
        | some _ => exact (arguments_of_ok hok).right
  · intro herror
    rw [← hencoding] at herror ⊢
    rcases hencoder with hok | ⟨hkept, hsilent⟩
    · exact absurd hok herror
    · exact ⟨hsilent, hkept.right⟩
  · intro hok
    rw [← hparsing] at hok ⊢
    rcases hparser with hdelivered | ⟨hkept, _⟩
    · exact hdelivered
    · exact absurd hok hkept.left
  · intro herror
    rw [← hparsing] at herror ⊢
    rcases hparser with ⟨_, _, _, hok, _⟩ | ⟨hkept, hsilent⟩
    · exact absurd (congrArg Prod.fst hok) herror
    · exact ⟨hsilent, hkept.right⟩

/-- Two bytes of payload for a buffer of thirteen. -/
theorem codec_inside_buffers_short :
    let encoded := spEncodePacketBuffer (some fun _ => 7#8) 2#32 SP_UNFRAGED 1#8 1#16
      (some fun _ => 0#8) 13#32 (some 0#32)
    encoded.result = .errBufferTooSmall ∧ encoded.outBuffer = some (fun _ => 0#8) ∧
      encoded.outLength = some 0#32 := by
  intro encoded
  have hresult : encoded.result = .errBufferTooSmall := by decide
  rcases codec_inside_buffers (some fun _ => 7#8) 2#32 SP_UNFRAGED 1#8 1#16
    (some fun _ => 0#8) 13#32 (some 0#32) none 0#32 none with
    ⟨_, _, _, _, hatomic, _⟩
  exact ⟨hresult, (hatomic (by rw [hresult]; decide)).right⟩

end ArduOS
