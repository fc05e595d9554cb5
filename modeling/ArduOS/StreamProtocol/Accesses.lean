import ArduOS.Library.Traced
import ArduOS.StreamProtocol.Codec

/-!
# What the codec touches

The codec once more, with a trace: every element of a buffer that is read or
written, every sum and every difference.  Erasing the trace gives the functions
of `Codec`.
-/

namespace ArduOS

open Library Traced

inductive CodecEvent where
  /-- `payload[index]` or `packet[index]` is read. -/
  | input (index : Nat)
  /-- `out_buffer[index]` is read, for the checksum. -/
  | fetch (index : Nat)
  /-- `out_buffer[index]` is written. -/
  | store (index : Nat)
  /-- `*out_length` is written. -/
  | setLength
  /-- `*out_packet` is written. -/
  | setPacket
  /-- A sum of `w` bits. -/
  | sum (w : Nat) (a b : BitVec w)
  /-- A difference of `w` bits. -/
  | difference (w : Nat) (a b : BitVec w)

namespace CodecEvent

def Silent : CodecEvent -> Prop
  | .store _ => False
  | .setLength => False
  | .setPacket => False
  | _ => True

end CodecEvent

abbrev Codec (α : Type) : Type := Traced CodecEvent α

namespace Codec

def add {w : Nat} (a b : BitVec w) : Codec (BitVec w) := emit (.sum w a b) (a + b)

def sub {w : Nat} (a b : BitVec w) : Codec (BitVec w) :=
  emit (.difference w a b) (a - b)

def input (data : Buffer) (index : Nat) : Codec Byte := emit (.input index) (data index)

def fetch (out : Buffer) (index : Nat) : Codec Byte := emit (.fetch index) (out index)

def store (out : Buffer) (index : Nat) (b : Byte) : Codec Buffer :=
  emit (.store index) (Function.update out index b)

/-- `for (uint32_t i = 0; i < length; ++i)`. -/
def count {σ : Type} (length : BitVec 32) (body : Nat -> σ -> Codec σ) (s : σ) :
    Codec σ :=
  loop length.toNat (fun i s => do
    let s <- body i s
    let _ <- add (BitVec.ofNat 32 i) 1#32
    pure s) s

/-- `read` is the kind of access by which the data is read. -/
def spCrc32 (read : Buffer -> Nat -> Codec Byte) (data : Buffer) (length : BitVec 32) :
    Codec (BitVec 32) := do
  let crc <- count length (fun i crc => do
    let b <- read data i
    pure (spCrc32Byte crc b)) 0xFFFFFFFF#32
  pure (~~~ crc)

/-!
## Encoder
-/

def spWriteHeader (headerValue : BitVec 64) (out : Buffer) : Codec Buffer :=
  count SP_HEADER_SIZE (fun i out =>
    store out i (((headerValue >>> (i * 8)) &&& 0xFF#64).setWidth 8)) out

def spWritePayload (payload : Buffer) (payloadLength : BitVec 32) (out : Buffer) :
    Codec Buffer :=
  count payloadLength (fun i out => do
    let index <- add SP_HEADER_SIZE (BitVec.ofNat 32 i)
    let b <- input payload i
    store out index.toNat b) out

def spCopyPayload (payload : Option Buffer) (payloadLength : BitVec 32) (out : Buffer) :
    Codec Buffer :=
  match payload with
  | some payload =>
      if payloadLength > 0#32 then spWritePayload payload payloadLength out else pure out
  | none => pure out

/-- `out_buffer[crc_offset + i]` gets byte `i` of the checksum. -/
def writeCrcByte (crc crcOffset i : BitVec 32) (out : Buffer) : Codec Buffer := do
  let index <- add crcOffset i
  store out index.toNat (((crc >>> (8 * i.toNat)) &&& 0xFF#32).setWidth 8)

def spWriteCrc (crc crcOffset : BitVec 32) (out : Buffer) : Codec Buffer := do
  let out <- writeCrcByte crc crcOffset 0#32 out
  let out <- writeCrcByte crc crcOffset 1#32 out
  let out <- writeCrcByte crc crcOffset 2#32 out
  writeCrcByte crc crcOffset 3#32 out

/-- What happens once the arguments and the length have passed the checks. -/
def writePacket (payload : Option Buffer) (payloadLength : BitVec 32)
    (fragFlag payloadType : Byte) (userField : BitVec 16) (out : Buffer)
    (totalLen64 : BitVec 64) : Codec SpEncoded := do
  let totalLen : BitVec 32 := totalLen64.setWidth 32
  let headerValue := spHeaderValue totalLen64 fragFlag payloadType userField
  let out <- spWriteHeader headerValue out
  let out <- spCopyPayload payload payloadLength out
  let covered <- add SP_HEADER_SIZE payloadLength
  let crc <- spCrc32 fetch out covered
  let crcOffset <- sub totalLen 4#32
  let out <- spWriteCrc crc crcOffset out
  let _ <- emit .setLength ()
  pure { result := .ok, outBuffer := some out, outLength := some totalLen }

def spEncodePacketBuffer (payload : Option Buffer) (payloadLength : BitVec 32)
    (fragFlag payloadType : Byte) (userField : BitVec 16)
    (outBuffer : Option Buffer) (outBufferCap : BitVec 32)
    (outLength : Option (BitVec 32)) : Codec SpEncoded :=
  let fail (result : SpResult) : Codec SpEncoded :=
    pure { result := result, outBuffer := outBuffer, outLength := outLength }
  match outBuffer, outLength with
  | some out, some _ =>
      if payload.isNone ∧ payloadLength > 0#32 then fail .errInvalidArgument
      else if fragFlag ≠ SP_FRAGED ∧ fragFlag ≠ SP_UNFRAGED then
        fail .errInvalidArgument
      else if payloadType > 0x0F#8 then fail .errInvalidArgument
      else if userField > 0x3FF#16 then fail .errInvalidArgument
      else do
        let withHeader <- add (SP_HEADER_SIZE.setWidth 64) (payloadLength.setWidth 64)
        let totalLen64 <- add withHeader 4#64
        if totalLen64 > outBufferCap.setWidth 64 then fail .errBufferTooSmall
        else if totalLen64 > SP_MAX_HEADER_LENGTH_VALUE then
          fail .errPayloadTooLarge
        else writePacket payload payloadLength fragFlag payloadType userField out totalLen64
  | _, _ => fail .errInvalidArgument

/-!
## Parser
-/

def spReadHeader (packet : Buffer) : Codec (BitVec 64) :=
  count SP_HEADER_SIZE (fun i headerValue => do
    let b <- input packet i
    pure (headerValue ||| (b.setWidth 64 <<< (i * 8)))) 0#64

/-- `received_crc |= packet[crc_offset + i] << 8 * i`. -/
def readCrcByte (packet : Buffer) (crcOffset i receivedCrc : BitVec 32) :
    Codec (BitVec 32) := do
  let index <- add crcOffset i
  let b <- input packet index.toNat
  pure (receivedCrc ||| (b.setWidth 32 <<< (8 * i.toNat)))

def spReadCrc (packet : Buffer) (crcOffset : BitVec 32) : Codec (BitVec 32) := do
  let receivedCrc <- readCrcByte packet crcOffset 0#32 0#32
  let receivedCrc <- readCrcByte packet crcOffset 1#32 receivedCrc
  let receivedCrc <- readCrcByte packet crcOffset 2#32 receivedCrc
  readCrcByte packet crcOffset 3#32 receivedCrc

/-- What happens once the length has passed the checks. -/
def checkPacket (packet : Buffer) (outPacket : Option SpParsedPacket)
    (headerValue packetLength64 : BitVec 64) : Codec (SpResult × Option SpParsedPacket) := do
  let packetLength : BitVec 32 := packetLength64.setWidth 32
  let crcOffset <- sub packetLength 4#32
  let receivedCrc <- spReadCrc packet crcOffset
  let covered <- sub packetLength 4#32
  let computedCrc <- spCrc32 input packet covered
  if computedCrc ≠ receivedCrc then pure (.errCrcMismatch, outPacket)
  else do
    let withoutHeader <- sub packetLength SP_HEADER_SIZE
    let payloadLength <- sub withoutHeader 4#32
    let _ <- emit .setPacket ()
    pure (.ok, some
      { protocolVersion := ((headerValue >>> 0) &&& 0x0F#64).setWidth 8
        packetLength := packetLength64
        fragmentFlag := ((headerValue >>> 49) &&& 0x01#64).setWidth 8
        payloadType := ((headerValue >>> 50) &&& 0x0F#64).setWidth 8
        userField := ((headerValue >>> 54) &&& 0x3FF#64).setWidth 16
        payload := fun i => packet (SP_HEADER_SIZE.toNat + i)
        payloadLength := payloadLength })

def spParsePacket (packet : Option Buffer) (packetLen : BitVec 32)
    (outPacket : Option SpParsedPacket) : Codec (SpResult × Option SpParsedPacket) :=
  match packet, outPacket with
  | some packet, some _ => do
      let least <- add SP_HEADER_SIZE 4#32
      if packetLen < least then pure (.errBufferTooSmall, outPacket)
      else do
        let headerValue <- spReadHeader packet
        let packetLength64 := spPacketLength64 headerValue
        let least <- add SP_HEADER_SIZE 4#32
        if packetLength64 < least.setWidth 64 then pure (.errBufferTooSmall, outPacket)
        else if packetLen.setWidth 64 < packetLength64 then
          pure (.errBufferTooSmall, outPacket)
        else checkPacket packet outPacket headerValue packetLength64
  | _, _ => pure (.errInvalidArgument, outPacket)

end Codec
end ArduOS
