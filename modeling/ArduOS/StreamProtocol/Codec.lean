import ArduOS.Config
import ArduOS.Library.Loops

/-!
# The packet codec

`StreamProtocol.cpp`: the checksum, the encoder and the parser.  A pointer
argument is an `Option`, `none` standing for `NULL`; lengths keep their 32 and
64 bit types.
-/

namespace ArduOS

open Library

inductive SpResult where
  | ok
  | errBufferTooSmall
  | errPayloadTooLarge
  | errInvalidArgument
  | errLengthMismatch
  | errCrcMismatch
  deriving DecidableEq, Repr

abbrev SP_HEADER_SIZE : BitVec 32 := 8#32
abbrev SP_FRAGED : Byte := 1#8
abbrev SP_UNFRAGED : Byte := 0#8
abbrev SP_MAX_HEADER_LENGTH_VALUE : BitVec 64 := 0x1FFFFFFFFFFF#64

/-- `sp_parsed_packet_t`; `payload` is the pointer into the parsed buffer. -/
structure SpParsedPacket where
  protocolVersion : Byte
  packetLength : BitVec 64
  fragmentFlag : Byte
  payloadType : Byte
  userField : BitVec 16
  payload : Buffer
  payloadLength : BitVec 32
  deriving Inhabited

/-!
## Checksum
-/

def spCrc32Bit (crc : BitVec 32) : BitVec 32 :=
  let mask := 0#32 - (crc &&& 1#32)
  (crc >>> 1) ^^^ (0xEDB88320#32 &&& mask)

def spCrc32Byte (crc : BitVec 32) (b : Byte) : BitVec 32 :=
  forLoop 8 (fun _ crc => spCrc32Bit crc) (crc ^^^ b.setWidth 32)

def spCrc32 (data : Buffer) (length : BitVec 32) : BitVec 32 :=
  ~~~ forLoop length.toNat (fun i crc => spCrc32Byte crc (data i)) 0xFFFFFFFF#32

/-!
## Encoder
-/

/-- What a call of `sp_encode_packet_buffer` leaves behind. -/
structure SpEncoded where
  result : SpResult
  outBuffer : Option Buffer
  outLength : Option (BitVec 32)

def spHeaderValue (totalLen64 : BitVec 64) (fragFlag payloadType : Byte)
    (userField : BitVec 16) : BitVec 64 :=
  let protocolVersion : Byte := 1#8
  let headerValue := 0#64
  let headerValue := headerValue |||
    ((protocolVersion.setWidth 64 &&& 0x0F#64) <<< 0)
  let headerValue := headerValue ||| ((totalLen64 &&& 0x1FFFFFFFFFFF#64) <<< 4)
  let headerValue := headerValue ||| ((fragFlag.setWidth 64 &&& 0x01#64) <<< 49)
  let headerValue := headerValue |||
    ((payloadType.setWidth 64 &&& 0x0F#64) <<< 50)
  headerValue ||| ((userField.setWidth 64 &&& 0x3FF#64) <<< 54)

def spWriteHeader (headerValue : BitVec 64) (out : Buffer) : Buffer :=
  forLoop SP_HEADER_SIZE.toNat (fun i out =>
    Function.update out i (((headerValue >>> (i * 8)) &&& 0xFF#64).setWidth 8)) out

def spWritePayload (payload : Buffer) (payloadLength : BitVec 32)
    (out : Buffer) : Buffer :=
  forLoop payloadLength.toNat (fun i out =>
    Function.update out (SP_HEADER_SIZE + BitVec.ofNat 32 i).toNat (payload i)) out

/-- The guarded copy: skipped for an empty payload, whose pointer may be null. -/
def spCopyPayload (payload : Option Buffer) (payloadLength : BitVec 32)
    (out : Buffer) : Buffer :=
  match payload with
  | some payload =>
      if payloadLength > 0#32 then spWritePayload payload payloadLength out else out
  | none => out

def spWriteCrc (crc crcOffset : BitVec 32) (out : Buffer) : Buffer :=
  let out := Function.update out (crcOffset + 0#32).toNat
    (((crc >>> 0) &&& 0xFF#32).setWidth 8)
  let out := Function.update out (crcOffset + 1#32).toNat
    (((crc >>> 8) &&& 0xFF#32).setWidth 8)
  let out := Function.update out (crcOffset + 2#32).toNat
    (((crc >>> 16) &&& 0xFF#32).setWidth 8)
  Function.update out (crcOffset + 3#32).toNat
    (((crc >>> 24) &&& 0xFF#32).setWidth 8)

def spEncodePacketBuffer (payload : Option Buffer) (payloadLength : BitVec 32)
    (fragFlag payloadType : Byte) (userField : BitVec 16)
    (outBuffer : Option Buffer) (outBufferCap : BitVec 32)
    (outLength : Option (BitVec 32)) : SpEncoded :=
  let fail (result : SpResult) : SpEncoded :=
    { result := result, outBuffer := outBuffer, outLength := outLength }
  match outBuffer, outLength with
  | some out, some _ =>
      if payload.isNone ∧ payloadLength > 0#32 then fail .errInvalidArgument
      else if fragFlag ≠ SP_FRAGED ∧ fragFlag ≠ SP_UNFRAGED then
        fail .errInvalidArgument
      else if payloadType > 0x0F#8 then fail .errInvalidArgument
      else if userField > 0x3FF#16 then fail .errInvalidArgument
      else
        let totalLen64 : BitVec 64 :=
          SP_HEADER_SIZE.setWidth 64 + payloadLength.setWidth 64 + 4#64
        if totalLen64 > outBufferCap.setWidth 64 then fail .errBufferTooSmall
        else if totalLen64 > SP_MAX_HEADER_LENGTH_VALUE then
          fail .errPayloadTooLarge
        else
          let totalLen : BitVec 32 := totalLen64.setWidth 32
          let headerValue := spHeaderValue totalLen64 fragFlag payloadType userField
          let out := spWriteHeader headerValue out
          let out := spCopyPayload payload payloadLength out
          let crc := spCrc32 out (SP_HEADER_SIZE + payloadLength)
          let crcOffset := totalLen - 4#32
          { result := .ok
            outBuffer := some (spWriteCrc crc crcOffset out)
            outLength := some totalLen }
  | _, _ => fail .errInvalidArgument

/-!
## Parser
-/

def spReadHeader (packet : Buffer) : BitVec 64 :=
  forLoop SP_HEADER_SIZE.toNat (fun i headerValue =>
    headerValue ||| ((packet i).setWidth 64 <<< (i * 8))) 0#64

def spReadCrc (packet : Buffer) (crcOffset : BitVec 32) : BitVec 32 :=
  let receivedCrc := 0#32
  let receivedCrc := receivedCrc |||
    ((packet (crcOffset + 0#32).toNat).setWidth 32 <<< 0)
  let receivedCrc := receivedCrc |||
    ((packet (crcOffset + 1#32).toNat).setWidth 32 <<< 8)
  let receivedCrc := receivedCrc |||
    ((packet (crcOffset + 2#32).toNat).setWidth 32 <<< 16)
  receivedCrc ||| ((packet (crcOffset + 3#32).toNat).setWidth 32 <<< 24)

/-- The 45 bit length field of a header. -/
def spPacketLength64 (headerValue : BitVec 64) : BitVec 64 :=
  (headerValue >>> 4) &&& 0x1FFFFFFFFFFF#64

/-- The result code and `*out_packet`, which only a successful call writes. -/
def spParsePacket (packet : Option Buffer) (packetLen : BitVec 32)
    (outPacket : Option SpParsedPacket) : SpResult × Option SpParsedPacket :=
  match packet, outPacket with
  | some packet, some _ =>
      if packetLen < SP_HEADER_SIZE + 4#32 then (.errBufferTooSmall, outPacket)
      else
        let headerValue := spReadHeader packet
        let protoVersion : Byte := ((headerValue >>> 0) &&& 0x0F#64).setWidth 8
        let packetLength64 := spPacketLength64 headerValue
        let fragmentFlag : Byte := ((headerValue >>> 49) &&& 0x01#64).setWidth 8
        let payloadType : Byte := ((headerValue >>> 50) &&& 0x0F#64).setWidth 8
        let userField : BitVec 16 := ((headerValue >>> 54) &&& 0x3FF#64).setWidth 16
        if packetLength64 < (SP_HEADER_SIZE + 4#32).setWidth 64 then
          (.errBufferTooSmall, outPacket)
        else if packetLen.setWidth 64 < packetLength64 then
          (.errBufferTooSmall, outPacket)
        else
          let packetLength : BitVec 32 := packetLength64.setWidth 32
          let crcOffset := packetLength - 4#32
          let receivedCrc := spReadCrc packet crcOffset
          let computedCrc := spCrc32 packet (packetLength - 4#32)
          if computedCrc ≠ receivedCrc then (.errCrcMismatch, outPacket)
          else
            (.ok, some
              { protocolVersion := protoVersion
                packetLength := packetLength64
                fragmentFlag := fragmentFlag
                payloadType := payloadType
                userField := userField
                payload := fun i => packet (SP_HEADER_SIZE.toNat + i)
                payloadLength := packetLength - SP_HEADER_SIZE - 4#32 })
  | _, _ => (.errInvalidArgument, outPacket)

end ArduOS
