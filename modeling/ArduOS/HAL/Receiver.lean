import ArduOS.StreamProtocol.Codec

/-!
# The serial receiver

The receiving half of `HAL.cpp`: the raw buffer the serial bytes are collected
in, the one packet slot the consumers share, and the two ways to consume it.
-/

namespace ArduOS

/-- The static variables of the receiver, and the bytes waiting in `Serial`. -/
structure Hal where
  rawBuffer : Buffer
  rawIndex : Nat
  pktPayload : Buffer
  pktLen : Nat
  pktCmd : BitVec 16
  pktReadPos : Nat
  pktReady : Bool
  serial : List Byte

namespace Hal

/-- The static variables before `setup` runs. -/
def reset : Hal :=
  { rawBuffer := fun _ => 0#8
    rawIndex := 0
    pktPayload := fun _ => 0#8
    pktLen := 0
    pktCmd := 0#16
    pktReadPos := 0
    pktReady := false
    serial := [] }

/-- `HAL_init`; `Serial.begin` starts with nothing received. -/
def init (h : Hal) : Hal :=
  { h with rawIndex := 0, pktReady := false, serial := [] }

/-- Bytes that reach the serial port. -/
def arrive (h : Hal) (bytes : List Byte) : Hal :=
  { h with serial := h.serial ++ bytes }

/-- The `SP_OK` branch: hand the packet over and move what follows it forward. -/
def packetDone (h : Hal) (packet : SpParsedPacket) : Hal :=
  let pktLen := packet.payloadLength.toNat
  let pktLen := if pktLen > 255 then 255 else pktLen
  let h :=
    { h with
      pktCmd := packet.userField
      pktLen := pktLen
      pktPayload := fun i => if i < pktLen then packet.payload i else h.pktPayload i
      pktReadPos := 0
      pktReady := true }
  let consumed := packet.packetLength.toNat % 2 ^ 32
  if h.rawIndex > consumed then
    let remaining := h.rawIndex - consumed
    { h with
      rawBuffer := fun i =>
        if i < remaining then h.rawBuffer (consumed + i) else h.rawBuffer i
      rawIndex := remaining }
  else { h with rawIndex := 0 }

/-- One turn of the loop of `process_serial`, for the byte `b`. -/
def receiveByte (h : Hal) (b : Byte) : Hal :=
  let h := if h.rawIndex >= HAL_RX_RAW_SIZE then { h with rawIndex := 0 } else h
  let h :=
    { h with
      rawBuffer := Function.update h.rawBuffer h.rawIndex b
      rawIndex := h.rawIndex + 1 }
  if h.rawIndex >= (SP_HEADER_SIZE + 4#32).toNat then
    match spParsePacket (some h.rawBuffer) (BitVec.ofNat 32 h.rawIndex)
        (some default) with
    | (.ok, some packet) => h.packetDone packet
    | (.errBufferTooSmall, _) => h
    | _ => { h with rawIndex := 0 }
  else h

/-- The loop of `process_serial`; it returns as soon as a packet is complete. -/
def processLoop : Hal -> List Byte -> Hal
  | h, [] => { h with serial := [] }
  | h, b :: rest =>
      if (h.receiveByte b).pktReady then
        { h.receiveByte b with serial := rest }
      else processLoop (h.receiveByte b) rest

def processSerial (h : Hal) : Hal :=
  if h.pktReady then h else processLoop h h.serial

/-- `HAL_read`: one payload byte, or `-1`. -/
def read (h : Hal) (fd : Int) : Int × Hal :=
  if fd = FD_STDIN then
    let h := h.processSerial
    if h.pktReady then
      if h.pktReadPos < h.pktLen then
        (ofByte (h.pktPayload h.pktReadPos), { h with pktReadPos := h.pktReadPos + 1 })
      else (-1, { h with pktReady := false })
    else (-1, h)
  else (-1, h)

/-- What a call of `HAL_readPacket` returns and leaves in its out parameters. -/
structure PacketRead where
  result : Int
  cmdOut : BitVec 16
  payloadOut : Buffer

def readPacket (h : Hal) (cmdOut : BitVec 16) (payloadOut : Buffer) (maxLen : Nat) :
    PacketRead × Hal :=
  let h := h.processSerial
  if h.pktReady then
    let len := if h.pktLen > maxLen then maxLen else h.pktLen
    ({ result := len
       cmdOut := h.pktCmd
       payloadOut := fun i => if i < len then h.pktPayload i else payloadOut i },
      { h with pktReady := false, pktReadPos := 0 })
  else ({ result := -1, cmdOut := cmdOut, payloadOut := payloadOut }, h)

end Hal
end ArduOS
