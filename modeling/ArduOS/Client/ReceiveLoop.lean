import ArduOS.StreamProtocol.RoundTrip

/-!
# The receive loop of the host

`receiveLoop` of `Main.java`: a thread that collects the bytes of the serial
port and hands blocks of them to the packet parser.  A Java `byte` is signed, a
`long` has 64 bits.
-/

namespace ArduOS

/-- The two values of the variable `state`. -/
inductive ReceiveState where
  /-- `0`: the header is not complete. -/
  | header
  /-- `1`: the body is being read. -/
  | body
  deriving DecidableEq, Repr

/-- The local variables of `receiveLoop`. -/
structure ReceiveLoop where
  tempBuffer : List Byte
  state : ReceiveState
  expectedLen : BitVec 64
  deriving DecidableEq, Repr

namespace ReceiveLoop

def initial : ReceiveLoop :=
  { tempBuffer := [], state := .header, expectedLen := 0#64 }

/-- `tempBuffer.get(i) & 0xFFL`. -/
def unsignedByte (tempBuffer : List Byte) (i : Nat) : BitVec 64 :=
  (bufferOf tempBuffer i).signExtend 64 &&& 0xFF#64

def headerValue (tempBuffer : List Byte) : BitVec 64 :=
  let headerLow := unsignedByte tempBuffer 0 ||| unsignedByte tempBuffer 1 <<< 8 |||
    unsignedByte tempBuffer 2 <<< 16 ||| unsignedByte tempBuffer 3 <<< 24
  let headerHigh := unsignedByte tempBuffer 4 ||| unsignedByte tempBuffer 5 <<< 8 |||
    unsignedByte tempBuffer 6 <<< 16 ||| unsignedByte tempBuffer 7 <<< 24
  headerLow ||| headerHigh <<< 32

/-- The length field; `>>` keeps the sign. -/
def headerLength (tempBuffer : List Byte) : BitVec 64 :=
  (headerValue tempBuffer).sshiftRight 4 &&& 0x1FFFFFFFFFFF#64

/--
One turn of the loop with bytes available: the byte that was read, if any was,
and the block handed to `parsePacket`, if any is.
-/
def turn (c : ReceiveLoop) (read : Option Byte) : Option (List Byte) × ReceiveLoop :=
  let c := { c with tempBuffer := c.tempBuffer ++ read.toList }
  match c.state with
  | .header =>
      if c.tempBuffer.length >= 8 then
        let expectedLen := headerLength c.tempBuffer
        let c := { c with expectedLen := expectedLen }
        if expectedLen.toInt > 1024 ∨ expectedLen.toInt < 8 then
          (none, { c with tempBuffer := c.tempBuffer.drop 1 })
        else (none, { c with state := .body })
      else (none, c)
  | .body =>
      if (c.tempBuffer.length : Int) >= c.expectedLen.toInt then
        let len := c.expectedLen.toInt.toNat
        (some (c.tempBuffer.take len),
          { tempBuffer := c.tempBuffer.drop len
            state := .header
            expectedLen := 0#64 })
      else (none, c)

/-- The blocks handed to `parsePacket`, and the variables afterwards. -/
def run : ReceiveLoop -> List (Option Byte) -> List (List Byte) × ReceiveLoop
  | c, [] => ([], c)
  | c, read :: reads =>
      let (block, c) := c.turn read
      let (blocks, c) := c.run reads
      (block.toList ++ blocks, c)

end ReceiveLoop
end ArduOS
