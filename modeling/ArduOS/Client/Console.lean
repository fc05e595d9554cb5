import ArduOS.Client.ReceiveLoop
import ArduOS.HAL.Held

/-!
# The client

`Main.java` around the receive loop: the lines of the user become packets, and the
packets of the device are shown.  The packet library is a parameter, as are the methods of
`String` whose result depends on tables of Unicode.
-/

namespace ArduOS

/-- What the client calls that is not in its source. -/
structure HostLibrary where
  /-- `protocol.toBytes(payload, frag, type, cmd)`; `none` is `null` or an exception. -/
  toBytes : List Byte -> Byte -> Byte -> Int -> Option (List Byte)
  /-- `protocol.parsePacket`: user field and payload, or an exception. -/
  parsePacket : List Byte -> Option (Int × List Byte)
  /-- `new String(payload, UTF_8)`. -/
  newString : List Byte -> List Char
  toLowerCase : List Char -> List Char
  equalsIgnoreCase : List Char -> List Char -> Bool

/-- The library speaks the protocol of the device, in packets the client accepts. -/
structure HostLibrary.Lawful (lib : HostLibrary) : Prop where
  toBytes : forall {fragFlag payloadType : Byte} {userField : BitVec 16}
    {payload : List Byte}, EncoderArguments fragFlag payloadType userField ->
    payload.length + 12 <= 1024 ->
    lib.toBytes payload fragFlag payloadType userField.toNat =
      some (packetBytes fragFlag payloadType userField payload)
  parsePacket : forall {fragFlag payloadType : Byte} {userField : BitVec 16}
    {payload : List Byte}, EncoderArguments fragFlag payloadType userField ->
    payload.length + 12 <= 1024 ->
    lib.parsePacket (packetBytes fragFlag payloadType userField payload) =
      some ((userField.toNat : Int), payload)

namespace Client

abbrev SYS_LS : Int := 1
abbrev SYS_EXEC : Int := 2
abbrev SYS_CHDIR : Int := 3
abbrev SYS_GETCWD : Int := 4
abbrev CMD_STDIN : Int := 100
abbrev CMD_STDOUT : Int := 101
abbrev CMD_STDERR : Int := 102
abbrev PT_NONE : Byte := 0#8
abbrev PT_STRING : Byte := 1#8

/-!
## Strings
-/

/-- `getBytes(UTF_8)`. -/
def getBytes (s : List Char) : List Byte :=
  s.flatMap fun c => (String.utf8EncodeChar c).map UInt8.toBitVec

def trim (s : List Char) : List Char :=
  ((s.dropWhile fun c => c.toNat <= 32).reverse.dropWhile fun c => c.toNat <= 32).reverse

/-- The characters of `\s`. -/
def isSpace (c : Char) : Bool := c.toNat = 32 ∨ 9 <= c.toNat ∧ c.toNat <= 13

/-- `split("\\s+", 2)`; no second part is an empty one. -/
def split (input : List Char) : List Char × List Char :=
  let rest := input.dropWhile fun c => ¬ isSpace c
  (input.takeWhile fun c => ¬ isSpace c, rest.dropWhile fun c => isSpace c)

end Client

/-!
## What is shown
-/

inductive Shown where
  /-- A text of the device, on `System.err` if so marked and on `System.out` otherwise. -/
  | device (error : Bool) (text : List Char)
  /-- A line of the client itself, on `System.out`. -/
  | notice (text : List Char)
  deriving DecidableEq, Repr

/-- The static variables of `Main`, the receiver thread, and what was printed. -/
structure Client where
  isOpen : Bool
  interactiveMode : Bool
  loop : ReceiveLoop
  terminal : List Shown
  deriving DecidableEq, Repr

namespace Client

def connected : Client :=
  { isOpen := true, interactiveMode := false, loop := .initial, terminal := [] }

def print (c : Client) (shown : Shown) : Client :=
  { c with terminal := c.terminal ++ [shown] }

def handlePacket (lib : HostLibrary) (c : Client) (cmd : Int) (payload : List Byte) :
    Client :=
  let payloadStr := lib.newString payload
  if cmd = CMD_STDOUT then c.print (.device false payloadStr)
  else if cmd = CMD_STDERR then c.print (.device true payloadStr)
  else c

/-- A turn of `receiveLoop`; what the library rejects is ignored. -/
def receive (lib : HostLibrary) (c : Client) (read : Option Byte) : Client :=
  if ¬ c.isOpen then c
  else
    let (packetData, loop) := c.loop.turn read
    let c := { c with loop := loop }
    match packetData.bind lib.parsePacket with
    | some (cmd, payload) => handlePacket lib c cmd payload
    | none => c

/-!
## What is typed
-/

structure Request where
  payloadType : Byte
  cmd : Int
  payload : List Byte
  deriving DecidableEq, Repr

/-- What `processInput` does: it may send a packet, change the mode, and print. -/
structure Reaction where
  request : Option Request
  interactiveMode : Bool
  notices : List (List Char)
  deriving DecidableEq, Repr

/-- `processInput` in interactive mode. -/
def processInteractive (lib : HostLibrary) (input : List Char) : Reaction :=
  if lib.equalsIgnoreCase input "exit_shell".toList then
    { request := none
      interactiveMode := false
      notices := ["Exited interactive mode.".toList] }
  else
    { request := some
        { payloadType := PT_STRING, cmd := CMD_STDIN, payload := getBytes (input ++ ['\n']) }
      interactiveMode := true
      notices := [] }

def processLs (arg : List Char) : Reaction :=
  { request := some
      (if arg ≠ [] then
        { payloadType := PT_STRING, cmd := SYS_LS, payload := getBytes arg }
      else { payloadType := PT_NONE, cmd := SYS_LS, payload := [] })
    interactiveMode := false
    notices := [] }

/-- The argument of `exec` with the flag that it may lack. -/
def payloadStr (arg : List Char) : List Char :=
  if ¬ "0 ".toList <+: arg ∧ ¬ "1 ".toList <+: arg then "0 ".toList ++ arg else arg

def processExec (arg : List Char) : Reaction :=
  if arg = [] then
    { request := none
      interactiveMode := false
      notices := ["Usage: exec <filename>".toList] }
  else
    let request : Request :=
      { payloadType := PT_STRING, cmd := SYS_EXEC, payload := getBytes (payloadStr arg) }
    if "shell".toList <:+: payloadStr arg then
      { request := some request
        interactiveMode := true
        notices := ["Entering interactive mode. Type 'exit_shell' to quit.".toList] }
    else { request := some request, interactiveMode := false, notices := [] }

def processCd (arg : List Char) : Reaction :=
  if arg = [] then
    { request := none, interactiveMode := false, notices := ["Usage: cd <path>".toList] }
  else
    { request := some { payloadType := PT_STRING, cmd := SYS_CHDIR, payload := getBytes arg }
      interactiveMode := false
      notices := [] }

def processInput (lib : HostLibrary) (interactiveMode : Bool) (input : List Char) :
    Reaction :=
  if interactiveMode then processInteractive lib input
  else
    let (cmd, arg) := split input
    let cmd := lib.toLowerCase cmd
    if cmd = "ping".toList then
      { request := none, interactiveMode := false, notices := [] }
    else if cmd = "ls".toList then processLs arg
    else if cmd = "exec".toList ∨ cmd = "run".toList then processExec arg
    else if cmd = "cd".toList then processCd arg
    else if cmd = "pwd".toList then
      { request := some { payloadType := PT_NONE, cmd := SYS_GETCWD, payload := [] }
        interactiveMode := false
        notices := [] }
    else
      { request := none
        interactiveMode := false
        notices := ["Unknown command. (Try: ls, exec, cd, pwd, exit)".toList] }

/-- A line in the loop of `main`, and the packet that is to be sent for it. -/
def typed (lib : HostLibrary) (c : Client) (line : List Char) : Client × Option Request :=
  if ¬ c.isOpen then (c, none)
  else
    let input := trim line
    if lib.equalsIgnoreCase input "exit".toList then
      ({ c with isOpen := false }.print (.notice "Disconnected.".toList), none)
    else if input = [] then (c, none)
    else
      let reaction := processInput lib c.interactiveMode input
      ({ c with
          interactiveMode := reaction.interactiveMode
          terminal := c.terminal ++ reaction.notices.map .notice },
        reaction.request)

def written (lib : HostLibrary) (request : Option Request) : List Byte :=
  (request.bind fun r => lib.toBytes r.payload SP_UNFRAGED r.payloadType r.cmd).getD []

end Client

/-!
## A client for ASCII
-/

namespace HostLibrary

/-- The packet library as the device has it, and strings of ASCII characters. -/
def ascii : HostLibrary where
  toBytes payload fragFlag payloadType cmd :=
    some (packetBytes fragFlag payloadType (BitVec.ofInt 16 cmd) payload)
  parsePacket packetData :=
    match halVerdict packetData with
    | .accept content => some (content.1.toNat, content.2)
    | _ => none
  newString payload := payload.map fun b => Char.ofNat b.toNat
  toLowerCase s := s.map Char.toLower
  equalsIgnoreCase s s' := s.map Char.toLower = s'.map Char.toLower

theorem halVerdict_packet {fragFlag payloadType : Byte} {userField : BitVec 16}
    {payload : List Byte} (hargs : EncoderArguments fragFlag payloadType userField)
    (hfit : payload.length + 12 <= 1024) :
    halVerdict (packetBytes fragFlag payloadType userField payload) =
      .accept (userField, payload) := by
  have hstart : StartsWith (bufferOf (packetBytes fragFlag payloadType userField payload))
      (packetBytes fragFlag payloadType userField payload) := fun i _ => rfl
  have hdeclared : declaredLength
      (bufferOf (packetBytes fragFlag payloadType userField payload)) =
        payload.length + 12 :=
    declaredLength_packet hargs (by omega) (n := 8) (by omega) fun i _ => rfl
  have hlength : (packetBytes fragFlag payloadType userField payload).length =
      payload.length + 12 := length_packetBytes
  have hreport := parsedPacket_reports hargs (by omega) hstart
  rw [halVerdict_decided (by omega), hdeclared,
    if_pos (checksumMatches_packet (by omega) hstart)]
  unfold packetContent
  rw [hreport.user, hdeclared, Nat.add_sub_cancel, hreport.bytes]

theorem ascii_lawful : ascii.Lawful := by
  constructor
  · intro fragFlag payloadType userField payload _ _
    have hback : BitVec.ofInt 16 (userField.toNat : Int) = userField := by
      rw [BitVec.ofInt_natCast, BitVec.ofNat_toNat, BitVec.setWidth_eq]
    show some (packetBytes fragFlag payloadType (BitVec.ofInt 16 userField.toNat) payload) = _
    rw [hback]
  · intro fragFlag payloadType userField payload hargs hfit
    show (match halVerdict (packetBytes fragFlag payloadType userField payload) with
      | .accept content => some ((content.1.toNat : Int), content.2)
      | _ => none) = _
    rw [halVerdict_packet hargs hfit]

end HostLibrary
end ArduOS
