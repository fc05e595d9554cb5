import ArduOS.Kernel.Scheduler
import ArduOS.HAL.Delivery

/-!
# A card in memory

An SD card given by its files and directories, on which as many opens succeed
as one likes: the concrete cards that examples of runs are about.
-/

namespace ArduOS

structure CardImage where
  files : List (List Byte × List Byte)
  directories : List (List Byte × List (List Byte × Bool))
  /-- After this many opens the card is out of the slot. -/
  opensLeft : Nat

structure ImageFile where
  data : List Byte
  pos : Nat
  listing : Option (List (List Byte × Bool))

namespace CardImage

def find (card : CardImage) (path : List Byte) : Option ImageFile :=
  match card.files.lookup path with
  | some data => some { data := data, pos := 0, listing := none }
  | none =>
      (card.directories.lookup path).map fun entries =>
        { data := [], pos := 0, listing := some entries }

/-- `SdFat` on such a card. -/
def sdFat : SdFat where
  Card := CardImage
  File := ImageFile
  initCard card := (true, card)
  openPath card path :=
    match card.opensLeft with
    | 0 => (none, card)
    | n + 1 => (card.find path, { card with opensLeft := n })
  read card file n :=
    let bytes := (file.data.drop file.pos).take n
    ((true, bytes), { file with pos := file.pos + bytes.length }, card)
  available file := file.pos < file.data.length
  curPosition file := BitVec.ofNat 32 file.pos
  seek card file pos :=
    if pos.toNat <= file.data.length then ({ file with pos := pos.toNat }, card)
    else (file, card)
  isDirectory file := file.listing.isSome
  entries card file := (file.listing.getD [], card)

/-- A card with one program under the name `p`, and the root directory. -/
def ofProgram (heapSize : Byte) (code : List Byte) (opensLeft : Nat) : CardImage :=
  { files := [(text "p", [0xAD#8, 0x01#8, heapSize, 0x00#8] ++ code)]
    directories := [(text "/", [(text "p", false)])]
    opensLeft := opensLeft }

end CardImage

/-- The host asks for the program `p` to be run in the background. -/
def runRequest : SentPacket :=
  sentPacket SP_UNFRAGED PT_STRING SYS_EXEC (text "0 p")
    execArguments (by decide)

/-- The host asks for the program `p`, and for the daemon to wait for it. -/
def runAndWaitRequest : SentPacket :=
  sentPacket SP_UNFRAGED PT_STRING SYS_EXEC (text "1 p")
    execArguments (by decide)

end ArduOS
