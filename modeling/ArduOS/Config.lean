import Mathlib.Data.BitVec

/-!
# Configuration

The constants of `OSConfig.h`, `Task.h`, `Protocol.h` and `HAL.cpp`, the opcode
table, and the machine types shared by the whole model.  The target is an
ATmega2560: `int` has 16 bits, `unsigned long` 32, and `char` is signed.
-/

namespace ArduOS

abbrev Byte := BitVec 8

/-- An array reached through a `uint8_t*`. -/
abbrev Buffer := Nat -> Byte

abbrev TASK_COUNT : Nat := 3
abbrev CODE_BUFFER_SIZE : Nat := 32
abbrev VM_STACK_SIZE : Nat := 64
abbrev GLOBAL_HEAP_SIZE : Nat := 1024
abbrev MAX_ALLOCATIONS : Nat := 4
abbrev HAL_RX_RAW_SIZE : Nat := 256
abbrev RX_BUFFER_SIZE : Nat := 256

instance : NeZero TASK_COUNT := ⟨by decide⟩

instance : NeZero MAX_ALLOCATIONS := ⟨by decide⟩

/-- A slot of `tasks[]`: what the source passes as a `Task*` or a task id. -/
abbrev TaskId := Fin TASK_COUNT

abbrev FD_STDIN : Int := 0
abbrev FD_STDOUT : Int := 1
abbrev FD_STDERR : Int := 2

/-- `PT_STRING` of `Protocol.h`. -/
abbrev PT_STRING : Byte := 1#8

abbrev SYS_LS : BitVec 16 := 1#16
abbrev SYS_EXEC : BitVec 16 := 2#16
abbrev SYS_CHDIR : BitVec 16 := 3#16
abbrev SYS_GETCWD : BitVec 16 := 4#16
abbrev CMD_STDIN : BitVec 16 := 100#16
abbrev CMD_STDOUT : BitVec 16 := 101#16
abbrev CMD_STDERR : BitVec 16 := 102#16

/-!
## Opcodes
-/

inductive VMOpcode where
  | exit | print | read | prtc | prte | prts
  | push | add | sub | eq | dup | pop
  | jmp | jif
  | sys
  | pinMode | dWrite | sleep
  | malloc | load | store
  deriving DecidableEq, Repr

/-- The opcode a byte stands for in the `switch` of `VM_runStep`, if any. -/
def VMOpcode.ofByte? (b : Byte) : Option VMOpcode :=
  match b.toNat with
  | 0x00 => some .exit
  | 0x01 => some .print
  | 0x02 => some .read
  | 0x03 => some .prtc
  | 0x04 => some .prte
  | 0x05 => some .prts
  | 0x10 => some .push
  | 0x11 => some .add
  | 0x12 => some .sub
  | 0x13 => some .eq
  | 0x14 => some .dup
  | 0x15 => some .pop
  | 0x20 => some .jmp
  | 0x21 => some .jif
  | 0x30 => some .sys
  | 0x40 => some .pinMode
  | 0x41 => some .dWrite
  | 0x42 => some .sleep
  | 0x50 => some .malloc
  | 0x51 => some .load
  | 0x52 => some .store
  | _ => none

/-!
## Machine integers and strings
-/

/-- The value an `int` expression takes: 16 bits, two's complement. -/
def int16 (x : Int) : Int := (x + 32768) % 65536 - 32768

theorem int16_eq_self {x : Int} (hlo : -32768 <= x) (hhi : x < 32768) :
    int16 x = x := by
  unfold int16
  omega

/-- `(char)val` of an `int`. -/
def toChar (val : Int) : Byte := BitVec.ofInt 8 val

/-- A `char` promoted to `int`. -/
def ofChar (c : Byte) : Int := c.toInt

/-- A `uint8_t` promoted to `int`. -/
def ofByte (b : Byte) : Int := b.toNat

/-- The C string in a `char` array with the given contents. -/
def cString (chars : List Byte) : List Byte := chars.takeWhile (fun c => c != 0#8)

/-- A character literal. -/
def ascii (c : Char) : Byte := BitVec.ofNat 8 c.toNat

/-- The bytes of a string literal. -/
def text (s : String) : List Byte := s.toList.map ascii

end ArduOS
