import ArduOS.Config
import Mathlib.Data.List.DropRight

/-!
# The assembler

`assemble` of `vmtools.py`: a first pass over the lines for instructions, labels
and the heap size, and a second one that emits the bytes.
-/

namespace ArduOS

/-- What the string functions of Python take from the Unicode tables. -/
structure Unicode where
  /-- `c.isspace()`. -/
  isSpace : Char -> Bool
  /-- `c.upper()`, which may be several characters. -/
  upper : Char -> List Char
  /-- The value of `c` as a decimal digit, if it is one. -/
  decimal : Char -> Option Nat

inductive AssembleError where
  | unknownOpcode (mnem line : List Char)
  | requiresOperand (mnem : List Char)
  | invalidLiteral (base : Nat) (tok : List Char)
  deriving DecidableEq, Repr

namespace Unicode

/-!
## Strings
-/

/-- `s.strip()`. -/
def strip (u : Unicode) (s : List Char) : List Char :=
  (s.dropWhile u.isSpace).rdropWhile u.isSpace

/-- `s.split()`. -/
def split (u : Unicode) (s : List Char) : List (List Char) :=
  (s.splitOnP u.isSpace).filter fun part => part ≠ []

/-!
## Numbers
-/

/-- The value of `c` as a digit of some base. -/
def digit (u : Unicode) (c : Char) : Option Nat :=
  match u.decimal c with
  | some d => some d
  | none =>
      if 'a' <= c ∧ c <= 'z' then some (c.toNat - 'a'.toNat + 10)
      else if 'A' <= c ∧ c <= 'Z' then some (c.toNat - 'A'.toNat + 10)
      else none

/-- Digits, with at most one underscore between two of them. -/
def digits (u : Unicode) (base : Nat) : Nat -> Bool -> List Char -> Option Nat
  | val, afterDigit, [] => if afterDigit then some val else none
  | val, afterDigit, c :: rest =>
      if c = '_' then
        if afterDigit then u.digits base val false rest else none
      else
        match u.digit c with
        | some d => if d < base then u.digits base (val * base + d) true rest else none
        | none => none

/-- The `0x` that `int` accepts in base 16; one underscore may follow it. -/
def dropHexPrefix : List Char -> List Char
  | '0' :: 'x' :: '_' :: rest => rest
  | '0' :: 'X' :: '_' :: rest => rest
  | '0' :: 'x' :: rest => rest
  | '0' :: 'X' :: rest => rest
  | s => s

/-- `int(tok, base)`. -/
def int (u : Unicode) (base : Nat) (tok : List Char) : Except AssembleError Int :=
  let s := u.strip tok
  let negative := s.head? = some '-'
  let s := if s.head? = some '-' ∨ s.head? = some '+' then s.tail else s
  let s := if base = 16 then dropHexPrefix s else s
  match u.digits base 0 false s with
  | some val => .ok (if negative then - (val : Int) else val)
  | none => .error (.invalidLiteral base tok)

def parseNumber (u : Unicode) (tok : List Char) : Except AssembleError Int :=
  let tok := u.strip tok
  if "0x".toList.isPrefixOf tok ∨ "0X".toList.isPrefixOf tok then u.int 16 tok
  else
    match tok with
    | ['\'', c, _] => .ok c.toNat
    | _ => u.int 10 tok

end Unicode

/-!
## Instructions
-/

/-- `OPCODES`. -/
def opcodes : List (List Char × Byte) :=
  [("EXIT".toList, 0x00#8),
    ("PRINT".toList, 0x01#8), ("READ".toList, 0x02#8), ("PRTC".toList, 0x03#8),
    ("PRTE".toList, 0x04#8), ("PRTS".toList, 0x05#8),
    ("PUSH".toList, 0x10#8), ("ADD".toList, 0x11#8), ("SUB".toList, 0x12#8),
    ("EQ".toList, 0x13#8), ("DUP".toList, 0x14#8), ("POP".toList, 0x15#8),
    ("JMP".toList, 0x20#8), ("JIF".toList, 0x21#8),
    ("SYS".toList, 0x30#8),
    ("PIN_MODE".toList, 0x40#8), ("D_WRITE".toList, 0x41#8), ("SLEEP".toList, 0x42#8),
    ("MALLOC".toList, 0x50#8), ("LOAD".toList, 0x51#8), ("STORE".toList, 0x52#8)]

/-- `OPS_WITH_IMM`. -/
def opsWithImm : List (List Char) := ["PUSH".toList, "JMP".toList, "JIF".toList]

/-- An entry of `parsed_ops`; its mnemonic is one of the table. -/
structure ParsedOp where
  mnem : List Char
  operand : Option (List Char)
  opcode : Byte
  known : opcodes.lookup mnem = some opcode

def ParsedOp.size (op : ParsedOp) : Nat := if op.mnem ∈ opsWithImm then 3 else 1

/-- What the first pass finds in the source, in order. -/
inductive Item where
  | heapSize (size : Int)
  | label (name : List Char)
  | op (parsed : ParsedOp)

/-!
## Pass 1
-/

namespace Unicode

/-- The instruction text without a label that is in front of it. -/
def readOp (u : Unicode) (line inst : List Char) : Except AssembleError (List Item) :=
  match u.split inst with
  | [] => .ok []
  | word :: rest =>
      let mnem := word.flatMap u.upper
      match hknown : opcodes.lookup mnem with
      | none => .error (.unknownOpcode mnem line)
      | some opcode =>
          .ok [.op
            { mnem := mnem, operand := rest.head?, opcode := opcode, known := hknown }]

/-- One of the parts of a line between semicolons. -/
def readInst (u : Unicode) (line inst : List Char) : Except AssembleError (List Item) :=
  let inst := u.strip inst
  if ':' ∈ inst then
    let lbl := inst.takeWhile fun c => c ≠ ':'
    let remainder := (inst.dropWhile fun c => c ≠ ':').tail
    (u.readOp line (u.strip remainder)).map fun items => .label (u.strip lbl) :: items
  else u.readOp line inst

/-- A heap directive; one that is no number changes nothing. -/
def readDirective (u : Unicode) (line : List Char) : List Item :=
  match u.split line with
  | _ :: _ :: size :: _ =>
      match u.int 10 size with
      | .ok val => [.heapSize val]
      | .error _ => []
  | _ => []

def readLine (u : Unicode) (rawLine : List Char) : Except AssembleError (List Item) :=
  let line := u.strip rawLine
  if "# @heap".toList.isPrefixOf line then .ok (u.readDirective line)
  else
    let codePart := u.strip (line.takeWhile fun c => c ≠ '#')
    ((codePart.splitOn ';').mapM (u.readInst line)).map List.flatten

end Unicode

/-- The variables of the first pass; the latest entry for a label comes first. -/
structure Pass1 where
  parsedOps : List ParsedOp
  labels : List (List Char × Nat)
  pc : Nat
  heapSize : Int

namespace Pass1

def start : Pass1 := { parsedOps := [], labels := [], pc := 0, heapSize := 128 }

def add (s : Pass1) : Item -> Pass1
  | .heapSize size => { s with heapSize := size }
  | .label name => { s with labels := (name, s.pc) :: s.labels }
  | .op parsed =>
      { s with parsedOps := s.parsedOps ++ [parsed], pc := s.pc + parsed.size }

end Pass1

namespace Unicode

def pass1 (u : Unicode) (lines : List (List Char)) : Except AssembleError Pass1 :=
  lines.foldlM (fun s line => do
    let items <- u.readLine line
    pure (items.foldl Pass1.add s)) Pass1.start

/-!
## Pass 2
-/

/-- `val & 0xFF` and `(val >> 8) & 0xFF`. -/
def operandBytes (val : Int) : List Byte :=
  [BitVec.ofInt 8 val, BitVec.ofInt 8 (val >>> (8 : Nat))]

def operandValue (u : Unicode) (labels : List (List Char × Nat)) (operand : List Char) :
    Except AssembleError Int :=
  match labels.lookup operand with
  | some pc => .ok pc
  | none => u.parseNumber operand

def emitOp (u : Unicode) (labels : List (List Char × Nat)) (op : ParsedOp) :
    Except AssembleError (List Byte) :=
  if op.size = 3 then
    match op.operand with
    | none => .error (.requiresOperand op.mnem)
    | some operand =>
        (u.operandValue labels operand).map fun val => op.opcode :: operandBytes val
  else .ok [op.opcode]

/-- Magic number, version and heap size. -/
def header (heapSize : Int) : List Byte := [0xAD#8, 0x01#8] ++ operandBytes heapSize

def assemble (u : Unicode) (lines : List (List Char)) :
    Except AssembleError (List Byte) := do
  let s <- u.pass1 lines
  let body <- s.parsedOps.mapM (u.emitOp s.labels)
  pure (header s.heapSize ++ body.flatten)

end Unicode
end ArduOS
