import ArduOS.VmTools.ReadBack
import ArduOS.VmTools.StackMachine

/-!
# What a source means

A source is a list of statements, and a place in it is how many statements are in front
of it: a label is the place where it is defined, and offsets and bytes play no part.
The statements are run on the same stack, and find the same memory and keyboard, as the
instructions of the virtual machine.
-/

namespace ArduOS

/-- A statement of the source; a jump to an offset where no statement is goes nowhere. -/
inductive Statement where
  | push (val : Int)
  | jump (target : Option Nat)
  | branch (target : Option Nat)
  | plain (op : VMOpcode)
  deriving DecidableEq

/-!
## Running statements
-/

/-- What a program finds outside, and where an allocation puts so many cells, or `0`. -/
structure World extends Environment where
  allocate : Int -> Int
  /-- A system call that comes next keeps to the arrays of the kernel. -/
  keeps : Bool

def Transition.relocate (f : Nat -> Nat) : Transition -> Transition
  | .goes m => .goes { pc := f m.pc, stack := m.stack }
  | .ends => .ends
  | .unsettled => .unsettled

namespace Statement

/-- A jump in a source of `count` statements. -/
def going (count : Nat) (target : Option Nat) (stack : List Int) : Transition :=
  match target with
  | some n => if n < count then .goes { pc := n, stack := stack } else .unsettled
  | none => .unsettled

/-- The statement, with the next one at place `n` of `count`. -/
def exec (count : Nat) (world : World) (n : Nat) (stack : List Int) :
    Statement -> Transition
  | .push val => Machine.leaving n val stack
  | .jump target => going count target stack
  | .branch target =>
      Machine.taking stack fun a s =>
        if a ≠ 0 then going count target s else .goes { pc := n, stack := s }
  | .plain .malloc =>
      Machine.taking stack fun size s => Machine.leaving n (world.allocate size) s
  -- behind an array lies something else, such as the operands behind `cwd`
  | .plain .sys =>
      if world.keeps then Machine.exec [] world.toEnvironment .sys none n stack
      else .unsettled
  | .plain op => Machine.exec [] world.toEnvironment op none n stack

/-- The next statement of the source, its program counter a place. -/
def next (stmts : List Statement) (world : World) (m : Machine) : Transition :=
  match stmts[m.pc]? with
  | none => .unsettled
  | some stmt => stmt.exec stmts.length world (m.pc + 1) m.stack

end Statement

/-!
## From lines to statements
-/

section Meaning

variable (u : Unicode) (items : List Item)

/-- Where a jump with this operand goes: to a label, or to the offset it is the number of. -/
inductive Target (operand : List Char) : Option Nat -> Prop
  | label {n : Nat} (hlast : LastDefined items operand n) : Target operand (some n)
  | offset {val : Int} {n : Nat} (hnone : .label operand ∉ items)
      (hval : u.parseNumber operand = .ok val) (hn : n < (parsedOps items).length)
      (hat : (offsetOf items n : Int) = int16 val) : Target operand (some n)
  | nowhere {val : Int} (hnone : .label operand ∉ items)
      (hval : u.parseNumber operand = .ok val)
      (hnot : forall n, n < (parsedOps items).length ->
        (offsetOf items n : Int) ≠ int16 val) : Target operand none

/-- The statement that an instruction of the source is. -/
inductive Means (op : ParsedOp) : Statement -> Prop
  | push {operand : List Char} {val : Int} (hname : VMOpcode.push.mnemonic = op.mnem)
      (hoperand : op.operand = some operand) (hval : Denotes u items operand val) :
      Means op (.push (int16 val))
  | jump {operand : List Char} {target : Option Nat}
      (hname : VMOpcode.jmp.mnemonic = op.mnem) (hoperand : op.operand = some operand)
      (htarget : Target u items operand target) : Means op (.jump target)
  | branch {operand : List Char} {target : Option Nat}
      (hname : VMOpcode.jif.mnemonic = op.mnem) (hoperand : op.operand = some operand)
      (htarget : Target u items operand target) : Means op (.branch target)
  | plain {vmOp : VMOpcode} (hname : vmOp.mnemonic = op.mnem)
      (hplain : vmOp.hasOperand = false) : Means op (.plain vmOp)

end Meaning

/-- The statements that the lines are. -/
def Unicode.Source (u : Unicode) (lines : List (List Char)) (stmts : List Statement) : Prop :=
  exists items, u.sourceItems lines = .ok items ∧
    List.Forall₂ (Means u items) (parsedOps items) stmts

/-!
## There is one meaning at most
-/

theorem offsetOf_succ {items : List Item} {n : Nat} {op : ParsedOp}
    (hn : (parsedOps items)[n]? = some op) :
    offsetOf items (n + 1) = offsetOf items n + op.size := by
  simp [offsetOf, sizes, List.take_add_one, hn]

theorem offsetOf_lt {items : List Item} {n n' : Nat} (hlt : n < n')
    (hn : n < (parsedOps items).length) : offsetOf items n < offsetOf items n' := by
  induction n', hlt using Nat.le_induction with
  | base =>
      rw [offsetOf_succ (List.getElem?_eq_getElem hn)]
      have hpos : 0 < ((parsedOps items)[n]).size := by
        unfold ParsedOp.size
        split <;> decide
      omega
  | succ n' _ ih =>
      cases hop : (parsedOps items)[n']? with
      | none =>
          have hpast := List.getElem?_eq_none_iff.mp hop
          have hsame : offsetOf items (n' + 1) = offsetOf items n' := by
            unfold offsetOf
            rw [List.take_of_length_le hpast, List.take_of_length_le (by omega)]
          rw [hsame]
          exact ih
      | some op =>
          rw [offsetOf_succ hop]
          omega

theorem offsetOf_injective {items : List Item} {n n' : Nat}
    (hn : n <= (parsedOps items).length) (hn' : n' <= (parsedOps items).length)
    (h : offsetOf items n = offsetOf items n') : n = n' := by
  rcases Nat.lt_trichotomy n n' with hlt | heq | hgt
  · have hless : offsetOf items n < offsetOf items n' := offsetOf_lt hlt (by omega)
    omega
  · exact heq
  · have hless : offsetOf items n' < offsetOf items n := offsetOf_lt hgt (by omega)
    omega

theorem LastDefined.le_length {items : List Item} {name : List Char} {n : Nat}
    (h : LastDefined items name n) : n <= (parsedOps items).length := by
  rcases h with ⟨before, after, hitems, _, hn⟩
  rw [hitems, parsedOps_append, List.length_append, hn]
  exact Nat.le_add_right _ _

theorem LastDefined.unique {items : List Item} {name : List Char} {n n' : Nat}
    (h : LastDefined items name n) (h' : LastDefined items name n') : n = n' := by
  apply offsetOf_injective h.le_length h'.le_length
  have heq := (lookup_of_lastDefined h).symm.trans (lookup_of_lastDefined h')
  exact Option.some.inj heq

theorem LastDefined.mem {items : List Item} {name : List Char} {n : Nat}
    (h : LastDefined items name n) : .label name ∈ items := by
  rcases h with ⟨before, after, hitems, _⟩
  rw [hitems]
  exact List.mem_append_right before List.mem_cons_self

theorem Target.unique {u : Unicode} {items : List Item} {operand : List Char}
    {target target' : Option Nat} (h : Target u items operand target)
    (h' : Target u items operand target') : target = target' := by
  cases h with
  | label hlast =>
      cases h' with
      | label hlast' => rw [hlast.unique hlast']
      | offset hnone _ _ _ => exact absurd hlast.mem hnone
      | nowhere hnone _ _ => exact absurd hlast.mem hnone
  | offset hnone hval hn hat =>
      cases h' with
      | label hlast' => exact absurd hlast'.mem hnone
      | offset _ hval' hn' hat' =>
          cases hval.symm.trans hval'
          rw [offsetOf_injective (Nat.le_of_lt hn) (Nat.le_of_lt hn') (by omega)]
      | nowhere _ hval' hnot =>
          cases hval.symm.trans hval'
          exact absurd hat (hnot _ hn)
  | nowhere hnone hval hnot =>
      cases h' with
      | label hlast' => exact absurd hlast'.mem hnone
      | offset _ hval' hn' hat' =>
          cases hval.symm.trans hval'
          exact absurd hat' (hnot _ hn')
      | nowhere _ _ _ => rfl

theorem VMOpcode.ofByte_mnemonic (op : VMOpcode) :
    (opcodes.lookup op.mnemonic).bind VMOpcode.ofByte? = some op := by
  cases op <;> decide

theorem VMOpcode.mnemonic_injective {op op' : VMOpcode} (h : op.mnemonic = op'.mnemonic) :
    op = op' := by
  have hop := op.ofByte_mnemonic
  rw [h, op'.ofByte_mnemonic] at hop
  exact (Option.some.inj hop).symm

theorem Means.unique {u : Unicode} {items : List Item} {op : ParsedOp}
    {stmt stmt' : Statement} (h : Means u items op stmt) (h' : Means u items op stmt') :
    stmt = stmt' := by
  have hnames : forall {a b : VMOpcode}, a.mnemonic = op.mnem -> b.mnemonic = op.mnem ->
      a = b := fun ha hb => VMOpcode.mnemonic_injective (ha.trans hb.symm)
  cases h with
  | push hname hoperand hval =>
      cases h' with
      | push _ hoperand' hval' =>
          cases hoperand.symm.trans hoperand'
          rw [hval.unique hval']
      | jump hname' _ _ | branch hname' _ _ => cases hnames hname hname'
      | plain hname' hplain =>
          cases hnames hname hname'
          cases hplain
  | jump hname hoperand htarget =>
      cases h' with
      | jump _ hoperand' htarget' =>
          cases hoperand.symm.trans hoperand'
          rw [htarget.unique htarget']
      | push hname' _ _ | branch hname' _ _ => cases hnames hname hname'
      | plain hname' hplain =>
          cases hnames hname hname'
          cases hplain
  | branch hname hoperand htarget =>
      cases h' with
      | branch _ hoperand' htarget' =>
          cases hoperand.symm.trans hoperand'
          rw [htarget.unique htarget']
      | push hname' _ _ | jump hname' _ _ => cases hnames hname hname'
      | plain hname' hplain =>
          cases hnames hname hname'
          cases hplain
  | plain hname hplain =>
      cases h' with
      | push hname' _ _ | jump hname' _ _ | branch hname' _ _ =>
          cases hnames hname hname'
          cases hplain
      | plain hname' _ => rw [hnames hname hname']

theorem Source.unique {u : Unicode} {lines : List (List Char)}
    {stmts stmts' : List Statement} (h : u.Source lines stmts) (h' : u.Source lines stmts') :
    stmts = stmts' := by
  rcases h with ⟨items, hitems, hall⟩
  rcases h' with ⟨items', hitems', hall'⟩
  cases hitems.symm.trans hitems'
  generalize parsedOps items = ops at hall hall'
  induction hall generalizing stmts' with
  | nil =>
      cases hall'
      rfl
  | cons hfirst _ ih =>
      cases hall' with
      | cons hfirst' hrest' => rw [hfirst.unique hfirst', ih hrest']

/-!
## What assembles has a meaning
-/

/-- The statement that an instruction of the code carries out. -/
inductive Realizes (instrs : List Instruction) : Statement -> Instruction -> Prop
  | push (val : Int) : Realizes instrs (.push val) { op := .push, operand := some val }
  | jump {target : Option Nat} {v : Int}
      (h : forall n, target = some n -> v = startOf instrs n) :
      Realizes instrs (.jump target) { op := .jmp, operand := some v }
  | branch {target : Option Nat} {v : Int}
      (h : forall n, target = some n -> v = startOf instrs n) :
      Realizes instrs (.branch target) { op := .jif, operand := some v }
  | plain {op : VMOpcode} (hplain : op.hasOperand = false) :
      Realizes instrs (.plain op) { op := op, operand := none }

theorem eq_int16_of_modEq {v val : Int} (hmod : v % 65536 = val % 65536)
    (hlo : -32768 <= v) (hhi : v < 32768) : v = int16 val := by
  unfold int16
  omega

section Assembled

variable {u : Unicode} {items : List Item} {body : List Byte} {instrs : List Instruction}

theorem exists_target (hdecode : decode body = some instrs) (hshort : body.length <= 32764)
    (hoffsets : forall n, offsetOf items n = startOf instrs n)
    {operand : List Char} {val v : Int} (hdenotes : Denotes u items operand val)
    (hv : v = int16 val) :
    exists target, Target u items operand target ∧
      forall n, target = some n -> v = startOf instrs n := by
  cases hdenotes with
  | @label n hlast =>
      refine ⟨some n, .label hlast, ?_⟩
      intro n' hn
      cases hn
      have hinside := startOf_le_length hdecode n
      rw [hv, hoffsets]
      exact int16_eq_self (by omega) (by omega)
  | number hnone hval =>
      by_cases hfound : exists n, n < (parsedOps items).length ∧
          (offsetOf items n : Int) = int16 val
      · rcases hfound with ⟨n, hn, hat⟩
        refine ⟨some n, .offset hnone hval hn hat, ?_⟩
        intro n' hn'
        cases hn'
        rw [hv, ← hat, hoffsets]
      · refine ⟨none, .nowhere hnone hval ?_, ?_⟩
        · intro n hn hat
          exact hfound ⟨n, hn, hat⟩
        · intro n hnone'
          cases hnone'

theorem exists_statement (hdecode : decode body = some instrs)
    (hshort : body.length <= 32764)
    (hoffsets : forall n, offsetOf items n = startOf instrs n)
    {op : ParsedOp} {instr : Instruction}
    (h : Emits u (items.foldl Pass1.add Pass1.start).labels op instr) :
    exists stmt, Means u items op stmt ∧ Realizes instrs stmt instr := by
  rcases op.ofByte with ⟨vmOp, _, hname, hhas⟩
  have hsame : vmOp = instr.op := VMOpcode.mnemonic_injective (hname.trans h.mnemonic.symm)
  subst hsame
  rcases instr with ⟨opcode, operand⟩
  simp only at hname hhas
  by_cases himm : op.mnem ∈ opsWithImm
  · rcases h.imm himm with ⟨source, val, v, hsource, hval, hoperand, hmod, hlo, hhi⟩
    have hdenotes := operandValue_eq_iff.mp hval
    have hv := eq_int16_of_modEq hmod hlo hhi
    rw [decide_eq_true himm] at hhas
    simp only at hoperand
    subst hoperand
    cases opcode with
    | push =>
        rw [hv]
        exact ⟨_, .push hname hsource hdenotes, .push _⟩
    | jmp =>
        rcases exists_target hdecode hshort hoffsets hdenotes hv with ⟨target, htarget, hat⟩
        exact ⟨_, .jump hname hsource htarget, .jump hat⟩
    | jif =>
        rcases exists_target hdecode hshort hoffsets hdenotes hv with ⟨target, htarget, hat⟩
        exact ⟨_, .branch hname hsource htarget, .branch hat⟩
    | _ => cases hhas
  · rw [decide_eq_false himm] at hhas
    have hnone : operand = none := h.plain himm
    subst hnone
    exact ⟨_, .plain hname hhas, .plain hhas⟩

theorem exists_statements (hdecode : decode body = some instrs)
    (hshort : body.length <= 32764)
    (hall : List.Forall₂ (Emits u (items.foldl Pass1.add Pass1.start).labels)
      (parsedOps items) instrs) :
    exists stmts, List.Forall₂ (Means u items) (parsedOps items) stmts ∧
      List.Forall₂ (Realizes instrs) stmts instrs := by
  have hoffsets : forall n, offsetOf items n = startOf instrs n :=
    fun n => sizes_eq_startOf hall n
  have hone := fun op instr => @exists_statement u items body instrs hdecode hshort hoffsets
    op instr
  generalize parsedOps items = ops at hall
  generalize hcode : Realizes instrs = realizes at hone ⊢
  clear hdecode hoffsets hcode
  induction hall with
  | nil => exact ⟨[], .nil, .nil⟩
  | cons hemits _ ih =>
      rcases hone _ _ hemits with ⟨stmt, hmeans, hrealizes⟩
      rcases ih with ⟨stmts, hstmts, hinstrs⟩
      exact ⟨stmt :: stmts, .cons hmeans hstmts, .cons hrealizes hinstrs⟩

end Assembled

theorem assemble_realizes {u : Unicode} {lines : List (List Char)} {code : List Byte}
    (h : u.assemble lines = .ok code) (hshort : code.length <= 32768) :
    exists items stmts header body instrs, u.sourceItems lines = .ok items ∧
      List.Forall₂ (Means u items) (parsedOps items) stmts ∧ code = header ++ body ∧
      header.length = 4 ∧ decode body = some instrs ∧ offsetOf items = startOf instrs ∧
      List.Forall₂ (Realizes instrs) stmts instrs := by
  rcases assemble_emits h with ⟨items, body, instrs, hitems, hcode, hdecode, hall⟩
  have hheader : (Unicode.header
      (items.foldl Pass1.add Pass1.start).heapSize).length = 4 := rfl
  have hbody : body.length <= 32764 := by
    rw [hcode, List.length_append, hheader] at hshort
    omega
  rcases exists_statements hdecode hbody hall with ⟨stmts, hmeans, hrealizes⟩
  exact ⟨items, stmts, _, body, instrs, hitems, hmeans, hcode, hheader, hdecode,
    funext fun n => sizes_eq_startOf hall n, hrealizes⟩

end ArduOS
