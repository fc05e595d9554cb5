import ArduOS.Kernel.Footing
import ArduOS.Library.Cells
import ArduOS.VmTools.CodeLayout

/-!
# The machine that a program is written for

A stack machine with an unbounded program counter, an operand stack of at most 64
cells, and an environment for memory and keyboard.  While a slot executes decoded
code, `VM_runStep` is a step of this machine.
-/

namespace ArduOS

open Library

/-- Where a program is, and its operands with the topmost first. -/
structure Machine where
  pc : Nat
  stack : List Int
  deriving DecidableEq

/-- What a machine finds outside: its segment, and the key that is next. -/
structure Environment where
  accessible : Int -> Bool
  cell : Int -> Int
  input : Int

/-- What comes of an instruction; nothing is said about one that is `unsettled`. -/
inductive Transition where
  | goes (m : Machine)
  | ends
  | unsettled
  deriving DecidableEq

/-- The instruction that starts at offset `pc`. -/
def instrAt : List Instruction -> Nat -> Option Instruction
  | [], _ => none
  | instr :: code, pc =>
      if pc = 0 then some instr
      else if pc < instr.length then none
      else instrAt code (pc - instr.length)

namespace Machine

/-!
## Instructions
-/

def taking (stack : List Int) (next : Int -> List Int -> Transition) : Transition :=
  match stack with
  | [] => .ends
  | a :: stack => next a stack

def combining (pc : Nat) (op : Int -> Int -> Int) (stack : List Int) : Transition :=
  taking stack fun a s => taking s fun b s => .goes { pc := pc, stack := op a b :: s }

def leaving (pc : Nat) (val : Int) (stack : List Int) : Transition :=
  if stack.length < VM_STACK_SIZE then .goes { pc := pc, stack := val :: stack }
  else .ends

def jumping (code : List Instruction) (target : Int) (stack : List Int) : Transition :=
  if 0 <= target ∧ (instrAt code target.toNat).isSome then
    .goes { pc := target.toNat, stack := stack }
  else .unsettled

/--
`OP_SYS`; `ls` reopens the program, and is left out.  The operands left are those that were
there: a `cd` whose NUL falls behind `cwd`, into the first of them, keeps the depth only.
-/
def calling (pc : Nat) (sysId : Int) (stack : List Int) : Transition :=
  if sysId ≠ 1 ∧ Kernel.sysOperands sysId <= stack.length then
    .goes { pc := pc, stack := stack.drop (Kernel.sysOperands sysId).toNat }
  else .unsettled

/-- The instruction `op`, with the next one at `pc`. -/
def exec (code : List Instruction) (env : Environment) (op : VMOpcode)
    (operand : Option Int) (pc : Nat) (stack : List Int) : Transition :=
  match op with
  | .exit => .ends
  | .push =>
      match operand with
      | some val => leaving pc val stack
      | none => .unsettled
  | .add => combining pc (fun a b => int16 (a + b)) stack
  | .sub => combining pc (fun b a => int16 (a - b)) stack
  | .eq => combining pc (fun a b => if a = b then 1 else 0) stack
  | .dup => taking stack fun a _ => leaving pc a stack
  | .pop => taking stack fun _ s => .goes { pc := pc, stack := s }
  | .jmp =>
      match operand with
      | some target => jumping code target stack
      | none => .unsettled
  | .jif =>
      match operand with
      | some target => taking stack fun a s =>
          if a ≠ 0 then jumping code target s else .goes { pc := pc, stack := s }
      | none => .unsettled
  | .print => taking stack fun _ s => .goes { pc := pc, stack := s }
  | .prtc => taking stack fun _ s => .goes { pc := pc, stack := s }
  | .prte => taking stack fun _ s => .goes { pc := pc, stack := s }
  | .prts => taking stack fun _ s => .goes { pc := pc, stack := s }
  | .read => leaving pc env.input stack
  | .sys => taking stack fun sysId s => calling pc sysId s
  | .sleep => taking stack fun _ s => .goes { pc := pc, stack := s }
  | .malloc => .unsettled
  | .load => taking stack fun addr s =>
      if env.accessible addr then leaving pc (env.cell addr) s else .ends
  | .store => taking stack fun addr s => taking s fun _ s =>
      if env.accessible addr then .goes { pc := pc, stack := s } else .ends
  | .pinMode => .goes { pc := pc, stack := stack }
  | .dWrite => .goes { pc := pc, stack := stack }

def next (code : List Instruction) (env : Environment) (m : Machine) : Transition :=
  match instrAt code m.pc with
  | none => .unsettled
  | some instr => exec code env instr.op instr.operand (m.pc + instr.length) m.stack

end Machine

/-!
## Offsets
-/

theorem Instruction.length_pos (instr : Instruction) : 0 < instr.length := by
  unfold Instruction.length
  split
  · decide
  · decide

theorem instrAt_startOf {code : List Instruction} {n : Nat} {instr : Instruction}
    (hn : code[n]? = some instr) : instrAt code (startOf code n) = some instr := by
  induction n generalizing code with
  | zero =>
      cases code with
      | nil => cases hn
      | cons first code =>
          rw [List.getElem?_cons_zero] at hn
          simpa [instrAt] using hn
  | succ n ih =>
      cases code with
      | nil => cases hn
      | cons first code =>
          have hpos := first.length_pos
          rw [List.getElem?_cons_succ] at hn
          rw [startOf_cons, instrAt, if_neg (by omega), if_neg (by omega),
            Nat.add_sub_cancel_left]
          exact ih hn

theorem exists_of_instrAt {code : List Instruction} {pc : Nat} {instr : Instruction}
    (h : instrAt code pc = some instr) :
    exists n, pc = startOf code n ∧ code[n]? = some instr := by
  induction code generalizing pc with
  | nil => cases h
  | cons first code ih =>
      rw [instrAt] at h
      split at h
      · rename_i hzero
        exact ⟨0, hzero, h⟩
      · split at h
        · cases h
        · rcases ih h with ⟨n, hpc, hn⟩
          refine ⟨n + 1, ?_, hn⟩
          rw [startOf_cons]
          omega

namespace Kernel

variable {sd : SdFat}

def environment (k : Kernel sd) (t : TaskId) : Environment :=
  { accessible := fun addr => inHeap (k.getPhysAddr t addr)
    cell := fun addr => k.globalHeap (k.getPhysAddr t addr)
    input := if (k.hal.read FD_STDIN).1 ≠ -1 then (k.hal.read FD_STDIN).1 else 0 }

/-- Slot `t` executes `program`, is at `pc` and has these operands. -/
structure At (data : sd.File -> List Byte) (pos : sd.File -> Nat) (program : List Byte)
    (t : TaskId) (k : Kernel sd) (pc : Nat) (stack : List Int) : Prop where
  place : exists origin fresh, Streaming data pos program k t origin pc fresh
  depth : (k.tasks t).sp + 1 = stack.length
  cells : descending (k.tasks t).stack stack.length = stack

def Follows (data : sd.File -> List Byte) (pos : sd.File -> Nat) (program : List Byte)
    (t : TaskId) (k : Kernel sd) : Transition -> Prop
  | .goes m => At data pos program t k m.pc m.stack
  | .ends => (k.tasks t).isActive = false
  | .unsettled => True

section Steps

variable {data : sd.File -> List Byte} {pos : sd.File -> Nat} {program : List Byte}
  {t : TaskId} {k k' : Kernel sd} {pc : Nat} {stack : List Int}

theorem Streaming.of_leaves {origin : Nat} {fresh : Bool}
    (h : Streaming data pos program k t origin pc fresh) (hsame : Leaves t k k') :
    Streaming data pos program k' t origin pc fresh := by
  constructor
  · exact hsame.active.trans h.active
  · rw [hsame.file, hsame.codeBuffer, hsame.bufferIndex]
    exact h.file
  · rw [hsame.bufferIndex]
    exact h.phase
  · rw [hsame.bufferIndex]
    exact h.fetched

theorem At.active (h : At data pos program t k pc stack) :
    (k.tasks t).isActive = true := by
  rcases h.place with ⟨_, _, hstreaming⟩
  exact hstreaming.active

theorem At.of_leaves (h : At data pos program t k pc stack) (hsame : Leaves t k k') :
    At data pos program t k' pc stack := by
  rcases h.place with ⟨origin, fresh, hstreaming⟩
  constructor
  · exact ⟨origin, fresh, hstreaming.of_leaves hsame⟩
  · rw [hsame.sp]
    exact h.depth
  · rw [hsame.stack]
    exact h.cells

theorem At.of_stack (h : At data pos program t k pc stack) {stack' : List Int}
    (hactive : (k'.tasks t).isActive = (k.tasks t).isActive)
    (hfile : (k'.tasks t).file = (k.tasks t).file)
    (hbuffer : (k'.tasks t).codeBuffer = (k.tasks t).codeBuffer)
    (hindex : (k'.tasks t).bufferIndex = (k.tasks t).bufferIndex)
    (hdepth : (k'.tasks t).sp + 1 = stack'.length)
    (hcells : descending (k'.tasks t).stack stack'.length = stack') :
    At data pos program t k' pc stack' := by
  rcases h.place with ⟨origin, fresh, hstreaming⟩
  refine ⟨⟨origin, fresh, ?_⟩, hdepth, hcells⟩
  constructor
  · exact hactive.trans hstreaming.active
  · rw [hfile, hbuffer, hindex]
    exact hstreaming.file
  · rw [hindex]
    exact hstreaming.phase
  · rw [hindex]
    exact hstreaming.fetched

/-!
## The operand stack
-/

theorem At.top {a : Int} (h : At data pos program t k pc (a :: stack)) :
    (k.tasks t).stack (k.tasks t).sp = a := by
  have hcells := h.cells
  have hdepth := h.depth
  rw [List.length_cons, descending_succ] at hcells
  have hsp : (k.tasks t).sp = (stack.length : Int) := by
    rw [List.length_cons] at hdepth
    omega
  rw [hsp]
  exact (List.cons.inj hcells).left

theorem At.drop {a : Int} (h : At data pos program t k pc (a :: stack)) :
    At data pos program t (k.stackDrop t) pc stack := by
  have hdepth := h.depth
  have hcells := h.cells
  rw [List.length_cons] at hdepth
  rw [List.length_cons, descending_succ] at hcells
  apply h.of_stack
  · simp [stackDrop, modifyTask, Task.isActive]
  · simp [stackDrop, modifyTask]
  · simp [stackDrop, modifyTask]
  · simp [stackDrop, modifyTask]
  · simp only [stackDrop, modifyTask, Function.update_self]
    omega
  · simp only [stackDrop, modifyTask, Function.update_self]
    exact (List.cons.inj hcells).right

theorem At.pop {a : Int} (h : At data pos program t k pc (a :: stack)) :
    (k.stackPop t).1 = a ∧ At data pos program t (k.stackPop t).2 pc stack := by
  have hnoted : Leaves t k (k.note (.stack t (k.tasks t).sp)) := .of_tasks rfl
  refine ⟨?_, (h.of_leaves hnoted).drop⟩
  simp only [stackPop]
  exact h.top

theorem At.push (h : At data pos program t k pc stack) (val : Int) :
    At data pos program t (k.stackPush t val) pc (val :: stack) := by
  have hdepth := h.depth
  have hnext : (k.tasks t).sp + 1 = (stack.length : Int) := hdepth
  apply h.of_stack
  · simp [stackPush, modifyTask, Task.isActive, note]
  · simp [stackPush, modifyTask, note]
  · simp [stackPush, modifyTask, note]
  · simp [stackPush, modifyTask, note]
  · simp only [stackPush, modifyTask, note, Function.update_self, List.length_cons]
    omega
  · simp only [stackPush, modifyTask, note, Function.update_self, List.length_cons,
      descending_succ, hnext]
    rw [descending_update _ _ (Int.le_refl _), h.cells]

/-!
## Checks
-/

theorem terminateTask_inactive (k : Kernel sd) (t : TaskId) :
    ((k.terminateTask t).tasks t).isActive = false := by
  have hfree : ((k.terminateTask t).tasks t).taskState = .free :=
    (k.terminateTask_exits t).free
  simp [Task.isActive, hfree]

theorem checkStackUnderflow_ends {count : Int} {body : Kernel sd -> Kernel sd}
    (h : At data pos program t k pc stack) (hfew : stack.length < count) :
    Follows data pos program t (k.checkStackUnderflow t count body) .ends := by
  have hdepth := h.depth
  unfold checkStackUnderflow
  rw [if_pos (by omega)]
  exact terminateTask_inactive _ t

theorem checkStackUnderflow_body {count : Int} {body : Kernel sd -> Kernel sd}
    (h : At data pos program t k pc stack) (henough : count <= stack.length) :
    k.checkStackUnderflow t count body = body k := by
  have hdepth := h.depth
  unfold checkStackUnderflow
  rw [if_neg (by omega)]

theorem checkStackOverflow_follows {body : Kernel sd -> Kernel sd} {val : Int}
    (h : At data pos program t k pc stack) {pc' : Nat}
    (hbody : At data pos program t (body k) pc' (val :: stack)) :
    Follows data pos program t (k.checkStackOverflow t body)
      (Machine.leaving pc' val stack) := by
  have hdepth := h.depth
  have hsize : VM_STACK_SIZE = 64 := rfl
  unfold checkStackOverflow Machine.leaving
  by_cases hroom : stack.length < VM_STACK_SIZE
  · rw [if_pos hroom, if_neg (by omega)]
    exact hbody
  · rw [if_neg hroom, if_pos (by omega)]
    exact terminateTask_inactive _ t

theorem checkStackUnderflow_follows {body : Kernel sd -> Kernel sd}
    {next : Int -> List Int -> Transition} (h : At data pos program t k pc stack)
    (hbody : forall a s, stack = a :: s -> Follows data pos program t (body k) (next a s)) :
    Follows data pos program t (k.checkStackUnderflow t 1 body)
      (Machine.taking stack next) := by
  cases stack with
  | nil => exact checkStackUnderflow_ends h (by decide)
  | cons a s =>
      rw [checkStackUnderflow_body h (by simp only [List.length_cons]; omega)]
      exact hbody a s rfl

end Steps

end Kernel
end ArduOS
