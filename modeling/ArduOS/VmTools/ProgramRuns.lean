import ArduOS.Kernel.EndOfCode
import ArduOS.VmTools.StackMap

/-!
# Programs that run

A program is loaded, its instructions are executed one after the other, and in
between happens what leaves it alone: turns of other slots, requests, interrupts.
If a map describes it, its stack is as deep as the map says at every place of every
run, and as often as the leak was passed deeper.
-/

namespace ArduOS

open Library

namespace Kernel

variable {sd : SdFat}

def nextPc (k : Kernel sd) (t : TaskId) (pc : Nat) : Nat :=
  let (opcode, k) := k.fetchByte t
  match VMOpcode.ofByte? opcode with
  | some .push => pc + 3
  | some .jmp =>
      let (target, _) := k.fetchInt t
      target.toNat
  | some .jif =>
      let (target, k) := k.fetchInt t
      let (condition, _) := k.stackPop t
      if condition ≠ 0 then target.toNat else pc + 3
  | _ => pc + 1

/--
`k` is a state of a run of `program` in slot `t`, which is at offset `pc` of its code
and has executed the instruction at `mark` so many times.
-/
inductive Executes (data : sd.File -> List Byte) (program : List Byte) (t : TaskId)
    (mark : Nat) : Kernel sd -> Nat -> Nat -> Prop where
  | load {k k' : Kernel sd} {name : List Byte} {file : sd.File}
      {argStr parentCwd parentArgStr : Option (List Byte)}
      (hload : k.loadTask t name argStr parentCwd parentArgStr = (true, k'))
      (hfile : (k'.tasks t).file = some file) (hdata : data file = program) :
      Executes data program t mark k' 0 0
  | leave {k k' : Kernel sd} {pc n : Nat} (h : Executes data program t mark k pc n)
      (hleaves : Leaves t k k') : Executes data program t mark k' pc n
  | step {k : Kernel sd} {pc n : Nat} (h : Executes data program t mark k pc n)
      (hactive : ((k.runStep t).tasks t).isActive = true) :
      Executes data program t mark (k.runStep t) (k.nextPc t pc)
        (if pc = mark then n + 1 else n)

section Runs

variable {data : sd.File -> List Byte} {pos : sd.File -> Nat}
  {program header body : List Byte} {code : List Instruction} {t : TaskId} {mark : Nat}
  {k k' : Kernel sd} {pc n : Nat}

theorem loadTask_at (law : sd.Lawful data pos) {name : List Byte} {file : sd.File}
    {argStr parentCwd parentArgStr : Option (List Byte)}
    (hload : k.loadTask t name argStr parentCwd parentArgStr = (true, k'))
    (hfile : (k'.tasks t).file = some file) : At data pos (data file) t k' 0 [] := by
  have hok : (k.loadTask t name argStr parentCwd parentArgStr).1 = true := by rw [hload]
  rcases loadTask_streaming law k t name argStr parentCwd parentArgStr hok with
    ⟨opened, hopened, _, hstreaming⟩
  have hafresh := (k.loadTask_afresh t name argStr parentCwd parentArgStr hok).left
  rw [hload] at hopened hstreaming hafresh
  cases hopened.symm.trans hfile
  refine ⟨⟨_, _, hstreaming⟩, ?_, rfl⟩
  simp only at hafresh
  rw [hafresh]
  rfl

theorem Executes.active (law : sd.Lawful data pos)
    (h : Executes data program t mark k pc n) : (k.tasks t).isActive = true := by
  induction h with
  | load hload hfile _ => exact (loadTask_at law hload hfile).active
  | leave _ hleaves ih => exact hleaves.active.trans ih
  | step _ hactive _ => exact hactive

theorem Executes.event (law : sd.Lawful data pos) (ht : t ≠ 0)
    (h : Executes data program t mark k pc n) (e : Event)
    (hactive : ((k.step e).tasks t).isActive = true) :
    exists pc' n', Executes data program t mark (k.step e) pc' n' := by
  by_cases hother : e = .turn -> k.current = t -> k.dispatches t = none
  · exact ⟨pc, n, h.leave (step_leaves ht (h.active law) e hother)⟩
  · rw [Classical.not_imp, Classical.not_imp] at hother
    rcases hother with ⟨rfl, hcurrent, hsome⟩
    cases hturn : k.dispatches t with
    | none => exact absurd hturn hsome
    | some k₁ =>
        have hstep := step_turn_of_dispatches hcurrent hturn
        have hwoken := h.leave (wakeUp_leaves (dispatches_cases hturn).right.right)
        rw [hstep] at hactive ⊢
        exact ⟨_, _, (hwoken.step hactive).leave (.of_tasks rfl)⟩

def pcAfter (t : TaskId) : Nat -> Kernel sd -> Nat -> Nat
  | 0, _, pc => pc
  | steps + 1, k, pc => pcAfter t steps (k.runStep t) (k.nextPc t pc)

theorem Executes.steps {steps : Nat} (h : Executes data program t mark k pc n)
    (hactive : forall i, i < steps ->
      (((fun k => k.runStep t)^[i + 1] k).tasks t).isActive = true) :
    exists n', Executes data program t mark ((fun k => k.runStep t)^[steps] k)
      (pcAfter t steps k pc) n' := by
  induction steps generalizing k pc n with
  | zero => exact ⟨n, h⟩
  | succ steps ih =>
      rw [Function.iterate_succ_apply]
      apply ih (h.step (hactive 0 (by omega)))
      intro i hi
      exact hactive (i + 1) (by omega)

end Runs

end Kernel

/-!
## The program counter
-/

namespace Machine

variable {code : List Instruction} {env : Environment} {pc : Nat} {stack : List Int}
  {m : Machine}

theorem taking_goes {next : Int -> List Int -> Transition}
    (h : taking stack next = .goes m) : exists a s, stack = a :: s ∧ next a s = .goes m := by
  cases stack with
  | nil => cases h
  | cons a s => exact ⟨a, s, rfl, h⟩

theorem leaving_goes {val : Int} (h : leaving pc val stack = .goes m) : m.pc = pc := by
  unfold leaving at h
  split at h
  · cases h
    rfl
  · cases h

theorem jumping_goes {target : Int} (h : jumping code target stack = .goes m) :
    m.pc = target.toNat := by
  unfold jumping at h
  split at h
  · cases h
    rfl
  · cases h

theorem exec_goes {op : VMOpcode} {operand : Option Int} (hjmp : op ≠ .jmp)
    (hjif : op ≠ .jif) (h : exec code env op operand pc stack = .goes m) : m.pc = pc := by
  have htaken : forall stack : List Int,
      (taking stack fun _ s => .goes { pc := pc, stack := s }) = .goes m -> m.pc = pc := by
    intro stack htaking
    rcases taking_goes htaking with ⟨_, _, _, hgoes⟩
    cases hgoes
    rfl
  have hcombined : forall f, combining pc f stack = .goes m -> m.pc = pc := by
    intro f hcombining
    rcases taking_goes hcombining with ⟨_, _, _, htaking⟩
    rcases taking_goes htaking with ⟨_, _, _, hgoes⟩
    cases hgoes
    rfl
  cases op with
  | jmp => exact absurd rfl hjmp
  | jif => exact absurd rfl hjif
  | exit => cases h
  | malloc => cases h
  | print => exact htaken stack h
  | prtc => exact htaken stack h
  | prte => exact htaken stack h
  | prts => exact htaken stack h
  | pop => exact htaken stack h
  | sleep => exact htaken stack h
  | add => exact hcombined _ h
  | sub => exact hcombined _ h
  | eq => exact hcombined _ h
  | read => exact leaving_goes h
  | push =>
      cases operand with
      | none => cases h
      | some val => exact leaving_goes h
  | dup =>
      rcases taking_goes h with ⟨_, _, _, hleaving⟩
      exact leaving_goes hleaving
  | sys =>
      rcases taking_goes h with ⟨_, _, _, hcalling⟩
      unfold calling at hcalling
      split at hcalling
      · cases hcalling
        rfl
      · cases hcalling
  | pinMode =>
      cases h
      rfl
  | dWrite =>
      cases h
      rfl
  | load =>
      rcases taking_goes h with ⟨_, _, _, hload⟩
      split at hload
      · exact leaving_goes hload
      · cases hload
  | store =>
      rcases taking_goes h with ⟨_, _, _, htaking⟩
      rcases taking_goes htaking with ⟨_, _, _, hstore⟩
      split at hstore
      · cases hstore
        rfl
      · cases hstore

end Machine

namespace Kernel

variable {sd : SdFat}

section Describing

variable {data : sd.File -> List Byte} {pos : sd.File -> Nat}
  {header body : List Byte} {code : List Instruction} {t : TaskId} {map : StackMap}
  {k : Kernel sd} {pc n : Nat}

variable (law : sd.Lawful data pos) (hheader : header.length = 4)
  (hdecode : decode body = some code)

include law hheader hdecode

theorem At.nextPc {stack : List Int} (h : At data pos (header ++ body) t k pc stack)
    {m : Machine}
    (hgoes : Machine.next code (k.environment t) { pc := pc, stack := stack } = .goes m) :
    k.nextPc t pc = m.pc := by
  unfold Machine.next at hgoes
  cases hinstr : instrAt code pc with
  | none =>
      rw [hinstr] at hgoes
      cases hgoes
  | some instr =>
      rw [hinstr] at hgoes
      simp only at hgoes
      rcases h.fetch law hheader hdecode hinstr with ⟨hop, _, _, hoperand⟩
      unfold Kernel.nextPc
      simp only
      rw [hop]
      cases hcase : instr.op with
      | jmp =>
          rw [hcase] at hoperand hgoes
          rcases hoperand with ⟨htarget, _⟩
          rw [htarget] at hgoes
          exact (Machine.jumping_goes hgoes).symm
      | jif =>
          rw [hcase] at hoperand hgoes
          rcases hoperand with ⟨htarget, hnext⟩
          rw [htarget] at hgoes
          rcases Machine.taking_goes hgoes with ⟨a, s, rfl, hbranch⟩
          simp only at hbranch ⊢
          rw [hnext.pop.left]
          by_cases hzero : a ≠ 0
          · rw [if_pos hzero] at hbranch ⊢
            exact (Machine.jumping_goes hbranch).symm
          · rw [if_neg hzero] at hbranch ⊢
            cases hbranch
            simp [Instruction.length, hcase, VMOpcode.hasOperand]
      | push =>
          rw [Machine.exec_goes (by simp [hcase]) (by simp [hcase]) hgoes]
          simp [Instruction.length, hcase, VMOpcode.hasOperand]
      | _ =>
          rw [Machine.exec_goes (by simp [hcase]) (by simp [hcase]) hgoes]
          simp [Instruction.length, hcase, VMOpcode.hasOperand]

/-- At every place of every run the stack fits the map. -/
theorem Executes.fits (hshort : (header ++ body).length <= 32768)
    (hall : map.Describes code)
    (h : Executes data (header ++ body) t map.leak k pc n) :
    exists stack s, At data pos (header ++ body) t k pc stack ∧
      Machine.Fits map code n { pc := pc, stack := stack } s := by
  induction h with
  | load hload hfile hdata =>
      have hstart := loadTask_at law hload hfile
      rw [hdata] at hstart
      exact ⟨[], { depth := 0, top := none }, hstart, ⟨0, rfl, hall⟩, rfl,
        fun _ hnone => by cases hnone⟩
  | leave _ hleaves ih =>
      rcases ih with ⟨stack, s, hat, hfits⟩
      exact ⟨stack, s, hat.of_leaves hleaves, hfits⟩
  | @step k pc n _ hactive ih =>
      rcases ih with ⟨stack, s, hat, hfits⟩
      have hfollows := runStep_follows law hheader hdecode hshort hat
      rcases (hfits.next (k.environment t) hall).right with hends | ⟨m, s', hgoes, hfits'⟩
      · rw [hends] at hfollows
        rw [show ((k.runStep t).tasks t).isActive = false from hfollows] at hactive
        cases hactive
      · rw [hgoes] at hfollows
        rw [hat.nextPc law hheader hdecode hgoes]
        exact ⟨m.stack, s', hfollows, hfits'⟩

end Describing

end Kernel
end ArduOS
