import ArduOS.VmTools.StackSteps

/-!
# How deep the stack is, place by place

A map gives the depth of the stack at the labels of a program.  One pass over the
instructions checks that every way to a label arrives with that depth.  At one
place, the `leak`, the map has the topmost cell forgotten, which the program keeps;
each time it is passed the stack is one cell deeper than the map says.
-/

namespace ArduOS

open Library

/-- The depth of a stack, and the operand on top where it is known. -/
structure Shape where
  depth : Nat
  top : Option Int
  deriving DecidableEq

structure StackMap where
  depths : List (Nat × Nat)
  leak : Nat
  most : Nat

def VMOpcode.arity : VMOpcode -> Nat × Nat
  | .exit => (0, 0)
  | .print => (1, 0)
  | .read => (0, 1)
  | .prtc => (1, 0)
  | .prte => (1, 0)
  | .prts => (1, 0)
  | .push => (0, 1)
  | .add => (2, 1)
  | .sub => (2, 1)
  | .eq => (2, 1)
  | .dup => (1, 2)
  | .pop => (1, 0)
  | .jmp => (0, 0)
  | .jif => (1, 0)
  | .sys => (1, 0)
  | .pinMode => (0, 0)
  | .dWrite => (0, 0)
  | .sleep => (1, 0)
  | .malloc => (1, 1)
  | .load => (1, 1)
  | .store => (2, 0)

namespace Shape

def replace (s : Shape) (taken left : Nat) (top : Option Int) : Option Shape :=
  if taken <= s.depth then some { depth := s.depth - taken + left, top := top } else none

/-- The shape after an instruction, if it can be told. -/
def after (s : Shape) (instr : Instruction) : Option Shape :=
  match instr.op with
  | .push =>
      match instr.operand with
      | some v => s.replace 0 1 (some v)
      | none => none
  | .sys =>
      match s.top with
      | some sysId =>
          if sysId = 1 then none else s.replace (1 + (Kernel.sysOperands sysId).toNat) 0 none
      | none => none
  | .malloc => none
  | op => s.replace op.arity.1 op.arity.2 none

end Shape

namespace StackMap

def entering (map : StackMap) (flow : Option Shape) (pc : Nat) : Option Shape :=
  match map.depths.lookup pc with
  | some d =>
      if flow.all fun s => s.depth = d then some { depth := d, top := none } else none
  | none => flow

/-- What the map makes of the shape where a cell is left behind. -/
def forgetting (map : StackMap) (s : Shape) (pc : Nat) : Option Shape :=
  if pc = map.leak then s.replace 1 0 none else some s

def targets (map : StackMap) (code : List Instruction) (instr : Instruction) (s : Shape) :
    Bool :=
  if instr.op = .jmp ∨ instr.op = .jif then
    match instr.operand with
    | some v => 0 <= v ∧ (instrAt code v.toNat).isSome ∧
        map.depths.lookup v.toNat = some s.depth
    | none => false
  else true

def passing (instr : Instruction) (s : Shape) : Option Shape :=
  if instr.op = .jmp ∨ instr.op = .exit then none else some s

def visit (map : StackMap) (code : List Instruction) (flow : Option Shape) (pc : Nat)
    (instr : Instruction) : Option (Option Shape) := do
  let entered <- map.entering flow pc
  let kept <- map.forgetting entered pc
  let left <- kept.after instr
  if entered.depth <= map.most ∧ map.targets code instr left then some (passing instr left)
  else none

/-- The pass over `rest`, the end of the program from `pc` on. -/
def check (map : StackMap) (code : List Instruction) :
    Option Shape -> Nat -> List Instruction -> Bool
  | flow, _, [] => flow.isNone
  | flow, pc, instr :: rest =>
      match map.visit code flow pc instr with
      | some flow => map.check code flow (pc + instr.length) rest
      | none => false

/-- The whole program, which starts with an empty stack. -/
def Describes (map : StackMap) (code : List Instruction) : Prop :=
  map.check code (some { depth := 0, top := none }) 0 code = true

instance (map : StackMap) (code : List Instruction) : Decidable (map.Describes code) :=
  inferInstanceAs (Decidable (_ = true))

end StackMap

/-- A stack of this shape, on top of `extra` cells that the shape does not count. -/
structure Shape.Covers (s : Shape) (extra : Nat) (stack : List Int) : Prop where
  depth : stack.length = extra + s.depth
  top : forall v, s.top = some v -> stack.head? = some v

/-- The machine is at a place that was checked with the shape it has. -/
structure Machine.Fits (map : StackMap) (code : List Instruction) (extra : Nat)
    (m : Machine) (s : Shape) : Prop where
  place : exists n, m.pc = startOf code n ∧
    map.check code (some s) m.pc (code.drop n) = true
  covers : s.Covers extra m.stack

section Maps

variable {map : StackMap} {code : List Instruction}

theorem check_drop {flow : Option Shape} {pc : Nat} {rest : List Instruction}
    (h : map.check code flow pc rest = true) (n : Nat) :
    exists flow', map.check code flow' (pc + startOf rest n) (rest.drop n) = true := by
  induction n generalizing flow pc rest with
  | zero => exact ⟨flow, by simpa using h⟩
  | succ n ih =>
      cases rest with
      | nil => exact ⟨flow, by simpa using h⟩
      | cons instr rest =>
          rw [StackMap.check] at h
          split at h
          · rename_i flow' _
            rcases ih h with ⟨flow'', hrest⟩
            refine ⟨flow'', ?_⟩
            rw [startOf_cons, List.drop_succ_cons, ← Nat.add_assoc]
            exact hrest
          · cases h

/-- At a label it does not matter which way was taken. -/
theorem check_label {flow : Option Shape} {pc d : Nat} {instr : Instruction}
    {rest : List Instruction} (h : map.check code flow pc (instr :: rest) = true)
    (hlabel : map.depths.lookup pc = some d) :
    map.check code (some { depth := d, top := none }) pc (instr :: rest) = true := by
  have henter : forall flow shape, map.entering flow pc = some shape ->
      map.entering (some { depth := d, top := none }) pc = some shape := by
    intro flow shape hentering
    unfold StackMap.entering at hentering ⊢
    rw [hlabel] at hentering ⊢
    simp only at hentering ⊢
    split at hentering
    · rw [if_pos (by simp)]
      exact hentering
    · cases hentering
  rw [StackMap.check] at h ⊢
  unfold StackMap.visit at h ⊢
  cases hentering : map.entering flow pc with
  | none =>
      rw [hentering] at h
      cases h
  | some shape =>
      rw [henter flow shape hentering]
      rw [hentering] at h
      exact h

/-!
## Shapes
-/

section Shapes

variable {s s' : Shape} {extra : Nat} {stack stack' : List Int}

theorem Shape.Covers.replace (h : s.Covers extra stack) {taken left : Nat}
    {top : Option Int} (hreplace : s.replace taken left top = some s')
    (hlength : taken <= stack.length -> stack'.length + taken = stack.length + left)
    (htop : forall v, top = some v -> stack'.head? = some v) : s'.Covers extra stack' := by
  have hdepth := h.depth
  unfold Shape.replace at hreplace
  split at hreplace
  · cases hreplace
    have hlen := hlength (by omega)
    constructor
    · simp only
      omega
    · exact htop
  · cases hreplace

theorem Shape.Covers.replace_unknown (h : s.Covers extra stack) {taken left : Nat}
    (hreplace : s.replace taken left none = some s')
    (hlength : taken <= stack.length -> stack'.length + taken = stack.length + left) :
    s'.Covers extra stack' :=
  h.replace hreplace hlength fun _ hnone => by cases hnone

theorem Shape.Covers.forget (h : s.Covers extra stack) {pc : Nat}
    (hforget : map.forgetting s pc = some s') :
    s'.Covers (if pc = map.leak then extra + 1 else extra) stack := by
  have hdepth := h.depth
  unfold StackMap.forgetting at hforget
  split at hforget
  · rename_i hleak
    rw [if_pos hleak]
    unfold Shape.replace at hforget
    split at hforget
    · cases hforget
      constructor
      · simp only
        omega
      · exact fun v hnone => by cases hnone
    · cases hforget
  · rename_i hleak
    rw [if_neg hleak]
    cases hforget
    exact h

theorem Shape.Covers.enter (h : s.Covers extra stack) {pc : Nat}
    (henter : map.entering (some s) pc = some s') :
    s'.depth = s.depth ∧ s'.Covers extra stack := by
  unfold StackMap.entering at henter
  split at henter
  · split at henter
    · rename_i hsame
      cases henter
      have hdepth : s.depth = _ := of_decide_eq_true (Option.all_some.symm.trans hsame)
      refine ⟨hdepth.symm, ?_, fun v hnone => by cases hnone⟩
      rw [← hdepth]
      exact h.depth
    · cases henter
  · cases henter
    exact ⟨rfl, h⟩

/-!
## Instructions
-/

inductive Machine.Behaves (code : List Instruction) (op : VMOpcode) (operand : Option Int)
    (pc extra : Nat) (s : Shape) : Transition -> Prop where
  | ends : Behaves code op operand pc extra s .ends
  | falls {stack : List Int} (hjmp : op ≠ .jmp) (hexit : op ≠ .exit)
      (hcovers : s.Covers extra stack) :
      Behaves code op operand pc extra s (.goes { pc := pc, stack := stack })
  | jumps {v : Int} {stack : List Int} (hop : op = .jmp ∨ op = .jif)
      (hoperand : operand = some v) (hcovers : s.Covers extra stack) :
      Behaves code op operand pc extra s (Machine.jumping code v stack)

variable {code : List Instruction} {env : Environment} {op : VMOpcode}
  {operand : Option Int} {pc : Nat}

theorem leaving_behaves (hjmp : op ≠ .jmp) (hexit : op ≠ .exit) {v : Int}
    (hcovers : s'.Covers extra (v :: stack)) :
    Machine.Behaves code op operand pc extra s' (Machine.leaving pc v stack) := by
  unfold Machine.leaving
  split
  · exact .falls hjmp hexit hcovers
  · exact .ends

theorem taking_behaves (hjmp : op ≠ .jmp) (hexit : op ≠ .exit) (h : s.Covers extra stack)
    (hreplace : s.replace 1 0 none = some s') :
    Machine.Behaves code op operand pc extra s'
      (Machine.taking stack fun _ stack => .goes { pc := pc, stack := stack }) := by
  cases stack with
  | nil => exact .ends
  | cons a stack =>
      exact .falls hjmp hexit (h.replace_unknown hreplace (by simp))

theorem combining_behaves (hjmp : op ≠ .jmp) (hexit : op ≠ .exit)
    (h : s.Covers extra stack) (hreplace : s.replace 2 1 none = some s')
    (f : Int -> Int -> Int) :
    Machine.Behaves code op operand pc extra s' (Machine.combining pc f stack) := by
  rcases stack with _ | ⟨a, _ | ⟨b, stack⟩⟩
  · exact .ends
  · exact .ends
  · exact .falls hjmp hexit (h.replace_unknown hreplace (by simp))

theorem calling_behaves (h : s.Covers extra stack)
    (hafter : s.after { op := .sys, operand := operand } = some s') :
    Machine.Behaves code .sys operand pc extra s'
      (Machine.taking stack fun sysId stack => Machine.calling pc sysId stack) := by
  unfold Shape.after at hafter
  simp only at hafter
  split at hafter
  · rename_i sysId htop
    split at hafter
    · cases hafter
    · rename_i hls
      have hhead := h.top sysId htop
      cases stack with
      | nil => cases hhead
      | cons a stack =>
          cases hhead
          have hdepth := h.depth
          have htaken : 1 + (Kernel.sysOperands sysId).toNat <= s.depth := by
            unfold Shape.replace at hafter
            split at hafter
            · assumption
            · cases hafter
          rw [List.length_cons] at hdepth
          unfold Machine.taking Machine.calling
          simp only
          rw [if_pos ⟨hls, by omega⟩]
          apply Machine.Behaves.falls (by decide) (by decide)
          apply h.replace_unknown hafter
          intro _
          rw [List.length_drop, List.length_cons]
          omega
  · cases hafter

theorem exec_behaves (h : s.Covers extra stack)
    (hjump : op = .jmp ∨ op = .jif -> operand.isSome = true)
    (hafter : s.after { op := op, operand := operand } = some s') :
    Machine.Behaves code op operand pc extra s'
      (Machine.exec code env op operand pc stack) := by
  cases op with
  | exit => exact .ends
  | print => exact taking_behaves (by decide) (by decide) h hafter
  | read =>
      have hreplace : s.replace 0 1 none = some s' := hafter
      apply leaving_behaves (by decide) (by decide)
      exact h.replace_unknown hreplace (by simp)
  | prtc => exact taking_behaves (by decide) (by decide) h hafter
  | prte => exact taking_behaves (by decide) (by decide) h hafter
  | prts => exact taking_behaves (by decide) (by decide) h hafter
  | push =>
      cases operand with
      | none => cases hafter
      | some v =>
          have hreplace : s.replace 0 1 (some v) = some s' := hafter
          apply leaving_behaves (by decide) (by decide)
          exact h.replace hreplace (by simp) fun _ htop => htop
  | add => exact combining_behaves (by decide) (by decide) h hafter _
  | sub => exact combining_behaves (by decide) (by decide) h hafter _
  | eq => exact combining_behaves (by decide) (by decide) h hafter _
  | dup =>
      have hreplace : s.replace 1 2 none = some s' := hafter
      cases stack with
      | nil => exact .ends
      | cons a stack =>
          apply leaving_behaves (by decide) (by decide)
          exact h.replace_unknown hreplace (by simp)
  | pop => exact taking_behaves (by decide) (by decide) h hafter
  | jmp =>
      have hreplace : s.replace 0 0 none = some s' := hafter
      rcases Option.isSome_iff_exists.mp (hjump (.inl rfl)) with ⟨v, rfl⟩
      exact .jumps (.inl rfl) rfl (h.replace_unknown hreplace (by simp))
  | jif =>
      have hreplace : s.replace 1 0 none = some s' := hafter
      rcases Option.isSome_iff_exists.mp (hjump (.inr rfl)) with ⟨v, rfl⟩
      cases stack with
      | nil => exact .ends
      | cons a stack =>
          have hcovers : s'.Covers extra stack := h.replace_unknown hreplace (by simp)
          unfold Machine.exec Machine.taking
          simp only
          split
          · exact .jumps (.inr rfl) rfl hcovers
          · exact .falls (by decide) (by decide) hcovers
  | sys => exact calling_behaves h hafter
  | pinMode =>
      have hreplace : s.replace 0 0 none = some s' := hafter
      exact .falls (by decide) (by decide) (h.replace_unknown hreplace (by simp))
  | dWrite =>
      have hreplace : s.replace 0 0 none = some s' := hafter
      exact .falls (by decide) (by decide) (h.replace_unknown hreplace (by simp))
  | sleep => exact taking_behaves (by decide) (by decide) h hafter
  | malloc => cases hafter
  | load =>
      have hreplace : s.replace 1 1 none = some s' := hafter
      cases stack with
      | nil => exact .ends
      | cons a stack =>
          unfold Machine.exec Machine.taking
          simp only
          split
          · apply leaving_behaves (by decide) (by decide)
            exact h.replace_unknown hreplace (by simp)
          · exact .ends
  | store =>
      have hreplace : s.replace 2 0 none = some s' := hafter
      rcases stack with _ | ⟨a, _ | ⟨b, stack⟩⟩
      · exact .ends
      · exact .ends
      · unfold Machine.exec Machine.taking
        simp only
        split
        · exact .falls (by decide) (by decide) (h.replace_unknown hreplace (by simp))
        · exact .ends

end Shapes

/-!
## Steps
-/

section Stepping

variable {code : List Instruction} {env : Environment} {extra : Nat} {m : Machine}
  {s : Shape}

theorem visit_cases {instr : Instruction} {pc : Nat} {flow : Option Shape}
    (h : map.visit code (some s) pc instr = some flow) :
    exists entered kept left, map.entering (some s) pc = some entered ∧
      map.forgetting entered pc = some kept ∧ kept.after instr = some left ∧
      entered.depth <= map.most ∧ map.targets code instr left = true ∧
      flow = StackMap.passing instr left := by
  unfold StackMap.visit at h
  rcases Option.bind_eq_some_iff.mp h with ⟨entered, henter, h⟩
  rcases Option.bind_eq_some_iff.mp h with ⟨kept, hforget, h⟩
  rcases Option.bind_eq_some_iff.mp h with ⟨left, hafter, h⟩
  split at h
  · rename_i hfine
    cases h
    exact ⟨entered, kept, left, henter, hforget, hafter, hfine.left, hfine.right, rfl⟩
  · cases h

/-- A jump arrives at a place that was checked with the shape it arrives with. -/
theorem jumping_fits (hall : map.Describes code) {instr : Instruction} {v : Int}
    {stack : List Int} (hop : instr.op = .jmp ∨ instr.op = .jif)
    (hoperand : instr.operand = some v) (htargets : map.targets code instr s = true)
    (hcovers : s.Covers extra stack) :
    exists m' s', Machine.jumping code v stack = .goes m' ∧
      Machine.Fits map code extra m' s' := by
  unfold StackMap.targets at htargets
  rw [if_pos hop, hoperand] at htargets
  rcases of_decide_eq_true htargets with ⟨hpos, hsome, hlabel⟩
  rcases Option.isSome_iff_exists.mp hsome with ⟨_, hinstr⟩
  rcases exists_of_instrAt hinstr with ⟨n, hpc, hn⟩
  rcases check_drop hall n with ⟨flow, hcheck⟩
  rcases List.getElem?_eq_some_iff.mp hn with ⟨hlt, hget⟩
  rw [Nat.zero_add, ← hpc, List.drop_eq_getElem_cons hlt] at hcheck
  refine ⟨{ pc := v.toNat, stack := stack }, { depth := s.depth, top := none }, ?_, ?_⟩
  · unfold Machine.jumping
    rw [if_pos ⟨hpos, hsome⟩]
  · refine ⟨⟨n, hpc, ?_⟩, hcovers.depth, fun _ hnone => by cases hnone⟩
    rw [List.drop_eq_getElem_cons hlt]
    exact check_label hcheck hlabel

theorem Machine.Fits.depth_of_label (h : m.Fits map code extra s) {d : Nat}
    (hlabel : map.depths.lookup m.pc = some d) : m.stack.length = extra + d := by
  rcases h.place with ⟨n, _, hcheck⟩
  cases hrest : code.drop n with
  | nil =>
      rw [hrest] at hcheck
      cases hcheck
  | cons instr rest =>
      rw [hrest, StackMap.check] at hcheck
      split at hcheck
      · rename_i flow hvisit
        rcases visit_cases hvisit with ⟨entered, _, _, henter, _⟩
        have hdepth := (h.covers.enter henter).left
        unfold StackMap.entering at henter
        rw [hlabel] at henter
        simp only at henter
        split at henter
        · cases henter
          rw [h.covers.depth, ← hdepth]
        · cases henter
      · cases hcheck

theorem Machine.Fits.next (env : Environment) (hall : map.Describes code)
    (h : m.Fits map code extra s) :
    s.depth <= map.most ∧
      (Machine.next code env m = .ends ∨
        exists m' s', Machine.next code env m = .goes m' ∧
          m'.Fits map code (if m.pc = map.leak then extra + 1 else extra) s') := by
  rcases h.place with ⟨n, hpc, hcheck⟩
  cases hrest : code.drop n with
  | nil =>
      rw [hrest] at hcheck
      cases hcheck
  | cons instr rest =>
      have hn : code[n]? = some instr := by
        have hhead := congrArg List.head? hrest
        rw [List.head?_drop] at hhead
        exact hhead
      have hafter : code.drop (n + 1) = rest := by
        rw [← List.tail_drop, hrest]
        rfl
      have hinstr := instrAt_startOf hn
      rw [← hpc] at hinstr
      rw [hrest, StackMap.check] at hcheck
      split at hcheck
      · rename_i flow hvisit
        rcases visit_cases hvisit with
          ⟨entered, kept, left, henter, hforget, hleft, hmost, htargets, rfl⟩
        rcases h.covers.enter henter with ⟨hdepth, hentered⟩
        refine ⟨by rw [← hdepth]; exact hmost, ?_⟩
        have hkept := hentered.forget hforget
        have hjump : instr.op = .jmp ∨ instr.op = .jif -> instr.operand.isSome = true := by
          intro hop
          unfold StackMap.targets at htargets
          rw [if_pos hop] at htargets
          split at htargets
          · rename_i hoperand
            rw [hoperand]
            rfl
          · cases htargets
        have hbehaves := @exec_behaves kept left _ m.stack code env instr.op instr.operand
          (m.pc + instr.length) hkept hjump hleft
        unfold Machine.next
        rw [hinstr]
        simp only
        generalize Machine.exec code env instr.op instr.operand (m.pc + instr.length)
          m.stack = result at hbehaves ⊢
        cases hbehaves with
        | ends => exact .inl rfl
        | falls hjmp hexit hcovers =>
            right
            refine ⟨_, left, rfl, ⟨n + 1, ?_, ?_⟩, hcovers⟩
            · rw [startOf_succ hn, hpc]
            · rw [hafter]
              unfold StackMap.passing at hcheck
              rw [if_neg (by simp [hjmp, hexit])] at hcheck
              exact hcheck
        | jumps hop hoperand hcovers =>
            right
            exact jumping_fits hall hop hoperand htargets hcovers
      · cases hcheck

end Stepping

end Maps

end ArduOS
