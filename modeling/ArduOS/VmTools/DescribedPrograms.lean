import ArduOS.VmTools.Shell

/-!
# Programs that do not go wrong

A program that a map describes never takes an operand that is not there, never has more
than its stack holds and never runs out of its code.  What is left to end it are `EXIT`
and an address outside the heap.
-/

namespace ArduOS

open Library

/-!
## The machine
-/

inductive Machine.EndsBy (env : Environment) (stack : List Int) (op : VMOpcode) : Prop where
  | exit (h : op = .exit)
  | address (h : op = .load ∨ op = .store) (addr : Int) (htop : stack.head? = some addr)
      (houtside : env.accessible addr = false)

section Ending

variable {map : StackMap} {code : List Instruction} {env : Environment} {extra pc : Nat}
  {s s' : Shape} {stack : List Int} {m : Machine}

theorem Shape.Covers.enough (h : s.Covers extra stack) {taken left : Nat}
    {top : Option Int} (hreplace : s.replace taken left top = some s') :
    taken <= stack.length := by
  have hdepth := h.depth
  unfold Shape.replace at hreplace
  split at hreplace
  · omega
  · cases hreplace

theorem Machine.leaving_goes_on {val : Int} (hroom : stack.length < VM_STACK_SIZE) :
    Machine.leaving pc val stack ≠ .ends := by
  unfold Machine.leaving
  rw [if_pos hroom]
  exact fun hends => by cases hends

theorem Machine.taking_goes_on {next : Int -> List Int -> Transition}
    (henough : 1 <= stack.length)
    (hnext : forall a rest, stack = a :: rest -> next a rest ≠ .ends) :
    Machine.taking stack next ≠ .ends := by
  cases stack with
  | nil => cases henough
  | cons a rest => exact hnext a rest rfl

theorem Machine.combining_goes_on (henough : 2 <= stack.length) (f : Int -> Int -> Int) :
    Machine.combining pc f stack ≠ .ends := by
  apply Machine.taking_goes_on (Nat.le_of_succ_le henough)
  rintro a rest rfl
  rw [List.length_cons] at henough
  apply Machine.taking_goes_on (Nat.le_of_succ_le_succ henough)
  intro b rest' _ hends
  cases hends

theorem Machine.jumping_goes_on (target : Int) :
    Machine.jumping code target stack ≠ .ends := by
  unfold Machine.jumping
  split
  · exact fun hends => by cases hends
  · exact fun hends => by cases hends

theorem Machine.exec_ends {op : VMOpcode} {operand : Option Int} (h : s.Covers extra stack)
    (hroom : stack.length < VM_STACK_SIZE)
    (hafter : s.after { op := op, operand := operand } = some s')
    (hends : Machine.exec code env op operand pc stack = .ends) :
    Machine.EndsBy env stack op := by
  have hone : forall {next : Int -> List Int -> Transition} {left : Nat},
      s.replace 1 left none = some s' -> (forall a rest, stack = a :: rest ->
        next a rest ≠ .ends) -> Machine.taking stack next ≠ .ends :=
    fun hreplace => Machine.taking_goes_on (h.enough hreplace)
  cases op with
  | exit => exact .exit rfl
  | print => exact absurd hends (hone hafter fun _ _ _ hgoes => by cases hgoes)
  | prtc => exact absurd hends (hone hafter fun _ _ _ hgoes => by cases hgoes)
  | prte => exact absurd hends (hone hafter fun _ _ _ hgoes => by cases hgoes)
  | prts => exact absurd hends (hone hafter fun _ _ _ hgoes => by cases hgoes)
  | pop => exact absurd hends (hone hafter fun _ _ _ hgoes => by cases hgoes)
  | sleep => exact absurd hends (hone hafter fun _ _ _ hgoes => by cases hgoes)
  | read => exact absurd hends (Machine.leaving_goes_on hroom)
  | push =>
      cases operand with
      | none => cases hafter
      | some v => exact absurd hends (Machine.leaving_goes_on hroom)
  | add => exact absurd hends (Machine.combining_goes_on (h.enough hafter) _)
  | sub => exact absurd hends (Machine.combining_goes_on (h.enough hafter) _)
  | eq => exact absurd hends (Machine.combining_goes_on (h.enough hafter) _)
  | dup =>
      refine absurd hends (hone hafter ?_)
      intro _ _ _
      exact Machine.leaving_goes_on hroom
  | jmp =>
      cases operand with
      | none => cases hends
      | some v => exact absurd hends (Machine.jumping_goes_on v)
  | jif =>
      cases operand with
      | none => cases hends
      | some v =>
          refine absurd hends (hone hafter ?_)
          intro a rest _
          split
          · exact Machine.jumping_goes_on v
          · exact fun hgoes => by cases hgoes
  | sys =>
      refine absurd hends (Machine.taking_goes_on ?_ ?_)
      · unfold Shape.after at hafter
        simp only at hafter
        split at hafter
        · split at hafter
          · cases hafter
          · exact Nat.le_trans (Nat.le_add_right 1 _) (h.enough hafter)
        · cases hafter
      · intro sysId rest _
        unfold Machine.calling
        split
        · exact fun hgoes => by cases hgoes
        · exact fun hgoes => by cases hgoes
  | malloc => cases hafter
  | load =>
      have henough : 1 <= stack.length := h.enough hafter
      cases stack with
      | nil => cases henough
      | cons addr rest =>
          cases haccess : env.accessible addr with
          | false => exact .address (.inl rfl) addr rfl haccess
          | true =>
              have hgoes : Machine.exec code env .load operand pc (addr :: rest) =
                  Machine.leaving pc (env.cell addr) rest := by
                simp [Machine.exec, Machine.taking, haccess]
              rw [hgoes] at hends
              exact absurd hends (Machine.leaving_goes_on (Nat.lt_of_succ_lt hroom))
  | store =>
      have henough : 2 <= stack.length := h.enough hafter
      rcases stack with _ | ⟨addr, _ | ⟨val, rest⟩⟩
      · cases henough
      · exact absurd henough (by simp)
      · cases haccess : env.accessible addr with
        | false => exact .address (.inr rfl) addr rfl haccess
        | true =>
            simp [Machine.exec, Machine.taking, haccess] at hends
  | pinMode => cases hends
  | dWrite => cases hends

theorem Machine.Fits.ends (h : m.Fits map code extra s)
    (hroom : extra + map.most < VM_STACK_SIZE) (hends : Machine.next code env m = .ends) :
    exists instr, instrAt code m.pc = some instr ∧ Machine.EndsBy env m.stack instr.op := by
  rcases h.place with ⟨n, hpc, hcheck⟩
  cases hrest : code.drop n with
  | nil =>
      rw [hrest] at hcheck
      cases hcheck
  | cons instr rest =>
      have hn : code[n]? = some instr := by
        have hhead := congrArg List.head? hrest
        rw [List.head?_drop] at hhead
        exact hhead
      have hinstr := instrAt_startOf hn
      rw [← hpc] at hinstr
      rw [hrest, StackMap.check] at hcheck
      split at hcheck
      · rename_i flow hvisit
        rcases visit_cases hvisit with ⟨entered, kept, left, henter, hforget, hleft, hmost, _⟩
        rcases h.covers.enter henter with ⟨hdepth, hentered⟩
        have hlength := h.covers.depth
        unfold Machine.next at hends
        rw [hinstr] at hends
        exact ⟨instr, hinstr, Machine.exec_ends (hentered.forget hforget) (by omega) hleft
          hends⟩
      · cases hcheck

end Ending

/-!
## The system
-/

namespace Kernel

variable {sd : SdFat}

/-- The instruction `op` of slot `t` ends the program by itself, or by its address. -/
inductive EndsItself (k : Kernel sd) (t : TaskId) (op : VMOpcode) : Prop where
  | exit (h : op = .exit)
  | address (h : op = .load ∨ op = .store)
      (houtside : inHeap (k.getPhysAddr t ((k.tasks t).stack (k.tasks t).sp)) = false)

section Describing

variable {data : sd.File -> List Byte} {pos : sd.File -> Nat} {header body : List Byte}
  {code : List Instruction} {map : StackMap} {t : TaskId} {k : Kernel sd} {pc n : Nat}

theorem Executes.runStep_ends (law : sd.Lawful data pos) (hheader : header.length = 4)
    (hdecode : decode body = some code) (hshort : (header ++ body).length <= 32768)
    (hall : map.Describes code) (hroom : n + map.most < VM_STACK_SIZE)
    (h : Executes data (header ++ body) t map.leak k pc n)
    (hends : ((k.runStep t).tasks t).isActive = false) :
    exists instr, instrAt code pc = some instr ∧ EndsItself k t instr.op := by
  rcases h.fits law hheader hdecode hshort hall with ⟨stack, s, hat, hfits⟩
  have hfollows := runStep_follows law hheader hdecode hshort hat
  rcases (hfits.next (k.environment t) hall).right with hnext | ⟨m, s', hgoes, _⟩
  · rcases hfits.ends hroom hnext with ⟨instr, hinstr, hby⟩
    refine ⟨instr, hinstr, ?_⟩
    cases hby with
    | exit hexit => exact .exit hexit
    | address hop addr htop houtside =>
        have hhead : exists rest, stack = addr :: rest := List.head?_eq_some_iff.mp htop
        rcases hhead with ⟨rest, rfl⟩
        refine .address hop ?_
        rw [hat.top]
        exact houtside
  · -- the machine goes on, and so does the program
    rw [hgoes] at hfollows
    have hactive : ((k.runStep t).tasks t).isActive = true := At.active hfollows
    rw [hactive] at hends
    cases hends

/--
A program that a map describes, in any run of the system: it is ended by nobody but
itself, and, while the cells it has left behind leave room on the stack, by `EXIT` or an
address outside the heap and by nothing else.  Its file has at most 32768 bytes: in a
longer one a jump from 32764 on adds up to a negative position.
-/
theorem described_program_ends (law : sd.Lawful data pos) (hheader : header.length = 4)
    (hdecode : decode body = some code) (hshort : (header ++ body).length <= 32768)
    (hall : map.Describes code) (ht : t ≠ 0)
    (h : Executes data (header ++ body) t map.leak k pc n) (e : Event)
    (hends : ((k.step e).tasks t).isActive = false) :
    exists k', e = .turn ∧ k.current = t ∧ k.dispatches t = some k' ∧
      (n + map.most < VM_STACK_SIZE ->
        exists instr, instrAt code pc = some instr ∧ EndsItself k' t instr.op) := by
  by_cases hother : e = .turn -> k.current = t -> k.dispatches t = none
  · have hleaves := step_leaves ht (h.active law) e hother
    rw [hleaves.active, h.active law] at hends
    cases hends
  · rw [Classical.not_imp, Classical.not_imp] at hother
    rcases hother with ⟨rfl, hcurrent, hsome⟩
    cases hturn : k.dispatches t with
    | none => exact absurd hturn hsome
    | some k' =>
        have hstep := step_turn_of_dispatches hcurrent hturn
        have hwoken := h.leave (wakeUp_leaves (dispatches_cases hturn).right.right)
        rw [hstep] at hends
        exact ⟨k', rfl, hcurrent, rfl, fun hroom =>
          hwoken.runStep_ends law hheader hdecode hshort hall hroom hends⟩

end Describing

def strayingBody : List Byte := [0x10#8, 0xD0#8, 0x07#8, 0x51#8, 0x00#8]

def strayingProgram : List Byte := [0xAD#8, 0x01#8, 0x10#8, 0x00#8] ++ strayingBody

def strayingMap : StackMap := { depths := [], leak := 100, most := 1 }

def strayingStart : Bool × Kernel CardImage.sdFat :=
  (boot (CardImage.ofProgram 16#8 strayingBody 1)).loadTask 1 (text "p") none none none

def strayingCode : List Instruction :=
  [{ op := .push, operand := some 2000 }, { op := .load, operand := none },
    { op := .exit, operand := none }]

def straying : Kernel CardImage.sdFat := (strayingStart.2.runStep 1).step .turn

set_option maxRecDepth 4000 in
theorem straying_ends : exists k' op,
    straying.dispatches 1 = some k' ∧ EndsItself k' 1 op := by
  have hfacts : (strayingStart.1 = true ∧
      (strayingStart.2.tasks 1).file.map ImageFile.data = some strayingProgram) ∧
      ((strayingStart.2.runStep 1).tasks 1).isActive = true ∧
      strayingStart.2.nextPc 1 0 = 3 ∧ (strayingStart.2.runStep 1).current = 0 ∧
      ((straying.step .turn).tasks 1).isActive = false := by decide +kernel
  rcases hfacts with ⟨⟨hok, hdata⟩, hactive, hpc, hcurrent, hends⟩
  have hdescribes : strayingMap.Describes strayingCode := by decide
  have hdecode : decode strayingBody = some strayingCode := by decide
  rcases Option.map_eq_some_iff.mp hdata with ⟨file, hfile, hprogram⟩
  have hload : strayingStart = (true, strayingStart.2) := by rw [← hok]
  have hstart : Executes ImageFile.data strayingProgram 1 strayingMap.leak strayingStart.2 0
      0 := .load hload hfile hprogram
  have hpushed := hstart.step hactive
  rw [hpc, if_neg (by decide)] at hpushed
  have hhere := hpushed.leave (step_leaves (by decide) hactive .turn fun _ hone => by
    rw [hcurrent] at hone
    cases hone)
  rcases described_program_ends sdFat_lawful rfl hdecode (by decide) hdescribes (by decide)
    hhere .turn hends with ⟨k', _, _, hturn, hby⟩
  rcases hby (by decide) with ⟨instr, _, hitself⟩
  exact ⟨k', instr.op, hturn, hitself⟩

end Kernel

end ArduOS
