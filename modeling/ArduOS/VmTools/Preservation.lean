import ArduOS.Kernel.PathBuffer
import ArduOS.VmTools.MemoryMachine
import ArduOS.VmTools.SourceProgram

/-!
# Assembled programs do what their source says

A source and the file that the assembler makes of it are run side by side.  Whatever
happens in between, the slot is at the statement the source is at, with the same operands,
and its next step is the next step of the source.
-/

namespace ArduOS

open Library

/-!
## Instructions and statements
-/

section Relocating

variable {f : Nat -> Nat} {n : Nat} {stack : List Int}

theorem relocate_leaving (val : Int) :
    Machine.leaving (f n) val stack = (Machine.leaving n val stack).relocate f := by
  unfold Machine.leaving
  split <;> rfl

theorem relocate_taking {next next' : Int -> List Int -> Transition}
    (h : forall a s, next' a s = (next a s).relocate f) :
    Machine.taking stack next' = (Machine.taking stack next).relocate f := by
  cases stack with
  | nil => rfl
  | cons a s => exact h a s

theorem relocate_combining (op : Int -> Int -> Int) :
    Machine.combining (f n) op stack = (Machine.combining n op stack).relocate f :=
  relocate_taking fun _ _ => relocate_taking fun _ _ => rfl

theorem relocate_calling (sysId : Int) :
    Machine.calling (f n) sysId stack = (Machine.calling n sysId stack).relocate f := by
  unfold Machine.calling
  split <;> rfl

theorem relocate_exec {code : List Instruction} {env : Environment} {op : VMOpcode}
    (hplain : op.hasOperand = false) :
    Machine.exec code env op none (f n) stack =
      (Machine.exec [] env op none n stack).relocate f := by
  cases op with
  | push | jmp | jif => cases hplain
  | exit | malloc | pinMode | dWrite => rfl
  | add | sub | eq => exact relocate_combining _
  | dup => exact relocate_taking fun _ _ => relocate_leaving _
  | pop | print | prtc | prte | prts | sleep => exact relocate_taking fun _ _ => rfl
  | read => exact relocate_leaving _
  | sys => exact relocate_taking fun _ _ => relocate_calling _
  | load =>
      apply relocate_taking
      intro addr s
      split
      · exact relocate_leaving _
      · rfl
  | store =>
      apply relocate_taking
      intro addr s
      apply relocate_taking
      intro _ s
      split <;> rfl

end Relocating

section Statements

variable {code : List Instruction}

theorem going_realized {target : Option Nat} {v : Int}
    (h : forall n, target = some n -> v = startOf code n) (stack : List Int) :
    Statement.going code.length target stack = .unsettled ∨
      Machine.jumping code v stack =
        (Statement.going code.length target stack).relocate (startOf code) := by
  unfold Statement.going
  cases target with
  | none => exact .inl rfl
  | some n =>
      simp only
      by_cases hn : n < code.length
      · right
        have hv : v = startOf code n := h n rfl
        have hinstr := instrAt_startOf (List.getElem?_eq_getElem hn)
        rw [if_pos hn, hv]
        unfold Machine.jumping
        rw [Int.toNat_natCast, if_pos ⟨Int.natCast_nonneg _, by rw [hinstr]; rfl⟩]
        rfl
      · left
        rw [if_neg hn]

theorem Statement.exec_plain {op : VMOpcode} (hmalloc : op ≠ .malloc) (hsys : op ≠ .sys)
    (count : Nat) (world : World) (n : Nat) (stack : List Int) :
    (Statement.plain op).exec count world n stack =
      Machine.exec [] world.toEnvironment op none n stack := by
  cases op with
  | malloc => exact absurd rfl hmalloc
  | sys => exact absurd rfl hsys
  | _ => rfl

/--
What the code does at a statement is what the statement does, where that is settled and
no allocation.
-/
theorem exec_realized (world : World) {stmt : Statement} {instr : Instruction}
    (h : Realizes code stmt instr) (hmalloc : stmt ≠ .plain .malloc) (n : Nat)
    (stack : List Int) :
    stmt.exec code.length world n stack = .unsettled ∨
      Machine.exec code world.toEnvironment instr.op instr.operand (startOf code n) stack =
        (stmt.exec code.length world n stack).relocate (startOf code) := by
  cases h with
  | push val => exact .inr (relocate_leaving val)
  | jump htarget => exact going_realized htarget stack
  | branch htarget =>
      cases stack with
      | nil => exact .inr rfl
      | cons a s =>
          unfold Statement.exec Machine.exec Machine.taking
          simp only
          by_cases hzero : a ≠ 0
          · rw [if_pos hzero, if_pos hzero]
            exact going_realized htarget s
          · rw [if_neg hzero, if_neg hzero]
            exact .inr rfl
  | @plain op hplain =>
      by_cases hsys : op = .sys
      · subst hsys
        unfold Statement.exec
        by_cases hkeeps : world.keeps = true
        · rw [if_pos hkeeps]
          exact .inr (relocate_exec hplain)
        · rw [if_neg hkeeps]
          exact .inl rfl
      · rw [Statement.exec_plain (fun heq => hmalloc (by rw [heq])) hsys]
        exact .inr (relocate_exec hplain)

end Statements

/-- The access is to a place of the array that it is meant for. -/
def Access.inside : Access -> Bool
  | .stack _ index => 0 <= index ∧ index < VM_STACK_SIZE
  | .heapRead index | .heapWrite index => Kernel.inHeap index
  | .chars (.cwd _) terminator => terminator < 32
  | .chars .pathBuffer terminator => terminator < Kernel.PATH_BUFFER_SIZE
  | .dispatch _ _ | .stdin _ | .exec _ _ _ => true

namespace Kernel

variable {sd : SdFat}

def awake (k : Kernel sd) (t : TaskId) : Kernel sd :=
  k.modifyTask t fun task => { task with wakeUpTime := 0#32 }

/-- No access of the next step of slot `t` is to a place outside an array. -/
def keepsToArrays (k : Kernel sd) (t : TaskId) : Bool :=
  (((k.awake t).runStep t).log.drop k.log.length).all Access.inside

/-!
## Allocations
-/

theorem malloc_congr {k k' : Kernel sd} (h : k'.records = k.records) (t : TaskId)
    (size : Int) : (k'.malloc t size).1 = (k.malloc t size).1 := by
  have hbits : k'.isAllocated = k.isAllocated := congrArg Records.allocated h
  have htable : (k'.tasks t).allocTable = (k.tasks t).allocTable :=
    congrArg (fun r => (Records.task r t).allocTable) h
  have hentry : k'.freeEntry t = k.freeEntry t := by
    unfold freeEntry
    rw [htable]
  have hat : forall start, (k'.mallocAt t start size).1 = (k.mallocAt t start size).1 := by
    intro start
    unfold mallocAt
    rw [hentry]
    cases k.freeEntry t with
    | none => rfl
    | some j => rfl
  rcases k.malloc_cases t size with ⟨hnone, hno⟩ | ⟨start, hrun, hfound⟩
  · rcases k'.malloc_cases t size with ⟨hnone', _⟩ | ⟨start', hrun', _⟩
    · rw [hnone, hnone']
    · rw [hbits] at hrun'
      exact absurd hrun'.run (hno start')
  · rcases k'.malloc_cases t size with ⟨_, hno'⟩ | ⟨start', hrun', hfound'⟩
    · rw [hbits] at hno'
      exact absurd hrun.run (hno' start)
    · rw [hbits] at hrun'
      rw [hfound, hfound', hrun'.unique hrun]
      exact hat start

theorem malloc_leaves (k : Kernel sd) (t : TaskId) (size : Int) :
    Leaves t k (k.malloc t size).2 := by
  rcases k.malloc_cases t size with ⟨hnone, _⟩ | ⟨start, _, hfound⟩
  · rw [hnone]
    exact .refl t k
  · rw [hfound]
    unfold mallocAt
    split
    · simp only
      exact stdWrite_leaves k t _ _
    · simp only
      have hmarked : Leaves t k (k.setAllocatedRange start size true) :=
        .of_tasks (k.setAllocatedRange_tasks start size true)
      exact hmarked.trans (modifyTask_leaves _ rfl)

def world (k : Kernel sd) (t : TaskId) : World :=
  { k.environment t with
    allocate := fun size =>
      if (k.malloc t size).1 = -1 then 0 else (k.malloc t size).1
    keeps := k.keepsToArrays t }

section Allocating

variable {data : sd.File -> List Byte} {pos : sd.File -> Nat} {program : List Byte}
  {t : TaskId} {k k' : Kernel sd} {pc : Nat} {stack : List Int}

theorem opMalloc_follows (h : At data pos program t k pc stack)
    (hrecords : k.records = k'.records) :
    Follows data pos program t (k.opMalloc t)
      (Machine.taking stack fun size s =>
        Machine.leaving pc ((k'.world t).allocate size) s) := by
  apply checkStackUnderflow_follows h
  rintro size s rfl
  rcases h.pop with ⟨hsize, hpop⟩
  have haddr : ((k.stackPop t).2.malloc t size).1 = (k'.malloc t size).1 :=
    malloc_congr ((k.records_stackPop t).trans hrecords) t size
  simp only
  rw [hsize]
  apply checkStackOverflow_follows (hpop.of_leaves (malloc_leaves _ t size))
  have hpushed := (hpop.of_leaves (malloc_leaves _ t size)).push
    ((k'.world t).allocate size)
  unfold world at hpushed ⊢
  simp only at hpushed ⊢
  rw [haddr]
  exact hpushed

end Allocating

/-!
## One step of both
-/

/-- The heap when the statement was executed, for all statements but system calls. -/
def heapAfter (k : Kernel sd) (t : TaskId) (stmt : Statement) (stack : List Int) :
    Int -> Int :=
  match stmt, stack with
  | .plain .store, addr :: val :: _ =>
      Function.update k.globalHeap (k.getPhysAddr t addr) val
  | _, _ => k.globalHeap

theorem heapAfter_of_ne (k : Kernel sd) (t : TaskId) {stmt : Statement} (stack : List Int)
    (h : stmt ≠ .plain .store) : k.heapAfter t stmt stack = k.globalHeap := by
  unfold heapAfter
  split
  · exact absurd rfl h
  · rfl

/--
The next step of slot `t`, where the source is at `m`: the slot goes where the source goes,
it ends where the source ends, and the same cell is written.
-/
structure Mimics (data : sd.File -> List Byte) (pos : sd.File -> Nat) (program : List Byte)
    (f : Nat -> Nat) (t : TaskId) (stmts : List Statement) (k : Kernel sd) (m : Machine) :
    Prop where
  place : At data pos program t k (f m.pc) m.stack
  follows : Follows data pos program t (k.runStep t)
    ((Statement.next stmts (k.world t) m).relocate f)
  heap : forall stmt m', stmts[m.pc]? = some stmt -> stmt ≠ .plain .sys ->
    Statement.next stmts (k.world t) m = .goes m' ->
    (k.runStep t).globalHeap = k.heapAfter t stmt m.stack

section Simulation

variable {data : sd.File -> List Byte} {pos : sd.File -> Nat} {header body : List Byte}
  {code : List Instruction} {stmts : List Statement} {t : TaskId} {k : Kernel sd}
  {n : Nat} {stack : List Int}

theorem instr_of_statement (hall : List.Forall₂ (Realizes code) stmts code)
    {stmt : Statement} (hstmt : stmts[n]? = some stmt) :
    exists instr, code[n]? = some instr ∧ Realizes code stmt instr := by
  rcases List.getElem?_eq_some_iff.mp hstmt with ⟨hlt, hget⟩
  have hlt' : n < code.length := by
    rw [← hall.length_eq]
    exact hlt
  refine ⟨code[n], List.getElem?_eq_getElem hlt', ?_⟩
  have hget' := List.Forall₂.get hall hlt hlt'
  rw [List.get_eq_getElem, List.get_eq_getElem, hget] at hget'
  exact hget'

variable (law : sd.Lawful data pos) (hheader : header.length = 4)
  (hdecode : decode body = some code)

include law hheader hdecode

theorem At.dispatch (h : At data pos (header ++ body) t k (startOf code n) stack)
    {instr : Instruction} (hinstr : code[n]? = some instr) :
    k.nextOpcode t = some instr.op ∧ Fetched t k (k.fetchByte t).2 ∧
      (k.fetchByte t).2.records = k.records ∧
      k.runStep t = (k.fetchByte t).2.execute t (k.fetchByte t).1 ∧
      VMOpcode.ofByte? (k.fetchByte t).1 = some instr.op ∧
      At data pos (header ++ body) t (k.fetchByte t).2 (startOf code n + 1) stack ∧
      (instr.op.hasOperand = false ->
        At data pos (header ++ body) t (k.fetchByte t).2 (startOf code (n + 1)) stack) := by
  rcases h.fetch law hheader hdecode (instrAt_startOf hinstr) with
    ⟨hop, hfetched, hat, hoperand⟩
  have hnext : k.nextOpcode t = some instr.op := by
    unfold nextOpcode
    rw [if_pos hat.active]
    exact hop
  refine ⟨hnext, hfetched, (k.fetchByte_fetches t).records_of_active hat.active,
    (runStep_of_nextOpcode hnext).left, hop, hat, ?_⟩
  intro hplain
  rw [if_neg (by simp [hplain]), ← startOf_succ hinstr] at hoperand
  exact hoperand

theorem runStep_heap (h : At data pos (header ++ body) t k (startOf code n) stack)
    {stmt : Statement} {instr : Instruction} (hinstr : code[n]? = some instr)
    (hrealizes : Realizes code stmt instr) (hsys : stmt ≠ .plain .sys) {m' : Machine}
    (hgoes : stmt.exec code.length (k.world t) (n + 1) stack = .goes m') :
    (k.runStep t).globalHeap = k.heapAfter t stmt stack := by
  rcases h.dispatch law hheader hdecode hinstr with
    ⟨hnext, hfetched, _, hrun, hop, hat, hplain⟩
  have hquiet : instr.op ≠ .read -> instr.op ≠ .store -> instr.op ≠ .sys ->
      (k.runStep t).globalHeap = k.globalHeap :=
    fun hread hstore hsys => (runStep_plain hnext hread hstore hsys).left
  cases hrealizes with
  | push val => exact hquiet (by simp) (by simp) (by simp)
  | jump _ => exact hquiet (by simp) (by simp) (by simp)
  | branch _ => exact hquiet (by simp) (by simp) (by simp)
  | @plain op hnone =>
      simp only at hquiet hplain hop
      by_cases hstore : op = .store
      · subst hstore
        rw [Statement.exec_plain (by simp) (by simp)] at hgoes
        rcases Machine.taking_goes hgoes with ⟨addr, _, rfl, htaken⟩
        rcases Machine.taking_goes htaken with ⟨val, _, rfl, _⟩
        have haccess : (k.world t).accessible addr = true :=
          accessible_of_exec_store hgoes
        have hin : inHeap ((k.fetchByte t).2.getPhysAddr t addr) = true := by
          rw [hfetched.getPhysAddr]
          exact haccess
        unfold execute at hrun
        rw [hop] at hrun
        rw [hrun, (opStore_effects (hplain hnone) hin).left, hfetched.getPhysAddr,
          hfetched.quiet.heap]
        rfl
      · rw [k.heapAfter_of_ne t stack (fun heq => hstore (Statement.plain.inj heq))]
        by_cases hread : op = .read
        · subst hread
          rw [Statement.exec_plain (by simp) (by simp)] at hgoes
          have hroom : stack.length < VM_STACK_SIZE := room_of_exec_read hgoes
          unfold execute at hrun
          rw [hop] at hrun
          rw [hrun]
          exact (opRead_effects hat hroom).left.trans hfetched.quiet.heap
        · exact hquiet hread hstore (fun heq => hsys (by rw [heq]))

variable (hshort : (header ++ body).length <= 32768)

include hshort

theorem At.mimics (hall : List.Forall₂ (Realizes code) stmts code)
    (h : At data pos (header ++ body) t k (startOf code n) stack) :
    Mimics data pos (header ++ body) (startOf code) t stmts k { pc := n, stack := stack } := by
  refine ⟨h, ?_, ?_⟩
  · unfold Statement.next
    cases hstmt : stmts[n]? with
    | none => trivial
    | some stmt =>
        rcases instr_of_statement hall hstmt with ⟨instr, hinstr, hrealizes⟩
        simp only
        by_cases hmalloc : stmt = .plain .malloc
        · subst hmalloc
          cases hrealizes
          rcases h.dispatch law hheader hdecode hinstr with
            ⟨_, _, hrecords, hrun, hop, _, hplain⟩
          unfold execute at hrun
          rw [hop] at hrun
          rw [hrun]
          have hfollows := opMalloc_follows (hplain rfl) hrecords
          rw [relocate_taking (f := startOf code) (fun size s => relocate_leaving _)]
            at hfollows
          exact hfollows
        · have hfollows := runStep_follows law hheader hdecode hshort h
          unfold Machine.next at hfollows
          rw [instrAt_startOf hinstr] at hfollows
          simp only at hfollows
          rw [← startOf_succ hinstr] at hfollows
          rcases exec_realized (k.world t) hrealizes hmalloc (n + 1) stack with hopen | hsame
          · rw [hall.length_eq, hopen]
            trivial
          · rw [hall.length_eq, ← hsame]
            exact hfollows
  · intro stmt m' hstmt hsys hgoes
    rcases instr_of_statement hall hstmt with ⟨instr, hinstr, hrealizes⟩
    unfold Statement.next at hgoes
    simp only at hstmt hgoes
    rw [hstmt] at hgoes
    simp only at hgoes
    rw [hall.length_eq] at hgoes
    exact runStep_heap law hheader hdecode h hinstr hrealizes hsys hgoes

end Simulation

/-!
## Runs
-/

/--
`k` is a state of a run of `program` in slot `t`, and the source with these statements is
at `m` then: it was loaded, it took a step, or something else happened.
-/
inductive Interprets (data : sd.File -> List Byte) (program : List Byte) (t : TaskId)
    (stmts : List Statement) : Kernel sd -> Machine -> Prop where
  | load {k k' : Kernel sd} {name : List Byte} {file : sd.File}
      {argStr parentCwd parentArgStr : Option (List Byte)}
      (hload : k.loadTask t name argStr parentCwd parentArgStr = (true, k'))
      (hfile : (k'.tasks t).file = some file) (hdata : data file = program) :
      Interprets data program t stmts k' { pc := 0, stack := [] }
  | leave {k k' : Kernel sd} {m : Machine} (h : Interprets data program t stmts k m)
      (hleaves : Leaves t k k') : Interprets data program t stmts k' m
  | step {k : Kernel sd} {m m' : Machine} (h : Interprets data program t stmts k m)
      (hnext : Statement.next stmts (k.world t) m = .goes m') :
      Interprets data program t stmts (k.runStep t) m'

section Runs

variable {data : sd.File -> List Byte} {pos : sd.File -> Nat} {header body : List Byte}
  {code : List Instruction} {stmts : List Statement} {t : TaskId} {k : Kernel sd}
  {m : Machine}

theorem Interprets.mimics (law : sd.Lawful data pos) (hheader : header.length = 4)
    (hdecode : decode body = some code) (hshort : (header ++ body).length <= 32768)
    (hall : List.Forall₂ (Realizes code) stmts code)
    (h : Interprets data (header ++ body) t stmts k m) :
    Mimics data pos (header ++ body) (startOf code) t stmts k m := by
  induction h with
  | load hload hfile hdata =>
      have hstart := loadTask_at law hload hfile
      rw [hdata] at hstart
      exact At.mimics law hheader hdecode hshort hall (n := 0) hstart
  | leave _ hleaves ih =>
      exact At.mimics law hheader hdecode hshort hall (ih.place.of_leaves hleaves)
  | step _ hnext ih =>
      have hfollows := ih.follows
      rw [hnext] at hfollows
      exact At.mimics law hheader hdecode hshort hall hfollows

end Runs

/-!
## Runs of the whole system
-/

section Events

variable {data : sd.File -> List Byte} {pos : sd.File -> Nat} {program : List Byte}
  {f : Nat -> Nat} {stmts : List Statement} {t : TaskId} {k k' : Kernel sd} {m : Machine}

theorem awake_awake (k : Kernel sd) (t : TaskId) : (k.awake t).awake t = k.awake t := by
  simp [awake, modifyTask]

theorem world_awake (k : Kernel sd) (t : TaskId) : (k.awake t).world t = k.world t := by
  have hrecords : (k.awake t).records = k.records := records_modifyTask_same _ _ rfl
  have hphys : forall addr, (k.awake t).getPhysAddr t addr = k.getPhysAddr t addr :=
    getPhysAddr_congr (by simp [awake, modifyTask]) (by simp [awake, modifyTask])
  unfold world environment keepsToArrays
  simp only [hphys, malloc_congr hrecords, awake_awake]
  rfl

theorem world_wakeUp (h : k.wakeUp t = some k') : k'.world t = k.world t := by
  unfold wakeUp at h
  split at h
  · split at h
    · cases h
    · cases h
      exact k.world_awake t
  · cases h
    rfl

inductive Stays (data : sd.File -> List Byte) (program : List Byte) (t : TaskId)
    (stmts : List Statement) (k : Kernel sd) (m : Machine) (k' : Kernel sd) : Prop where
  | same (h : Interprets data program t stmts k' m)
  | goes (m' : Machine) (hnext : Statement.next stmts (k.world t) m = .goes m')
      (h : Interprets data program t stmts k' m')
  | ends (hnext : Statement.next stmts (k.world t) m = .ends)
      (h : (k'.tasks t).isActive = false)
  | unsettled (hnext : Statement.next stmts (k.world t) m = .unsettled)

theorem Interprets.event (ht : t ≠ 0)
    (hmimics : forall {k m}, Interprets data program t stmts k m ->
      Mimics data pos program f t stmts k m)
    (h : Interprets data program t stmts k m) (e : Event) :
    Stays data program t stmts k m (k.step e) := by
  have hactive := (hmimics h).place.active
  by_cases hother : e = .turn -> k.current = t -> k.dispatches t = none
  · exact .same (h.leave (step_leaves ht hactive e hother))
  · rw [Classical.not_imp, Classical.not_imp] at hother
    rcases hother with ⟨rfl, hcurrent, hsome⟩
    cases hturn : k.dispatches t with
    | none => exact absurd hturn hsome
    | some k₁ =>
        have hwake := (dispatches_cases hturn).right.right
        have hwoken := h.leave (wakeUp_leaves hwake)
        have hfollows := (hmimics hwoken).follows
        have hworld := world_wakeUp hwake
        rw [step_turn_of_dispatches hcurrent hturn]
        cases hnext : Statement.next stmts (k.world t) m with
        | goes m' =>
            rw [← hworld] at hnext
            exact .goes m' (hworld ▸ hnext) ((hwoken.step hnext).leave (.of_tasks rfl))
        | ends =>
            rw [hworld, hnext] at hfollows
            exact .ends hnext hfollows
        | unsettled => exact .unsettled hnext

/--
One of the events is the last one for the run: the source was at its end, and the program
ended there, or what comes next in the source is not settled.
-/
inductive LeavesOff (data : sd.File -> List Byte) (program : List Byte) (t : TaskId)
    (stmts : List Statement) (k : Kernel sd) (events : List Event) : Prop where
  | ends (before : List Event) (e : Event) (after : List Event) (m : Machine)
      (hsplit : events = before ++ e :: after)
      (h : Interprets data program t stmts (k.run before) m)
      (hnext : Statement.next stmts ((k.run before).world t) m = .ends)
      (hended : (((k.run before).step e).tasks t).isActive = false)
  | unsettled (before : List Event) (e : Event) (after : List Event) (m : Machine)
      (hsplit : events = before ++ e :: after)
      (h : Interprets data program t stmts (k.run before) m)
      (hnext : Statement.next stmts ((k.run before).world t) m = .unsettled)

theorem LeavesOff.cons {e : Event} {events : List Event}
    (h : LeavesOff data program t stmts (k.step e) events) :
    LeavesOff data program t stmts k (e :: events) := by
  cases h with
  | ends before e' after m hsplit h hnext hended =>
      exact .ends (e :: before) e' after m (by rw [hsplit]; rfl) h hnext hended
  | unsettled before e' after m hsplit h hnext =>
      exact .unsettled (e :: before) e' after m (by rw [hsplit]; rfl) h hnext

theorem Interprets.events (ht : t ≠ 0)
    (hmimics : forall {k m}, Interprets data program t stmts k m ->
      Mimics data pos program f t stmts k m)
    (h : Interprets data program t stmts k m) (events : List Event) :
    (exists m', Interprets data program t stmts (k.run events) m') ∨
      LeavesOff data program t stmts k events := by
  induction events generalizing k m with
  | nil => exact .inl ⟨m, h⟩
  | cons e events ih =>
      have hgo : forall {m'}, Interprets data program t stmts (k.step e) m' ->
          (exists m', Interprets data program t stmts (k.run (e :: events)) m') ∨
            LeavesOff data program t stmts k (e :: events) :=
        fun hstepped => (ih hstepped).imp id LeavesOff.cons
      cases h.event ht hmimics e with
      | same hstepped => exact hgo hstepped
      | goes m' _ hstepped => exact hgo hstepped
      | ends hnext hended => exact .inr (.ends [] e events m rfl h hnext hended)
      | unsettled hnext => exact .inr (.unsettled [] e events m rfl h hnext)

end Events

end Kernel

/-!
## The assembler preserves meaning
-/

/-- The lines are a source, and every run of the file does, step by step, what it says. -/
def Unicode.Preserves (u : Unicode) (lines : List (List Char)) (code : List Byte) : Prop :=
  exists items stmts, u.sourceItems lines = .ok items ∧
    List.Forall₂ (Means u items) (parsedOps items) stmts ∧
    forall (sd : SdFat) (data : sd.File -> List Byte) (pos : sd.File -> Nat),
      sd.Lawful data pos -> forall (t : TaskId) (k : Kernel sd) (m : Machine),
        Kernel.Interprets data code t stmts k m ->
        Kernel.Mimics data pos code (offsetOf items) t stmts k m

/--
Whatever the assembler accepts has a meaning, and where offsets have 15 bits every run of
the file, in any slot and with anything happening in between, has that meaning.
-/
theorem assemble_preserves {u : Unicode} {lines : List (List Char)} {code : List Byte}
    (h : u.assemble lines = .ok code) (hshort : code.length <= 32768) :
    u.Preserves lines code := by
  rcases assemble_realizes h hshort with
    ⟨items, stmts, header, body, instrs, hitems, hmeans, rfl, hheader, hdecode, hoffsets,
      hall⟩
  refine ⟨items, stmts, hitems, hmeans, ?_⟩
  intro sd data pos law t k m hrun
  rw [hoffsets]
  exact hrun.mimics law hheader hdecode hshort hall

def countingSource : List (List Char) :=
  ["# @heap 16".toList, "PUSH 4 ; MALLOC".toList, "loop: DUP; LOAD; PUSH 1; ADD".toList,
    "PUSH 2 ; STORE ; JMP loop".toList]

def countingBody : List Byte :=
  [0x10#8, 4#8, 0#8, 0x50#8, 0x14#8, 0x51#8, 0x10#8, 1#8, 0#8, 0x11#8, 0x10#8, 2#8, 0#8,
    0x52#8, 0x20#8, 4#8, 0#8]

def countingFile : List Byte := [0xAD#8, 0x01#8, 16#8, 0#8] ++ countingBody

theorem assemble_preserves_counting : Unicode.ascii.Preserves countingSource countingFile :=
  assemble_preserves (by decide +kernel) (by decide)

/--
A program runs in step with its source for as long as the source goes on, whatever happens
to the system: a run that is not is one in which the source came to its end, and the program
with it, or to something not settled.
-/
theorem assembled_runs_in_step {u : Unicode} {lines : List (List Char)} {code : List Byte}
    {stmts : List Statement} (h : u.assemble lines = .ok code)
    (hshort : code.length <= 32768) (hsource : u.Source lines stmts) {sd : SdFat}
    {data : sd.File -> List Byte} {pos : sd.File -> Nat} (law : sd.Lawful data pos)
    {t : TaskId} (ht : t ≠ 0) {k : Kernel sd} {m : Machine}
    (hrun : Kernel.Interprets data code t stmts k m) (events : List Kernel.Event) :
    (exists m', Kernel.Interprets data code t stmts (k.run events) m') ∨
      Kernel.LeavesOff data code t stmts k events := by
  rcases assemble_realizes h hshort with
    ⟨items, stmts', header, body, instrs, hitems, hmeans, rfl, hheader, hdecode, _, hall⟩
  cases Source.unique hsource ⟨items, hitems, hmeans⟩
  exact hrun.events ht (fun hmet => hmet.mimics law hheader hdecode hshort hall) events

def countingStart : Bool × Kernel CardImage.sdFat :=
  (Kernel.boot (CardImage.ofProgram 16#8 countingBody 1)).loadTask 1 (text "p") none none none

theorem assembled_runs_in_step_counting :
    exists stmts, Unicode.ascii.Source countingSource stmts ∧
      ((exists m', Kernel.Interprets ImageFile.data countingFile 1 stmts
          (countingStart.2.run (List.replicate 30 .turn)) m') ∨
        Kernel.LeavesOff ImageFile.data countingFile 1 stmts countingStart.2
          (List.replicate 30 .turn)) := by
  have hassembled : Unicode.ascii.assemble countingSource = .ok countingFile := by
    decide +kernel
  have hloaded : countingStart.1 = true ∧
      (countingStart.2.tasks 1).file.map ImageFile.data = some countingFile := by
    decide +kernel
  rcases Option.map_eq_some_iff.mp hloaded.right with ⟨file, hfile, hdata⟩
  rcases assemble_realizes hassembled (by decide) with
    ⟨items, stmts, _, _, _, hitems, hmeans, _⟩
  have hstart : countingStart = (true, countingStart.2) := by rw [← hloaded.left]
  exact ⟨stmts, ⟨items, hitems, hmeans⟩,
    assembled_runs_in_step hassembled (by decide) ⟨items, hitems, hmeans⟩
      Kernel.sdFat_lawful (by decide) (.load hstart hfile hdata) _⟩

end ArduOS
