import ArduOS.VmTools.ProgramRuns

/-!
# A stack machine with its memory

For a run on given input the environment is spelled out: the first cells of the
segment as a list, and the keys that will be read.  As long as such a machine goes on,
the virtual machine does, with the same values on the stack and in these cells.
-/

namespace ArduOS

open Library

structure MemoryMachine where
  machine : Machine
  memory : List Int
  keys : List Int
  deriving DecidableEq

namespace MemoryMachine

def environment (vm : MemoryMachine) : Environment :=
  { accessible := fun addr => 0 <= addr ∧ addr < vm.memory.length
    cell := fun addr => (vm.memory[addr.toNat]?).getD 0
    input := vm.keys.headD 0 }

/-- What an instruction does to memory and keys; the only call is `chdir` without a path. -/
def settle (vm : MemoryMachine) (op : VMOpcode) (m : Machine) : Option MemoryMachine :=
  match op with
  | .read =>
      if vm.keys = [] then none
      else some { machine := m, memory := vm.memory, keys := vm.keys.tail }
  | .store =>
      match vm.machine.stack with
      | addr :: val :: _ =>
          some { machine := m, memory := vm.memory.set addr.toNat val, keys := vm.keys }
      | _ => none
  | .sys =>
      match vm.machine.stack with
      | sysId :: path :: _ :: _ =>
          if sysId = 3 ∧ path = 0 then some { vm with machine := m } else none
      | _ => none
  | _ => some { vm with machine := m }

def step (code : List Instruction) (vm : MemoryMachine) : Option MemoryMachine :=
  match instrAt code vm.machine.pc with
  | none => none
  | some instr =>
      match Machine.exec code vm.environment instr.op instr.operand
          (vm.machine.pc + instr.length) vm.machine.stack with
      | .goes m => vm.settle instr.op m
      | _ => none

def steps (code : List Instruction) : Nat -> MemoryMachine -> Option MemoryMachine
  | 0, vm => some vm
  | n + 1, vm => (vm.step code).bind (steps code n)

theorem steps_add {code : List Instruction} {m n : Nat} {vm vm' vm'' : MemoryMachine}
    (h : steps code m vm = some vm') (h' : steps code n vm' = some vm'') :
    steps code (m + n) vm = some vm'' := by
  induction m generalizing vm with
  | zero =>
      cases h
      rw [Nat.zero_add]
      exact h'
  | succ m ih =>
      rcases Option.bind_eq_some_iff.mp h with ⟨next, hnext, hrest⟩
      rw [Nat.succ_add]
      exact Option.bind_eq_some_iff.mpr ⟨next, hnext, ih hrest⟩

theorem steps_cons {code : List Instruction} {n : Nat} {vm next vm' : MemoryMachine}
    (h : step code vm = some next) (h' : steps code n next = some vm') :
    steps code (n + 1) vm = some vm' :=
  Option.bind_eq_some_iff.mpr ⟨next, h, h'⟩

theorem step_cases {code : List Instruction} {vm vm' : MemoryMachine}
    (h : vm.step code = some vm') :
    exists instr m, instrAt code vm.machine.pc = some instr ∧
      Machine.exec code vm.environment instr.op instr.operand
        (vm.machine.pc + instr.length) vm.machine.stack = .goes m ∧
      vm.settle instr.op m = some vm' := by
  unfold step at h
  cases hinstr : instrAt code vm.machine.pc with
  | none =>
      rw [hinstr] at h
      cases h
  | some instr =>
      rw [hinstr] at h
      simp only at h
      split at h
      · rename_i m hexec
        exact ⟨instr, m, rfl, hexec, h⟩
      · cases h

/-!
## Single instructions
-/

section Instructions

variable {code : List Instruction} {pc : Nat} {stack memory keys : List Int}

theorem step_push {val : Int}
    (h : instrAt code pc = some { op := .push, operand := some val })
    (hroom : stack.length < VM_STACK_SIZE) :
    step code ⟨⟨pc, stack⟩, memory, keys⟩ = some ⟨⟨pc + 3, val :: stack⟩, memory, keys⟩ := by
  unfold step
  simp only [h, Machine.exec, Machine.leaving, if_pos hroom]
  rfl

theorem step_load {addr : Nat} {val : Int}
    (h : instrAt code pc = some { op := .load, operand := none })
    (hcell : memory[addr]? = some val) (hroom : stack.length < VM_STACK_SIZE) :
    step code ⟨⟨pc, addr :: stack⟩, memory, keys⟩ =
      some ⟨⟨pc + 1, val :: stack⟩, memory, keys⟩ := by
  have hlt := (List.getElem?_eq_some_iff.mp hcell).choose
  have haccess : (environment ⟨⟨pc, addr :: stack⟩, memory, keys⟩).accessible addr = true :=
    decide_eq_true (by simp only; omega)
  have hval : (environment ⟨⟨pc, addr :: stack⟩, memory, keys⟩).cell addr = val := by
    simp [environment, hcell]
  unfold step
  simp only [h, Machine.exec, Machine.taking, haccess, hval, if_true, Machine.leaving,
    if_pos hroom]
  rfl

theorem step_store {addr : Nat} {val : Int}
    (h : instrAt code pc = some { op := .store, operand := none })
    (haddr : addr < memory.length) :
    step code ⟨⟨pc, addr :: val :: stack⟩, memory, keys⟩ =
      some ⟨⟨pc + 1, stack⟩, memory.set addr val, keys⟩ := by
  have haccess :
      (environment ⟨⟨pc, addr :: val :: stack⟩, memory, keys⟩).accessible addr = true :=
    decide_eq_true (by simp only; omega)
  unfold step
  simp only [h, Machine.exec, Machine.taking, haccess, if_true]
  rfl

theorem step_add {a b : Int} (h : instrAt code pc = some { op := .add, operand := none }) :
    step code ⟨⟨pc, a :: b :: stack⟩, memory, keys⟩ =
      some ⟨⟨pc + 1, int16 (a + b) :: stack⟩, memory, keys⟩ := by
  unfold step
  simp only [h]
  rfl

theorem step_eq {a b : Int} (h : instrAt code pc = some { op := .eq, operand := none }) :
    step code ⟨⟨pc, a :: b :: stack⟩, memory, keys⟩ =
      some ⟨⟨pc + 1, (if a = b then 1 else 0) :: stack⟩, memory, keys⟩ := by
  unfold step
  simp only [h]
  rfl

theorem step_jmp {target : Nat} {instr : Instruction}
    (h : instrAt code pc = some { op := .jmp, operand := some target })
    (htarget : instrAt code target = some instr) :
    step code ⟨⟨pc, stack⟩, memory, keys⟩ = some ⟨⟨target, stack⟩, memory, keys⟩ := by
  unfold step
  simp only [h, Machine.exec, Machine.jumping]
  rw [if_pos ⟨by omega, by rw [Int.toNat_natCast, htarget]; rfl⟩]
  rfl

theorem step_jif {target : Nat} {instr : Instruction}
    (h : instrAt code pc = some { op := .jif, operand := some target })
    (htarget : instrAt code target = some instr) :
    step code ⟨⟨pc, 1 :: stack⟩, memory, keys⟩ = some ⟨⟨target, stack⟩, memory, keys⟩ := by
  unfold step
  simp only [h, Machine.exec, Machine.taking, Machine.jumping]
  rw [if_pos (by decide), if_pos ⟨by omega, by rw [Int.toNat_natCast, htarget]; rfl⟩]
  rfl

theorem step_jif_zero {target : Nat}
    (h : instrAt code pc = some { op := .jif, operand := some target }) :
    step code ⟨⟨pc, 0 :: stack⟩, memory, keys⟩ = some ⟨⟨pc + 3, stack⟩, memory, keys⟩ := by
  unfold step
  simp only [h]
  rfl

theorem step_print {op : VMOpcode} {a : Int} (hop : op = .prts ∨ op = .prtc)
    (h : instrAt code pc = some { op := op, operand := none }) :
    step code ⟨⟨pc, a :: stack⟩, memory, keys⟩ = some ⟨⟨pc + 1, stack⟩, memory, keys⟩ := by
  unfold step
  rcases hop with rfl | rfl
  · simp only [h]
    rfl
  · simp only [h]
    rfl

end Instructions

/-!
## What an instruction asks for
-/

section Settling

variable {vm vm' : MemoryMachine} {m : Machine}

theorem settle_plain {op : VMOpcode} (hread : op ≠ .read) (hstore : op ≠ .store)
    (hsys : op ≠ .sys) (h : vm.settle op m = some vm') :
    vm' = { machine := m, memory := vm.memory, keys := vm.keys } := by
  unfold settle at h
  split at h
  · exact absurd rfl hread
  · exact absurd rfl hstore
  · exact absurd rfl hsys
  · exact (Option.some.inj h).symm

theorem settle_chdir (h : vm.settle .sys m = some vm') :
    vm' = { machine := m, memory := vm.memory, keys := vm.keys } ∧
      exists buf stack, vm.machine.stack = 3 :: 0 :: buf :: stack := by
  unfold settle at h
  simp only at h
  split at h
  · rename_i sysId path buf stack hstack
    split at h
    · rename_i hcall
      rcases hcall with ⟨rfl, rfl⟩
      exact ⟨(Option.some.inj h).symm, buf, stack, hstack⟩
    · cases h
  · cases h

theorem settle_store (h : vm.settle .store m = some vm') :
    exists addr val stack, vm.machine.stack = addr :: val :: stack ∧
      vm' = { machine := m, memory := vm.memory.set addr.toNat val, keys := vm.keys } := by
  unfold settle at h
  simp only at h
  split at h
  · rename_i addr val stack hstack
    exact ⟨addr, val, stack, hstack, (Option.some.inj h).symm⟩
  · cases h

theorem settle_read (h : vm.settle .read m = some vm') :
    vm.keys ≠ [] ∧
      vm' = { machine := m, memory := vm.memory, keys := vm.keys.tail } := by
  unfold settle at h
  simp only at h
  split at h
  · cases h
  · rename_i hkeys
    exact ⟨hkeys, (Option.some.inj h).symm⟩

theorem settle_machine {op : VMOpcode} (h : vm.settle op m = some vm') :
    vm'.machine = m ∧ vm'.memory.length = vm.memory.length := by
  by_cases hread : op = .read
  · rw [hread] at h
    rw [(settle_read h).right]
    exact ⟨rfl, rfl⟩
  · by_cases hstore : op = .store
    · rw [hstore] at h
      rcases settle_store h with ⟨addr, val, stack, _, rfl⟩
      exact ⟨rfl, List.length_set ..⟩
    · by_cases hsys : op = .sys
      · rw [hsys] at h
        rw [(settle_chdir h).left]
        exact ⟨rfl, rfl⟩
      · rw [settle_plain hread hstore hsys h]
        exact ⟨rfl, rfl⟩

end Settling

end MemoryMachine

/-- With more memory an instruction that went on goes on in the same way. -/
theorem exec_refines {code : List Instruction} {env env' : Environment} {op : VMOpcode}
    {operand : Option Int} {pc : Nat} {stack : List Int} {m : Machine}
    (hcell : forall addr, env.accessible addr = true ->
      env'.accessible addr = true ∧ env'.cell addr = env.cell addr)
    (hinput : op = .read -> env'.input = env.input)
    (h : Machine.exec code env op operand pc stack = .goes m) :
    Machine.exec code env' op operand pc stack = .goes m := by
  cases op with
  | read =>
      unfold Machine.exec at h ⊢
      simp only at h ⊢
      rw [hinput rfl]
      exact h
  | load =>
      cases stack with
      | nil => cases h
      | cons addr stack =>
          unfold Machine.exec Machine.taking at h ⊢
          simp only at h ⊢
          split at h
          · rename_i haccess
            rcases hcell addr haccess with ⟨haccess', hsame⟩
            rw [if_pos haccess', hsame]
            exact h
          · cases h
  | store =>
      rcases stack with _ | ⟨addr, _ | ⟨val, stack⟩⟩
      · cases h
      · cases h
      · unfold Machine.exec Machine.taking at h ⊢
        simp only at h ⊢
        split at h
        · rename_i haccess
          rw [if_pos (hcell addr haccess).left]
          exact h
        · cases h
  | _ => exact h

section Executing

variable {code : List Instruction} {env : Environment} {operand : Option Int} {pc : Nat}
  {stack : List Int} {m : Machine}

theorem room_of_exec_read (h : Machine.exec code env .read operand pc stack = .goes m) :
    stack.length < VM_STACK_SIZE := by
  unfold Machine.exec Machine.leaving at h
  simp only at h
  split at h
  · assumption
  · cases h

theorem accessible_of_exec_store {addr val : Int}
    (h : Machine.exec code env .store operand pc (addr :: val :: stack) = .goes m) :
    env.accessible addr = true := by
  unfold Machine.exec Machine.taking at h
  simp only at h
  split at h
  · assumption
  · cases h

end Executing

namespace Kernel

variable {sd : SdFat}

def Serves : Hal -> List Int -> Prop
  | _, [] => True
  | hal, key :: keys =>
      key ≠ -1 ∧ (hal.read FD_STDIN).1 = key ∧ Serves (hal.read FD_STDIN).2 keys

instance Serves.decidable : forall (hal : Hal) (keys : List Int), Decidable (Serves hal keys)
  | _, [] => .isTrue trivial
  | hal, key :: keys =>
      have := Serves.decidable (hal.read FD_STDIN).2 keys
      inferInstanceAs (Decidable (key ≠ -1 ∧ (hal.read FD_STDIN).1 = key ∧
        Serves (hal.read FD_STDIN).2 keys))

structure Mirrors (data : sd.File -> List Byte) (pos : sd.File -> Nat)
    (program : List Byte) (t : TaskId) (k : Kernel sd) (vm : MemoryMachine) : Prop where
  place : At data pos program t k vm.machine.pc vm.machine.stack
  above : 0 <= (k.tasks t).heapBase
  limit : vm.memory.length <= (k.tasks t).heapLimit
  below : (k.tasks t).heapBase + vm.memory.length <= GLOBAL_HEAP_SIZE
  memory : forall (i : Nat) (val : Int), vm.memory[i]? = some val ->
    k.globalHeap ((k.tasks t).heapBase + i) = val
  keys : Serves k.hal vm.keys

section Mirroring

variable {data : sd.File -> List Byte} {pos : sd.File -> Nat} {program : List Byte}
  {t : TaskId} {k k' : Kernel sd} {vm vm' : MemoryMachine}

theorem Mirrors.getPhysAddr (h : Mirrors data pos program t k vm) {addr : Int}
    (haddr : vm.environment.accessible addr = true) :
    k.getPhysAddr t addr = (k.tasks t).heapBase + addr.toNat ∧
      inHeap (k.getPhysAddr t addr) = true ∧
      k.globalHeap (k.getPhysAddr t addr) = vm.environment.cell addr := by
  have habove := h.above
  have hlimit := h.limit
  have hbelow := h.below
  rcases of_decide_eq_true haddr with ⟨hlo, hhi⟩
  have hphys : k.getPhysAddr t addr = (k.tasks t).heapBase + addr.toNat := by
    unfold Kernel.getPhysAddr
    rw [if_pos (by omega), Int.toNat_of_nonneg hlo]
  have hindex : addr.toNat < vm.memory.length := by omega
  refine ⟨hphys, ?_, ?_⟩
  · unfold inHeap
    rw [hphys]
    apply decide_eq_true
    omega
  · rw [hphys, h.memory addr.toNat vm.memory[addr.toNat] (List.getElem?_eq_getElem hindex)]
    simp [MemoryMachine.environment, hindex]

theorem Mirrors.input (h : Mirrors data pos program t k vm) (hkeys : vm.keys ≠ []) :
    (k.environment t).input = vm.environment.input ∧
      Serves (k.hal.read FD_STDIN).2 vm.keys.tail := by
  have hserves := h.keys
  unfold Kernel.environment MemoryMachine.environment
  cases hcase : vm.keys with
  | nil => exact absurd hcase hkeys
  | cons key keys =>
      rw [hcase] at hserves
      rcases hserves with ⟨hkey, hread, hrest⟩
      refine ⟨?_, hrest⟩
      simp only [List.headD_cons]
      rw [hread, if_pos hkey]

/-!
## What a step does to the segment, the heap and the keyboard
-/

theorem runStep_segment (ht : t ≠ 0) (hactive : (k.tasks t).isActive = true)
    (hafter : ((k.runStep t).tasks t).isActive = true) :
    ((k.runStep t).tasks t).heapBase = (k.tasks t).heapBase ∧
      ((k.runStep t).tasks t).heapLimit = (k.tasks t).heapLimit := by
  have hout := k.runStep_outcome ht
  have hstate : ((k.runStep t).records.task t).state ≠ .free := of_decide_eq_true hafter
  have hbefore : (k.records.task t).state ≠ .free := of_decide_eq_true hactive
  have hsame : (((k.runStep t).records.task t).heapBase = (k.records.task t).heapBase) ∧
      (((k.runStep t).records.task t).heapLimit = (k.records.task t).heapLimit) := by
    generalize (k.runStep t).records = r' at hout hstate ⊢
    cases hout with
    | keep fileOpen _ => simp
    | grant j start size _ _ => simp [Records.grantEntry]
    | exit _ _ hexit => exact absurd hexit.free hstate
    | grantExit _ _ _ _ _ _ _ hexit => exact absurd hexit.free hstate
    | exec child start size waitOpt _ hfree _ =>
        have hne : t ≠ child := by
          rintro rfl
          exact hbefore hfree
        unfold Records.exec
        simp only
        split
        · simp [Records.loadSegment, Records.modify_task_of_ne _ hne]
        · simp [Records.loadSegment, Records.modify_task_of_ne _ hne]
    | execFailed child _ hfree =>
        have hne : t ≠ child := by
          rintro rfl
          exact hbefore hfree
        rw [Records.modify_task_of_ne _ hne]
        exact ⟨rfl, rfl⟩
    | lost _ => simp at hstate
  exact hsame

/-- Of the instructions only four write to the heap or take a key. -/
theorem runStep_plain {op : VMOpcode} (hop : k.nextOpcode t = some op) (hread : op ≠ .read)
    (hstore : op ≠ .store) (hsys : op ≠ .sys) :
    (k.runStep t).globalHeap = k.globalHeap ∧ (k.runStep t).hal = k.hal := by
  let P : Access -> Prop := fun a =>
    match a with
    | .heapWrite _ => False
    | .stdin _ => False
    | _ => True
  have hpermits : Permits P t (max (VM_STACK_SIZE - 1) (k.tasks t).sp) :=
    ⟨Int.le_max_left _ _, fun _ _ _ => trivial, fun _ _ => trivial, fun _ _ => trivial⟩
  have heffect := runStep_effect hpermits k (Int.le_max_right _ _) (fun _ => trivial)
    (by
      intro hnext
      cases hop.symm.trans hnext
      exact absurd rfl hread)
    (by
      intro hnext
      cases hop.symm.trans hnext
      exact absurd rfl hsys)
    (by
      intro op' a hnext hcell
      cases hop.symm.trans hnext
      cases hcell with
      | load _ => trivial
      | store _ => exact absurd rfl hstore
      | prts _ _ => trivial
      | sys _ _ => exact absurd rfl hsys)
  constructor
  · funext c
    exact heffect.heap c id
  · exact heffect.hal fun _ => id

variable {pc : Nat} {stack : List Int}

theorem opRead_effects (h : At data pos program t k pc stack)
    (hroom : stack.length < VM_STACK_SIZE) :
    (k.opRead t).globalHeap = k.globalHeap ∧
      (k.opRead t).hal = (k.hal.read FD_STDIN).2 := by
  have hdepth := h.depth
  have hsize : VM_STACK_SIZE = 64 := rfl
  unfold opRead checkStackOverflow
  rw [if_neg (by omega)]
  unfold stdRead
  simp only
  split
  · exact ⟨rfl, rfl⟩
  · exact ⟨rfl, rfl⟩

theorem opStore_effects {addr val : Int}
    (h : At data pos program t k pc (addr :: val :: stack))
    (hheap : inHeap (k.getPhysAddr t addr) = true) :
    (k.opStore t).globalHeap =
        Function.update k.globalHeap (k.getPhysAddr t addr) val ∧
      (k.opStore t).hal = k.hal := by
  rcases h.pop with ⟨haddr, hfirst⟩
  rcases hfirst.pop with ⟨hval, _⟩
  have hphys : ((k.stackPop t).2.stackPop t).2.getPhysAddr t addr = k.getPhysAddr t addr := by
    rw [stackPop_getPhysAddr, stackPop_getPhysAddr]
  unfold opStore
  rw [checkStackUnderflow_body h (by simp only [List.length_cons]; omega)]
  simp only
  rw [haddr, hval, hphys, if_pos hheap]
  exact ⟨rfl, rfl⟩

theorem opSys_chdir_none {buf : Int} (h : At data pos program t k pc (3 :: 0 :: buf :: stack)) :
    (k.opSys t).globalHeap = k.globalHeap ∧ (k.opSys t).hal = k.hal := by
  rcases h.pop with ⟨hid, hfirst⟩
  rcases hfirst.pop with ⟨hpath, _⟩
  unfold opSys
  rw [checkStackUnderflow_body h (by simp only [List.length_cons]; omega)]
  simp only
  rw [hid]
  unfold systemCall syscallChdir
  rw [if_neg (by decide), if_neg (by decide), if_pos rfl]
  simp only
  rw [hpath]
  unfold chdirWith
  rw [if_pos rfl]
  exact ⟨rfl, rfl⟩

/-!
## One step of both machines
-/

structure Mirrored (k : Kernel sd) (base : Int) (memory keys : List Int) : Prop where
  memory : forall (i : Nat) (val : Int), memory[i]? = some val -> k.globalHeap (base + i) = val
  keys : Serves k.hal keys

variable {base : Int} {memory keys : List Int}

theorem Mirrors.mirrored (h : Mirrors data pos program t k vm) :
    Mirrored k (k.tasks t).heapBase vm.memory vm.keys :=
  ⟨h.memory, h.keys⟩

theorem Mirrored.of_eq (h : Mirrored k base memory keys) (hheap : k'.globalHeap = k.globalHeap)
    (hhal : k'.hal = k.hal) : Mirrored k' base memory keys := by
  constructor
  · rw [hheap]
    exact h.memory
  · rw [hhal]
    exact h.keys

theorem Mirrored.set (h : Mirrored k base memory keys) {addr : Nat} {val : Int}
    (hheap : k'.globalHeap = Function.update k.globalHeap (base + addr) val)
    (hhal : k'.hal = k.hal) : Mirrored k' base (memory.set addr val) keys := by
  constructor
  · intro i val' hval
    rw [hheap]
    rw [List.getElem?_set] at hval
    split at hval
    · rename_i heq
      rw [← heq, Function.update_self]
      split at hval
      · exact Option.some.inj hval
      · cases hval
    · rename_i hne
      rw [Function.update_of_ne (by omega)]
      exact h.memory i val' hval
  · rw [hhal]
    exact h.keys

theorem Mirrors.carry (h : Mirrors data pos program t k vm)
    (hplace : At data pos program t k' vm'.machine.pc vm'.machine.stack)
    (hsegment : (k'.tasks t).heapBase = (k.tasks t).heapBase ∧
      (k'.tasks t).heapLimit = (k.tasks t).heapLimit)
    (hlength : vm'.memory.length = vm.memory.length)
    (hmirrored : Mirrored k' (k.tasks t).heapBase vm'.memory vm'.keys) :
    Mirrors data pos program t k' vm' := by
  rcases hsegment with ⟨hbase, hlimit⟩
  refine ⟨hplace, ?_, ?_, ?_, ?_, hmirrored.keys⟩
  · rw [hbase]
    exact h.above
  · rw [hlimit, hlength]
    exact h.limit
  · rw [hbase, hlength]
    exact h.below
  · rw [hbase]
    exact hmirrored.memory

section Fetching

variable {code : List Instruction} {operand : Option Int} {next : Nat} {m : Machine}

theorem Mirrors.opRead_mirrored (h : Mirrors data pos program t k vm) (hfetched : Fetched t k k')
    (hat : At data pos program t k' pc vm.machine.stack)
    (hexec : Machine.exec code vm.environment .read operand next vm.machine.stack = .goes m)
    (hsettle : vm.settle .read m = some vm') :
    Mirrored (k'.opRead t) (k.tasks t).heapBase vm'.memory vm'.keys := by
  rcases MemoryMachine.settle_read hsettle with ⟨hkeys, rfl⟩
  rcases opRead_effects hat (room_of_exec_read hexec) with ⟨hheap, hhal⟩
  constructor
  · rw [hheap, hfetched.quiet.heap]
    exact h.memory
  · rw [hhal, hfetched.quiet.hal]
    exact (h.input hkeys).right

theorem Mirrors.opStore_mirrored (h : Mirrors data pos program t k vm) (hfetched : Fetched t k k')
    (hat : At data pos program t k' pc vm.machine.stack)
    (hexec : Machine.exec code vm.environment .store operand next vm.machine.stack = .goes m)
    (hsettle : vm.settle .store m = some vm') :
    Mirrored (k'.opStore t) (k.tasks t).heapBase vm'.memory vm'.keys := by
  rcases MemoryMachine.settle_store hsettle with ⟨addr, val, stack, hstack, rfl⟩
  rw [hstack] at hat hexec
  rcases h.getPhysAddr (accessible_of_exec_store hexec) with ⟨hphys, hinheap, _⟩
  rw [← hfetched.getPhysAddr] at hphys hinheap
  rcases opStore_effects hat hinheap with ⟨hheap, hhal⟩
  apply (h.mirrored.of_eq hfetched.quiet.heap hfetched.quiet.hal).set _ hhal
  rw [hheap, hphys]

theorem Mirrors.opSys_mirrored (h : Mirrors data pos program t k vm) (hfetched : Fetched t k k')
    (hat : At data pos program t k' pc vm.machine.stack)
    (hsettle : vm.settle .sys m = some vm') :
    Mirrored (k'.opSys t) (k.tasks t).heapBase vm'.memory vm'.keys := by
  rcases MemoryMachine.settle_chdir hsettle with ⟨rfl, buf, stack, hstack⟩
  rw [hstack] at hat
  rcases opSys_chdir_none hat with ⟨hheap, hhal⟩
  exact h.mirrored.of_eq (hheap.trans hfetched.quiet.heap) (hhal.trans hfetched.quiet.hal)

end Fetching

end Mirroring

section Simulation

variable {data : sd.File -> List Byte} {pos : sd.File -> Nat} {header body : List Byte}
  {code : List Instruction} {t : TaskId} {k : Kernel sd} {vm vm' : MemoryMachine}

variable (law : sd.Lawful data pos) (hheader : header.length = 4)
  (hdecode : decode body = some code) (hshort : (header ++ body).length <= 32768)

include law hheader hdecode hshort

theorem Mirrors.next (h : Mirrors data pos (header ++ body) t k vm) {instr : Instruction}
    (hinstr : instrAt code vm.machine.pc = some instr) {m : Machine}
    (hexec : Machine.exec code vm.environment instr.op instr.operand
      (vm.machine.pc + instr.length) vm.machine.stack = .goes m)
    (hread : instr.op = .read -> vm.keys ≠ []) :
    At data pos (header ++ body) t (k.runStep t) m.pc m.stack ∧
      k.nextPc t vm.machine.pc = m.pc := by
  have hgoes : Machine.next code (k.environment t) vm.machine = .goes m := by
    unfold Machine.next
    rw [hinstr]
    apply exec_refines _ _ hexec
    · intro addr haddr
      exact (h.getPhysAddr haddr).right
    · intro hop
      exact (h.input (hread hop)).left
  have hplace := runStep_follows law hheader hdecode hshort h.place
  rw [hgoes] at hplace
  exact ⟨hplace, h.place.nextPc law hheader hdecode hgoes⟩

omit hshort in
theorem Mirrors.runStep_mirrored (h : Mirrors data pos (header ++ body) t k vm)
    {instr : Instruction} (hinstr : instrAt code vm.machine.pc = some instr) {m : Machine}
    (hexec : Machine.exec code vm.environment instr.op instr.operand
      (vm.machine.pc + instr.length) vm.machine.stack = .goes m)
    (hsettle : vm.settle instr.op m = some vm') :
    Mirrored (k.runStep t) (k.tasks t).heapBase vm'.memory vm'.keys := by
  rcases h.place.fetch law hheader hdecode hinstr with ⟨hop, hfetched, hat, _⟩
  have hnext : k.nextOpcode t = some instr.op := by
    unfold nextOpcode
    rw [if_pos hat.active]
    exact hop
  have hrun := (runStep_of_nextOpcode hnext).left
  unfold execute at hrun
  rw [hop] at hrun
  by_cases hread : instr.op = .read
  · rw [hread] at hrun hexec hsettle
    rw [hrun]
    exact h.opRead_mirrored hfetched hat hexec hsettle
  · by_cases hstore : instr.op = .store
    · rw [hstore] at hrun hexec hsettle
      rw [hrun]
      exact h.opStore_mirrored hfetched hat hexec hsettle
    · by_cases hsys : instr.op = .sys
      · rw [hsys] at hrun hsettle
        rw [hrun]
        exact h.opSys_mirrored hfetched hat hsettle
      · rcases runStep_plain hnext hread hstore hsys with ⟨hheap, hhal⟩
        rw [MemoryMachine.settle_plain hread hstore hsys hsettle]
        exact h.mirrored.of_eq hheap hhal

variable (ht : t ≠ 0)

include ht

theorem Mirrors.step (h : Mirrors data pos (header ++ body) t k vm)
    (hstep : vm.step code = some vm') :
    Mirrors data pos (header ++ body) t (k.runStep t) vm' ∧
      k.nextPc t vm.machine.pc = vm'.machine.pc := by
  rcases MemoryMachine.step_cases hstep with ⟨instr, m, hinstr, hexec, hsettle⟩
  have hkeys : instr.op = .read -> vm.keys ≠ [] := by
    intro hop
    rw [hop] at hsettle
    exact (MemoryMachine.settle_read hsettle).left
  have hmirrored := h.runStep_mirrored law hheader hdecode hinstr hexec hsettle
  rcases h.next law hheader hdecode hshort hinstr hexec hkeys with ⟨hplace, hpc⟩
  rcases MemoryMachine.settle_machine hsettle with ⟨rfl, hlength⟩
  have hsegment := runStep_segment ht h.place.active hplace.active
  exact ⟨h.carry hplace hsegment hlength hmirrored, hpc⟩

theorem Mirrors.steps {mark steps pc n : Nat}
    (h : Mirrors data pos (header ++ body) t k vm)
    (hrun : Executes data (header ++ body) t mark k pc n) (hpc : pc = vm.machine.pc)
    (hsteps : MemoryMachine.steps code steps vm = some vm') :
    Mirrors data pos (header ++ body) t ((fun k => k.runStep t)^[steps] k) vm' ∧
      exists n', Executes data (header ++ body) t mark ((fun k => k.runStep t)^[steps] k)
        vm'.machine.pc n' := by
  induction steps generalizing k vm pc n with
  | zero =>
      cases hsteps
      rw [hpc] at hrun
      exact ⟨h, n, hrun⟩
  | succ steps ih =>
      rcases Option.bind_eq_some_iff.mp hsteps with ⟨next, hnext, hrest⟩
      rcases h.step law hheader hdecode hshort ht hnext with ⟨hmirrors, hnextPc⟩
      have hstepped := hrun.step hmirrors.place.active
      rw [hpc, hnextPc] at hstepped
      rw [Function.iterate_succ_apply]
      exact ih hmirrors hstepped rfl hrest

end Simulation

end Kernel
end ArduOS
