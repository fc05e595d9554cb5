import ArduOS.VmTools.StackMachine

/-!
# A step of the virtual machine is a step of the stack machine

Instruction by instruction: what `VM_runStep` makes of a slot that is at an
instruction is what the stack machine makes of its program counter and operands.
-/

namespace ArduOS

open Library

namespace Kernel

variable {sd : SdFat}

section Fetching

variable {t : TaskId} {k k' k'' : Kernel sd}

structure Fetched (t : TaskId) (k k' : Kernel sd) : Prop where
  stack : (k'.tasks t).stack = (k.tasks t).stack
  heapBase : (k'.tasks t).heapBase = (k.tasks t).heapBase
  heapLimit : (k'.tasks t).heapLimit = (k.tasks t).heapLimit
  quiet : Quiet k k'

theorem Fetched.trans (h : Fetched t k k') (h' : Fetched t k' k'') : Fetched t k k'' :=
  ⟨h'.stack.trans h.stack, h'.heapBase.trans h.heapBase,
    h'.heapLimit.trans h.heapLimit, h.quiet.trans h'.quiet⟩

theorem Fetched.getPhysAddr (h : Fetched t k k') (addr : Int) :
    k'.getPhysAddr t addr = k.getPhysAddr t addr :=
  getPhysAddr_congr h.heapBase h.heapLimit addr

theorem Fetched.environment (h : Fetched t k k') : k'.environment t = k.environment t := by
  unfold Kernel.environment
  simp only [h.getPhysAddr, h.quiet.heap, h.quiet.hal]

theorem takeByte_fetched (k : Kernel sd) (t : TaskId) : Fetched t k (k.takeByte t).2 := by
  have htask := k.takeByte_task t
  refine ⟨?_, ?_, ?_, k.takeByte_quiet t⟩
  · rw [htask]
  · rw [htask]
  · rw [htask]

theorem refillBuffer_fetched (hactive : ((k.refillBuffer t).tasks t).isActive = true) :
    Fetched t k (k.refillBuffer t) := by
  have hquiet := k.refillBuffer_quiet t
  cases hfile : (k.tasks t).file with
  | none =>
      unfold refillBuffer at hactive
      rw [if_neg (by simp [hfile]), terminateTask_inactive] at hactive
      cases hactive
  | some file =>
      cases havailable : sd.available file with
      | false =>
          rw [k.refillBuffer_ends t hfile havailable] at hactive
          cases hactive
      | true =>
          have htask := k.refillBuffer_task t hfile havailable
          refine ⟨?_, ?_, ?_, hquiet⟩
          · rw [htask]
          · rw [htask]
          · rw [htask]

theorem fetchByte_fetched (hactive : ((k.fetchByte t).2.tasks t).isActive = true) :
    Fetched t k (k.fetchByte t).2 := by
  unfold fetchByte at hactive ⊢
  split
  · rename_i hused
    rw [if_pos hused] at hactive
    simp only at hactive ⊢
    split at hactive
    · rename_i hended
      exact absurd hactive hended
    · rename_i hrefilled
      rw [if_neg hrefilled]
      exact (refillBuffer_fetched (not_not.mp hrefilled)).trans (takeByte_fetched _ t)
  · exact takeByte_fetched k t

theorem active_of_fetchByte (hactive : ((k.fetchByte t).2.tasks t).isActive = true) :
    (k.tasks t).isActive = true := by
  have hsame := (k.fetchByte_fetches t).records_of_active hactive
  have hstate : ((k.fetchByte t).2.tasks t).taskState = (k.tasks t).taskState :=
    congrArg (fun r => (Records.task r t).state) hsame
  rw [Task.isActive, hstate] at hactive
  exact hactive

theorem fetchInt_fetched (hactive : ((k.fetchInt t).2.tasks t).isActive = true) :
    Fetched t k (k.fetchInt t).2 :=
  (fetchByte_fetched (active_of_fetchByte hactive)).trans (fetchByte_fetched hactive)

end Fetching

section Instructions

variable {data : sd.File -> List Byte} {pos : sd.File -> Nat} {program : List Byte}
  {t : TaskId} {k k' : Kernel sd} {pc : Nat} {stack : List Int}

theorem At.of_fetched {pc' : Nat} (h : At data pos program t k pc stack)
    (hfetched : Fetched t k k')
    (hplace : exists origin fresh, Streaming data pos program k' t origin pc' fresh) :
    At data pos program t k' pc' stack := by
  constructor
  · exact hplace
  · rw [hfetched.quiet.sp t]
    exact h.depth
  · rw [hfetched.stack]
    exact h.cells

/-!
## Instructions without an operand in the code
-/

theorem checkStackUnderflow_two {body : Kernel sd -> Kernel sd}
    {next : Int -> Int -> List Int -> Transition} (h : At data pos program t k pc stack)
    (hbody : forall a b s, stack = a :: b :: s ->
      Follows data pos program t (body k) (next a b s)) :
    Follows data pos program t (k.checkStackUnderflow t 2 body)
      (Machine.taking stack fun a s => Machine.taking s fun b s => next a b s) := by
  cases stack with
  | nil => exact checkStackUnderflow_ends h (by decide)
  | cons a s =>
      cases s with
      | nil => exact checkStackUnderflow_ends h (by simp)
      | cons b s =>
          rw [checkStackUnderflow_body h (by simp only [List.length_cons]; omega)]
          exact hbody a b s rfl

theorem binary_follows (h : At data pos program t k pc stack) (op : Int -> Int -> Int) :
    Follows data pos program t (k.binary t op) (Machine.combining pc op stack) := by
  apply checkStackUnderflow_two h
  rintro a b s rfl
  rcases h.pop with ⟨ha, hfirst⟩
  rcases hfirst.pop with ⟨hb, hsecond⟩
  have hpushed := hsecond.push (op (k.stackPop t).1 ((k.stackPop t).2.stackPop t).1)
  rw [ha, hb] at hpushed
  simp only [ha, hb]
  exact hpushed

theorem opDup_follows (h : At data pos program t k pc stack) :
    Follows data pos program t (k.opDup t)
      (Machine.taking stack fun a _ => Machine.leaving pc a stack) := by
  apply checkStackUnderflow_follows h
  rintro a s rfl
  apply checkStackOverflow_follows h
  have hnoted : Leaves t k (k.stackTop t).2 := .of_tasks rfl
  have htop : (k.stackTop t).1 = a := h.top
  simp only
  rw [htop]
  exact (h.of_leaves hnoted).push a

theorem taking_follows (h : At data pos program t k pc stack)
    {f : Int -> Kernel sd -> Kernel sd}
    (hf : forall a (k' : Kernel sd), Leaves t k' (f a k')) :
    Follows data pos program t
      (k.checkStackUnderflow t 1 fun k => f (k.stackPop t).1 (k.stackPop t).2)
      (Machine.taking stack fun _ s => .goes { pc := pc, stack := s }) := by
  apply checkStackUnderflow_follows h
  rintro a s rfl
  exact h.pop.right.of_leaves (hf _ _)

theorem opPrint_follows (h : At data pos program t k pc stack) (fd : Int) :
    Follows data pos program t (k.opPrint t fd)
      (Machine.taking stack fun _ s => .goes { pc := pc, stack := s }) :=
  taking_follows h (f := fun val k =>
    (k.stdWriteInt fd val).stdWriteChar fd (ascii '\n')) fun _ k' =>
      (stdWrite_leaves k' t _ _).trans (stdWrite_leaves _ t _ _)

theorem opPrts_follows (h : At data pos program t k pc stack) :
    Follows data pos program t (k.opPrts t)
      (Machine.taking stack fun _ s => .goes { pc := pc, stack := s }) :=
  taking_follows h (f := fun addr k =>
    (k.readString 127 inHeap isNull (k.getPhysAddr t addr)).2.stdWrite FD_STDOUT
      (k.readString 127 inHeap isNull (k.getPhysAddr t addr)).1) fun _ k' =>
        (readString_leaves k' t _ _ _ _).trans (stdWrite_leaves _ t _ _)

theorem opSleep_follows (h : At data pos program t k pc stack) :
    Follows data pos program t (k.opSleep t)
      (Machine.taking stack fun _ s => .goes { pc := pc, stack := s }) :=
  taking_follows h (f := fun ms k =>
    (k.modifyTask t fun task => { task with wakeUpTime := BitVec.ofInt 32 ms }).yield t)
      fun _ k' => (modifyTask_leaves k' rfl).trans (modifyTask_leaves _ rfl)

theorem opRead_follows (h : At data pos program t k pc stack) :
    Follows data pos program t (k.opRead t)
      (Machine.leaving pc (k.environment t).input stack) := by
  apply checkStackOverflow_follows h
  have hread : Leaves t k (k.stdRead FD_STDIN).2 := by
    unfold stdRead
    simp only
    split
    · exact .of_tasks rfl
    · exact .of_tasks rfl
  exact (h.of_leaves hread).push _

theorem opLoad_follows (h : At data pos program t k pc stack) :
    Follows data pos program t (k.opLoad t)
      (Machine.taking stack fun addr s =>
        if (k.environment t).accessible addr then
          Machine.leaving pc ((k.environment t).cell addr) s
        else .ends) := by
  apply checkStackUnderflow_follows h
  rintro addr s rfl
  rcases h.pop with ⟨haddr, hpop⟩
  have hphys : (k.stackPop t).2.getPhysAddr t (k.stackPop t).1 = k.getPhysAddr t addr := by
    rw [haddr, stackPop_getPhysAddr]
  have haccess : (k.environment t).accessible addr = inHeap (k.getPhysAddr t addr) := rfl
  rw [haccess]
  simp only [hphys]
  by_cases hheap : inHeap (k.getPhysAddr t addr) = true
  · rw [if_pos hheap, if_pos hheap]
    apply checkStackOverflow_follows hpop
    have hread : Leaves t (k.stackPop t).2
        ((k.stackPop t).2.heapGet (k.getPhysAddr t addr)).2 := .of_tasks rfl
    exact (hpop.of_leaves hread).push _
  · rw [if_neg hheap, if_neg hheap]
    exact terminateTask_inactive _ t

theorem opStore_follows (h : At data pos program t k pc stack) :
    Follows data pos program t (k.opStore t)
      (Machine.taking stack fun addr s => Machine.taking s fun _ s =>
        if (k.environment t).accessible addr then .goes { pc := pc, stack := s }
        else .ends) := by
  apply checkStackUnderflow_two h
  rintro addr val s rfl
  rcases h.pop with ⟨haddr, hfirst⟩
  rcases hfirst.pop with ⟨_, hsecond⟩
  have hphys : ((k.stackPop t).2.stackPop t).2.getPhysAddr t (k.stackPop t).1 =
      k.getPhysAddr t addr := by
    rw [haddr, stackPop_getPhysAddr, stackPop_getPhysAddr]
  have haccess : (k.environment t).accessible addr = inHeap (k.getPhysAddr t addr) := rfl
  rw [haccess]
  simp only [hphys]
  by_cases hheap : inHeap (k.getPhysAddr t addr) = true
  · rw [if_pos hheap, if_pos hheap]
    exact hsecond.of_leaves (.of_tasks rfl)
  · rw [if_neg hheap, if_neg hheap]
    exact terminateTask_inactive _ t

/-!
## System calls
-/

theorem systemCall_follows (h : At data pos program t k pc stack) (sysId : Int) :
    Follows data pos program t (k.systemCall t sysId) (Machine.calling pc sysId stack) := by
  unfold Machine.calling
  split
  · rename_i hcall
    rcases hcall with ⟨hls, hoperands⟩
    unfold sysOperands at hoperands ⊢
    unfold systemCall
    rw [if_neg hls] at hoperands ⊢
    rw [if_neg hls]
    by_cases hexec : sysId = 2
    · rw [if_pos hexec] at hoperands ⊢
      rw [if_pos hexec]
      rcases stack with _ | ⟨a, _ | ⟨b, _ | ⟨c, s⟩⟩⟩
      · simp at hoperands
      · simp at hoperands
      · simp at hoperands
      · have hthree := h.pop.right.pop.right.pop.right
        exact hthree.of_leaves (execWith_leaves _ t _ _ _ hthree.active)
    · rw [if_neg hexec] at hoperands ⊢
      rw [if_neg hexec]
      by_cases hchdir : sysId = 3
      · rw [if_pos hchdir] at hoperands ⊢
        rw [if_pos hchdir]
        rcases stack with _ | ⟨a, _ | ⟨b, s⟩⟩
        · simp at hoperands
        · simp at hoperands
        · exact h.pop.right.pop.right.of_leaves (chdirWith_leaves _ t _ _)
      · rw [if_neg hchdir] at hoperands ⊢
        rw [if_neg hchdir]
        by_cases hgetcwd : sysId = 4
        · rw [if_pos hgetcwd] at hoperands ⊢
          rw [if_pos hgetcwd]
          rcases stack with _ | ⟨a, s⟩
          · simp at hoperands
          · exact h.pop.right.of_leaves (getcwdWith_leaves _ t _)
        · rw [if_neg hgetcwd, if_neg hgetcwd]
          exact h
  · trivial

theorem opSys_follows (h : At data pos program t k pc stack) :
    Follows data pos program t (k.opSys t)
      (Machine.taking stack fun sysId s => Machine.calling pc sysId s) := by
  apply checkStackUnderflow_follows h
  rintro sysId s rfl
  rcases h.pop with ⟨hid, hpop⟩
  have hcall := systemCall_follows hpop (k.stackPop t).1
  rw [hid] at hcall
  simp only
  rw [hid]
  exact hcall

end Instructions

/-!
## Whole instructions
-/

section Decoded

variable {data : sd.File -> List Byte} {pos : sd.File -> Nat} {header body : List Byte}
  {code : List Instruction} {t : TaskId} {k : Kernel sd} {pc : Nat} {stack : List Int}

theorem inside_of_instrAt (hheader : header.length = 4) (hdecode : decode body = some code)
    {instr : Instruction} (hinstr : instrAt code pc = some instr) :
    4 + pc < (header ++ body).length := by
  rcases exists_of_instrAt hinstr with ⟨n, rfl, hn⟩
  have hopcode := opcode_at hdecode n
  rw [hn] at hopcode
  cases hbyte : body[startOf code n]? with
  | none =>
      rw [hbyte] at hopcode
      cases hopcode
  | some b =>
      have hlt := (List.getElem?_eq_some_iff.mp hbyte).choose
      rw [List.length_append]
      omega

variable (law : sd.Lawful data pos) (hheader : header.length = 4)
  (hdecode : decode body = some code)

include law hheader hdecode

theorem At.fetch (h : At data pos (header ++ body) t k pc stack) {instr : Instruction}
    (hinstr : instrAt code pc = some instr) :
    VMOpcode.ofByte? (k.fetchByte t).1 = some instr.op ∧
      Fetched t k (k.fetchByte t).2 ∧
      At data pos (header ++ body) t (k.fetchByte t).2 (pc + 1) stack ∧
      if instr.op.hasOperand then
        instr.operand = some ((k.fetchByte t).2.fetchInt t).1 ∧
          At data pos (header ++ body) t ((k.fetchByte t).2.fetchInt t).2
            (pc + instr.length) stack
      else At data pos (header ++ body) t (k.fetchByte t).2 (pc + instr.length) stack := by
  rcases h.place with ⟨origin, fresh, hstreaming⟩
  have hinside := inside_of_instrAt hheader hdecode hinstr
  have hopcode := (fetchByte_streaming law hstreaming hinside).right
  rcases exists_of_instrAt hinstr with ⟨n, rfl, hn⟩
  rcases fetch_instruction law hheader hdecode hn hstreaming with ⟨hop, hoperand⟩
  have hfetched := fetchByte_fetched hopcode.active
  have hat := h.of_fetched hfetched ⟨origin, false, hopcode⟩
  refine ⟨hop, hfetched, hat, ?_⟩
  rw [← startOf_succ hn]
  split
  · rename_i himm
    rw [if_pos himm] at hoperand
    rcases hoperand with ⟨hval, hnext⟩
    exact ⟨hval, hat.of_fetched (fetchInt_fetched hnext.active) ⟨origin, false, hnext⟩⟩
  · rename_i hplain
    rw [if_neg hplain] at hoperand
    exact h.of_fetched hfetched ⟨origin, false, hoperand⟩

variable (hshort : (header ++ body).length <= 32768)

include hshort

theorem jump_follows (h : At data pos (header ++ body) t k pc stack) (target : Int) :
    Follows data pos (header ++ body) t (k.jump t target)
      (Machine.jumping code target stack) := by
  unfold Machine.jumping
  split
  · rename_i hjump
    rcases hjump with ⟨hpos, hsome⟩
    rcases Option.isSome_iff_exists.mp hsome with ⟨instr, hinstr⟩
    have hinside := inside_of_instrAt hheader hdecode hinstr
    rcases h.place with ⟨origin, fresh, hstreaming⟩
    rcases hstreaming.file with ⟨file, hfile, _⟩
    have hjumped := jump_streaming law hstreaming (Nat.le_of_lt hinside) (by omega)
    have htask := k.jump_task t target hfile
    rw [Int.toNat_of_nonneg hpos] at hjumped
    refine ⟨⟨_, _, hjumped⟩, ?_, ?_⟩
    · rw [htask]
      exact h.depth
    · rw [htask]
      exact h.cells
  · trivial

theorem opJif_follows {pc' : Nat} (h : At data pos (header ++ body) t k pc stack)
    (hnext : At data pos (header ++ body) t (k.fetchInt t).2 pc' stack) :
    Follows data pos (header ++ body) t (k.opJif t)
      (Machine.taking stack fun a s =>
        if a ≠ 0 then Machine.jumping code (k.fetchInt t).1 s
        else .goes { pc := pc', stack := s }) := by
  apply checkStackUnderflow_follows h
  rintro a s rfl
  rcases hnext.pop with ⟨ha, hpop⟩
  simp only [ha]
  by_cases hzero : a ≠ 0
  · rw [if_pos hzero, if_pos hzero]
    exact jump_follows law hheader hdecode hshort hpop _
  · rw [if_neg hzero, if_neg hzero]
    exact hpop

theorem execute_follows {opcode : Byte} {op : VMOpcode} {operand : Option Int} {pc' : Nat}
    (hop : VMOpcode.ofByte? opcode = some op)
    (h : At data pos (header ++ body) t k pc stack)
    (hoperand : if op.hasOperand then
        operand = some (k.fetchInt t).1 ∧
          At data pos (header ++ body) t (k.fetchInt t).2 pc' stack
      else At data pos (header ++ body) t k pc' stack) :
    Follows data pos (header ++ body) t (k.execute t opcode)
      (Machine.exec code (k.environment t) op operand pc' stack) := by
  unfold execute
  rw [hop]
  cases op with
  | exit => exact terminateTask_inactive k t
  | print => exact opPrint_follows hoperand FD_STDOUT
  | read => exact opRead_follows hoperand
  | prtc =>
      exact taking_follows hoperand (f := fun val k =>
        k.stdWriteChar FD_STDOUT (toChar val)) fun _ k' => stdWrite_leaves k' t _ _
  | prte => exact opPrint_follows hoperand FD_STDERR
  | prts => exact opPrts_follows hoperand
  | push =>
      rcases hoperand with ⟨hval, hnext⟩
      rw [hval]
      exact checkStackOverflow_follows h (hnext.push (k.fetchInt t).1)
  | add => exact binary_follows hoperand _
  | sub => exact binary_follows hoperand _
  | eq => exact binary_follows hoperand _
  | dup => exact opDup_follows hoperand
  | pop =>
      apply checkStackUnderflow_follows hoperand
      rintro a s rfl
      exact At.drop hoperand
  | jmp =>
      rcases hoperand with ⟨htarget, hnext⟩
      rw [htarget]
      exact jump_follows law hheader hdecode hshort hnext _
  | jif =>
      rcases hoperand with ⟨htarget, hnext⟩
      rw [htarget]
      exact opJif_follows law hheader hdecode hshort h hnext
  | sys => exact opSys_follows hoperand
  | pinMode => exact hoperand
  | dWrite => exact hoperand
  | sleep => exact opSleep_follows hoperand
  | malloc => trivial
  | load => exact opLoad_follows hoperand
  | store => exact opStore_follows hoperand

/-- `VM_runStep` is a step of the stack machine. -/
theorem runStep_follows (h : At data pos (header ++ body) t k pc stack) :
    Follows data pos (header ++ body) t (k.runStep t)
      (Machine.next code (k.environment t) { pc := pc, stack := stack }) := by
  unfold Machine.next
  cases hinstr : instrAt code pc with
  | none => trivial
  | some instr =>
      rcases h.fetch law hheader hdecode hinstr with ⟨hop, hfetched, hat, hoperand⟩
      have hnext : k.nextOpcode t = some instr.op := by
        unfold nextOpcode
        rw [if_pos hat.active]
        exact hop
      rw [(runStep_of_nextOpcode hnext).left, ← hfetched.environment]
      exact execute_follows law hheader hdecode hshort hop hat hoperand

end Decoded

end Kernel
end ArduOS
