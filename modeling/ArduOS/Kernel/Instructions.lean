import ArduOS.Kernel.Footprint

/-!
# What an instruction accesses

With enough operands for its system calls, an instruction stays on the stack of
its task and in the heap cells its operands address.
-/

namespace ArduOS

open Library

namespace Kernel

variable {sd : SdFat} {P : Access -> Prop} {k : Kernel sd} {t : TaskId} {top : Int}

inductive OpCell (k : Kernel sd) (t : TaskId) : VMOpcode -> Access -> Prop where
  | load (h : inHeap (k.getPhysAddr t (k.operand t 0)) = true) :
      OpCell k t .load (.heapRead (k.getPhysAddr t (k.operand t 0)))
  | store (h : inHeap (k.getPhysAddr t (k.operand t 0)) = true) :
      OpCell k t .store (.heapWrite (k.getPhysAddr t (k.operand t 0)))
  | prts (c : Int) (h : StringCell k.globalHeap 127 inHeap isNull
      (k.getPhysAddr t (k.operand t 0)) c) : OpCell k t .prts (.heapRead c)
  | sys (a : Access) (h : SysCell (k.stackPop t).2 t (k.operand t 0) a) :
      OpCell k t .sys a

theorem checkStackOverflow_effect (k : Kernel sd) (t : TaskId)
    {body : Kernel sd -> Kernel sd}
    (hbody : (k.tasks t).sp < VM_STACK_SIZE - 1 -> Effect P k (body k)) :
    Effect P k (k.checkStackOverflow t body) := by
  unfold checkStackOverflow
  split
  · exact ((stdWrite_quiet k _ _).trans (terminateTask_quiet _ t)).effect
  · exact hbody (by omega)

theorem checkStackUnderflow_effect (k : Kernel sd) (t : TaskId) (count : Int)
    {body : Kernel sd -> Kernel sd}
    (hbody : count - 1 <= (k.tasks t).sp -> Effect P k (body k)) :
    Effect P k (k.checkStackUnderflow t count body) := by
  unfold checkStackUnderflow
  split
  · exact ((stdWrite_quiet k _ _).trans (terminateTask_quiet _ t)).effect
  · exact hbody (by omega)

theorem binary_effect (hp : Permits P t top) (k : Kernel sd) (op : Int -> Int -> Int)
    (htop : (k.tasks t).sp <= top) : Effect P k (k.binary t op) := by
  apply checkStackUnderflow_effect
  intro hsp
  have hfirst := hp.pop k (by omega) htop
  have hsecond := hp.pop (k.stackPop t).2 (by rw [stackPop_sp]; omega)
    (by rw [stackPop_sp]; omega)
  apply (hfirst.trans hsecond).trans
  apply hp.push
  · rw [stackPop_sp, stackPop_sp]
    omega
  · rw [stackPop_sp, stackPop_sp]
    omega

theorem opDup_effect (hp : Permits P t top) (k : Kernel sd)
    (htop : (k.tasks t).sp <= top) : Effect P k (k.opDup t) := by
  apply checkStackUnderflow_effect
  intro hlo
  apply checkStackOverflow_effect
  intro hhi
  have hread : Effect P k (k.stackTop t).2 :=
    stackTop_effect k (hp.stack _ (by omega) htop)
  have hfull := hp.full
  apply hread.trans
  apply hp.push
  · exact Int.le_trans (by omega) hlo
  · exact Int.lt_of_lt_of_le hhi hfull

/-- Nothing checks the stack between a push and the fetch of its value. -/
theorem opPush_effect (k : Kernel sd)
    (hpush : P (.stack t ((k.tasks t).sp + 1))) :
    Effect P k ((k.fetchInt t).2.stackPush t (k.fetchInt t).1) := by
  have hfetch := k.fetchInt_quiet t
  have hsp := hfetch.sp t
  apply hfetch.effect.trans
  apply stackPush_effect
  rw [hsp]
  exact hpush

theorem opJif_effect (hp : Permits P t top) (k : Kernel sd)
    (htop : (k.tasks t).sp <= top) : Effect P k (k.opJif t) := by
  apply checkStackUnderflow_effect
  intro hlo
  have hfetch := k.fetchInt_quiet t
  have hsp := hfetch.sp t
  generalize k.fetchInt t = fetched at hfetch hsp ⊢
  rcases fetched with ⟨target, k₁⟩
  simp only at hfetch hsp ⊢
  have hpop := hfetch.effect.trans (hp.pop k₁ (by omega) (by omega))
  generalize k₁.stackPop t = popped at hpop ⊢
  rcases popped with ⟨condition, k₂⟩
  simp only at hpop ⊢
  split
  · exact hpop.quiet (k₂.jump_quiet t target)
  · exact hpop

theorem opPrint_effect (hp : Permits P t top) (k : Kernel sd) (fd : Int)
    (htop : (k.tasks t).sp <= top) : Effect P k (k.opPrint t fd) := by
  apply checkStackUnderflow_effect
  intro hlo
  have hpop := hp.pop k (by omega) htop
  exact (hpop.quiet (stdWrite_quiet _ _ _)).quiet (stdWrite_quiet _ _ _)

theorem opPrtc_effect (hp : Permits P t top) (k : Kernel sd)
    (htop : (k.tasks t).sp <= top) :
    Effect P k (k.checkStackUnderflow t 1 fun k =>
      let (val, k) := k.stackPop t
      k.stdWriteChar FD_STDOUT (toChar val)) := by
  apply checkStackUnderflow_effect
  intro hlo
  exact (hp.pop k (by omega) htop).quiet (stdWrite_quiet _ _ _)

theorem opPrts_effect (hp : Permits P t top) (k : Kernel sd)
    (htop : (k.tasks t).sp <= top) (hcell : forall a, OpCell k t .prts a -> P a) :
    Effect P k (k.opPrts t) := by
  apply checkStackUnderflow_effect
  intro hlo
  have hpop := hp.pop k (by omega) htop
  have hread := hpop.trans (readString_effect (k.stackPop t).2 127 inHeap isNull
    ((k.stackPop t).2.getPhysAddr t (k.stackPop t).1) (by
      intro c hc
      rw [stackPop_getPhysAddr, stackPop_globalHeap, stackPop_fst] at hc
      exact hcell _ (.prts c hc)))
  exact hread.quiet (stdWrite_quiet _ _ _)

theorem stdRead_effect (k : Kernel sd) (fd : Int) (hstdin : forall val, P (.stdin val)) :
    Effect P k (k.stdRead fd).2 := by
  have hhal : Effect P k (k.withHal (k.hal.read fd).2) :=
    ⟨⟨[], by simp [withHal], by simp⟩, fun _ _ => rfl,
      fun hcontra => absurd (hstdin 0) (hcontra 0), fun _ => id⟩
  unfold stdRead
  generalize k.hal.read fd = result at hhal ⊢
  rcases result with ⟨val, hal⟩
  simp only at hhal ⊢
  split
  · exact hhal.trans (note_effect _ (hstdin val))
  · exact hhal

theorem stdRead_tasks (k : Kernel sd) (fd : Int) : (k.stdRead fd).2.tasks = k.tasks := by
  unfold stdRead
  simp only
  split
  · rfl
  · rfl

theorem opRead_effect (k : Kernel sd) (hstdin : forall val, P (.stdin val))
    (hpush : (k.tasks t).sp < VM_STACK_SIZE - 1 -> P (.stack t ((k.tasks t).sp + 1))) :
    Effect P k (k.opRead t) := by
  apply checkStackOverflow_effect
  intro hhi
  have hread := k.stdRead_effect FD_STDIN hstdin
  have htasks := k.stdRead_tasks FD_STDIN
  generalize k.stdRead FD_STDIN = read at hread htasks ⊢
  rcases read with ⟨val, k₁⟩
  simp only at hread htasks ⊢
  apply hread.trans
  apply stackPush_effect
  rw [htasks]
  exact hpush hhi

theorem opSleep_effect (hp : Permits P t top) (k : Kernel sd)
    (htop : (k.tasks t).sp <= top) : Effect P k (k.opSleep t) := by
  apply checkStackUnderflow_effect
  intro hlo
  have hpop := hp.pop k (by omega) htop
  generalize k.stackPop t = popped at hpop ⊢
  rcases popped with ⟨ms, k₁⟩
  exact (hpop.quiet (modifyTask_quiet k₁ t rfl)).quiet (yield_quiet _ t)

theorem opMalloc_effect (hp : Permits P t top) (k : Kernel sd)
    (htop : (k.tasks t).sp <= top) : Effect P k (k.opMalloc t) := by
  apply checkStackUnderflow_effect
  intro hlo
  have hpop := hp.pop k (by omega) htop
  have hsp := k.stackPop_sp t
  generalize k.stackPop t = popped at hpop hsp ⊢
  rcases popped with ⟨size, k₁⟩
  simp only at hpop hsp ⊢
  have hmalloc := k₁.malloc_quiet t size
  have hsame := hmalloc.sp t
  generalize k₁.malloc t size = result at hmalloc hsame ⊢
  rcases result with ⟨addr, k₂⟩
  simp only at hmalloc hsame ⊢
  apply (hpop.quiet hmalloc).trans
  apply checkStackOverflow_effect
  intro hhi
  exact hp.push k₂ _ (by omega) (by omega)

theorem segFault_quiet (k : Kernel sd) (t : TaskId) (message : List Byte)
    (physAddr : Int) : Quiet k (k.segFault t message physAddr) :=
  (((stdWrite_quiet k _ _).trans (stdWrite_quiet _ _ _)).trans
    (stdWrite_quiet _ _ _)).trans (terminateTask_quiet _ t)

theorem opLoad_effect (hp : Permits P t top) (k : Kernel sd)
    (htop : (k.tasks t).sp <= top) (hcell : forall a, OpCell k t .load a -> P a) :
    Effect P k (k.opLoad t) := by
  apply checkStackUnderflow_effect
  intro hlo
  have hpop := hp.pop k (by omega) htop
  have hsp := k.stackPop_sp t
  have hphys := k.stackPop_getPhysAddr t (k.stackPop t).1
  rw [stackPop_fst] at hphys
  have hval := k.stackPop_fst t
  generalize k.stackPop t = popped at hpop hsp hphys hval ⊢
  rcases popped with ⟨addr, k₁⟩
  simp only at hpop hsp hphys hval ⊢
  rw [hval, hphys]
  split
  · rename_i hin
    apply hpop.trans
    apply checkStackOverflow_effect
    intro hhi
    apply (note_effect k₁ (hcell _ (.load hin))).trans
    exact hp.push _ _ (by rw [note_tasks]; omega) (by rw [note_tasks]; omega)
  · exact hpop.quiet (segFault_quiet k₁ t _ _)

theorem heapSet_effect (k : Kernel sd) {c : Int} (val : Int) (h : P (.heapWrite c)) :
    Effect P k (k.heapSet c val) := by
  have htouches := heapSet_touches (R := fun _ => False) k val
    (W := fun c => P (.heapWrite c)) h
  exact htouches.effect (fun _ hcontra => absurd hcontra id) fun _ hc => hc

theorem opStore_effect (hp : Permits P t top) (k : Kernel sd)
    (htop : (k.tasks t).sp <= top) (hcell : forall a, OpCell k t .store a -> P a) :
    Effect P k (k.opStore t) := by
  apply checkStackUnderflow_effect
  intro hlo
  have hfirst := hp.pop k (by omega) htop
  have hpops := hfirst.trans (hp.pop (k.stackPop t).2 (by rw [stackPop_sp]; omega)
    (by rw [stackPop_sp]; omega))
  simp only [stackPop_getPhysAddr, stackPop_fst]
  split
  · rename_i hin
    exact hpops.trans (heapSet_effect _ _ (hcell _ (.store hin)))
  · exact hpops.quiet (segFault_quiet _ t _ _)

/-- The system call whose id is on top finds its operands below it. -/
def HasOperands (k : Kernel sd) (t : TaskId) : Prop :=
  sysOperands (k.operand t 0) <= (k.tasks t).sp

theorem opSys_effect (hp : Permits P t top) (k : Kernel sd)
    (htop : (k.tasks t).sp <= top) (hargs : 0 <= (k.tasks t).sp -> k.HasOperands t)
    (hcell : forall a, OpCell k t .sys a -> P a) : Effect P k (k.opSys t) := by
  apply checkStackUnderflow_effect
  intro hlo
  apply (hp.pop k (by omega) htop).trans
  have henough := hargs (by omega)
  unfold HasOperands at henough
  simp only [stackPop_fst]
  apply systemCall_effect hp
  · rw [stackPop_sp]
    omega
  · rw [stackPop_sp]
    omega
  · intro a ha
    exact hcell a (.sys a ha)

theorem execute_effect (hp : Permits P t top) (k : Kernel sd) (opcode : Byte)
    (htop : (k.tasks t).sp <= top)
    (hpush : (k.tasks t).sp < VM_STACK_SIZE - 1 -> P (.stack t ((k.tasks t).sp + 1)))
    (hstdin : VMOpcode.ofByte? opcode = some .read -> forall val, P (.stdin val))
    (hargs : VMOpcode.ofByte? opcode = some .sys -> 0 <= (k.tasks t).sp ->
      k.HasOperands t)
    (hcell : forall op a, VMOpcode.ofByte? opcode = some op -> OpCell k t op a -> P a) :
    Effect P k (k.execute t opcode) := by
  unfold execute
  cases hop : VMOpcode.ofByte? opcode with
  | none => exact Effect.refl k
  | some op =>
      cases op with
      | exit => exact (k.terminateTask_quiet t).effect
      | print => exact opPrint_effect hp k FD_STDOUT htop
      | read => exact opRead_effect k (hstdin hop) hpush
      | prtc => exact opPrtc_effect hp k htop
      | prte => exact opPrint_effect hp k FD_STDERR htop
      | prts => exact opPrts_effect hp k htop fun a ha => hcell _ a hop ha
      | push =>
          apply checkStackOverflow_effect
          intro hhi
          exact opPush_effect k (hpush hhi)
      | add => exact binary_effect hp k _ htop
      | sub => exact binary_effect hp k _ htop
      | eq => exact binary_effect hp k _ htop
      | dup => exact opDup_effect hp k htop
      | pop =>
          apply checkStackUnderflow_effect
          intro hlo
          exact stackDrop_effect k (by omega)
      | jmp => exact ((k.fetchInt_quiet t).trans (jump_quiet _ t _)).effect
      | jif => exact opJif_effect hp k htop
      | sys => exact opSys_effect hp k htop (hargs hop) fun a ha => hcell _ a hop ha
      | pinMode => exact Effect.refl k
      | dWrite => exact Effect.refl k
      | sleep => exact opSleep_effect hp k htop
      | malloc => exact opMalloc_effect hp k htop
      | load => exact opLoad_effect hp k htop fun a ha => hcell _ a hop ha
      | store => exact opStore_effect hp k htop fun a ha => hcell _ a hop ha

/-- The instruction of `t` that a step of the machine executes, if any. -/
def nextOpcode (k : Kernel sd) (t : TaskId) : Option VMOpcode :=
  if ((k.fetchByte t).2.tasks t).isActive then VMOpcode.ofByte? (k.fetchByte t).1
  else none

theorem active_of_nextOpcode {k : Kernel sd} {t : TaskId} {op : VMOpcode}
    (h : k.nextOpcode t = some op) : ((k.fetchByte t).2.tasks t).isActive = true := by
  unfold nextOpcode at h
  split at h
  · assumption
  · cases h

theorem runStep_of_nextOpcode {k : Kernel sd} {t : TaskId} {op : VMOpcode}
    (h : k.nextOpcode t = some op) :
    k.runStep t = (k.fetchByte t).2.execute t (k.fetchByte t).1 ∧
      VMOpcode.ofByte? (k.fetchByte t).1 = some op := by
  unfold nextOpcode at h
  split at h
  · rename_i hactive
    refine ⟨?_, h⟩
    unfold runStep
    simp [hactive]
  · cases h

theorem opMalloc_eq {k : Kernel sd} {t : TaskId} (hsp : 0 <= (k.tasks t).sp) :
    k.opMalloc t =
      ((k.stackPop t).2.malloc t (k.stackPop t).1).2.checkStackOverflow t fun k' =>
        k'.stackPush t (if ((k.stackPop t).2.malloc t (k.stackPop t).1).1 = -1 then 0
          else ((k.stackPop t).2.malloc t (k.stackPop t).1).1) :=
  if_neg (by omega)

theorem runStep_malloc {k : Kernel sd} {t : TaskId} (h : k.nextOpcode t = some .malloc) :
    k.runStep t = (k.fetchByte t).2.opMalloc t := by
  rcases runStep_of_nextOpcode h with ⟨hstep, hopcode⟩
  rw [hstep]
  unfold execute
  rw [hopcode]

theorem runStep_sleep {k : Kernel sd} {t : TaskId} (h : k.nextOpcode t = some .sleep) :
    k.runStep t = (k.fetchByte t).2.opSleep t := by
  rcases runStep_of_nextOpcode h with ⟨hstep, hopcode⟩
  rw [hstep]
  unfold execute
  rw [hopcode]

theorem runStep_effect (hp : Permits P t top) (k : Kernel sd)
    (htop : (k.tasks t).sp <= top)
    (hpush : (k.tasks t).sp < VM_STACK_SIZE - 1 -> P (.stack t ((k.tasks t).sp + 1)))
    (hstdin : k.nextOpcode t = some .read -> forall val, P (.stdin val))
    (hargs : k.nextOpcode t = some .sys -> 0 <= (k.tasks t).sp ->
      (k.fetchByte t).2.HasOperands t)
    (hcell : forall op a, k.nextOpcode t = some op -> OpCell (k.fetchByte t).2 t op a ->
      P a) :
    Effect P k (k.runStep t) := by
  have hfetch := k.fetchByte_quiet t
  have hsp := hfetch.sp t
  unfold runStep
  unfold nextOpcode at hstdin hargs hcell
  generalize k.fetchByte t = fetched at hfetch hsp hstdin hargs hcell ⊢
  rcases fetched with ⟨opcode, k₁⟩
  simp only at hfetch hsp hstdin hargs hcell ⊢
  rw [← hsp] at htop hpush hargs
  cases hactive : (k₁.tasks t).isActive with
  | false =>
      simp only [Bool.false_eq_true, not_false_eq_true, if_true]
      exact hfetch.effect
  | true =>
      simp only [hactive, if_true] at hstdin hargs hcell
      simp only [not_true_eq_false, if_false]
      exact hfetch.effect.trans
        (execute_effect hp k₁ opcode htop hpush hstdin hargs hcell)

end Kernel
end ArduOS
