import ArduOS.Kernel.EndOfCode
import ArduOS.Kernel.Footing
import ArduOS.Kernel.Waiting

/-!
# Synchronous calls

A synchronous exec is a call: until the child is FREE nothing of its caller changes, and
then the caller goes on as if the call had taken no time.
-/

namespace ArduOS

open Library Records

namespace Kernel

variable {sd : SdFat} {k k' : Kernel sd} {p c t : TaskId}

/-!
## A caller at rest
-/

def Resting (p : TaskId) (paused : Task sd) (u : TaskId) (task : Task sd) : Prop :=
  u = p -> task = paused ∨ task = paused.setRunning

theorem resting_bears {paused : Task sd} (hpaused : paused.taskState = .paused c)
    (ht : t ≠ p) : Bears (Resting p paused) t := by
  constructor
  · intro task task' _ _ heq
    exact absurd heq ht
  · intro u c' task hwaits hrests heq
    rcases hrests heq with rfl | rfl
    · exact .inr rfl
    · cases hwaits
  · intro k child hall _ hfree task _ heq
    rcases hall child heq with hsame | hwoken
    · rw [hsame, hpaused] at hfree
      cases hfree
    · rw [hwoken] at hfree
      cases hfree

theorem step_resting (hpaused : (k.tasks p).taskState = .paused c) (e : Event) :
    (k.step e).tasks p = k.tasks p ∨ (k.step e).tasks p = (k.tasks p).setRunning := by
  cases e with
  | arrive bytes => exact .inl rfl
  | tick => exact .inl rfl
  | turn =>
      by_cases hcurrent : k.current = p
      · left
        have hidle : ¬ (k.tasks p).isRunnable = true := by simp [Task.isRunnable, hpaused]
        show (k.schedule k.current).tasks p = k.tasks p
        rw [hcurrent]
        unfold schedule
        rw [if_pos hidle]
      · have hstands : Stands (Resting p (k.tasks p)) k.systemTicks k := by
          refine ⟨?_, rfl⟩
          rintro u rfl
          exact .inl rfl
        have hturn := schedule_stands (resting_bears hpaused hcurrent) hstands (by
          intro k' _ hk'
          rcases k'.syscallChdir_others k.current with ⟨hothers, hticks⟩
          refine ⟨?_, hticks.trans hk'.ticks⟩
          rintro u rfl
          rw [hothers u (Ne.symm hcurrent)]
          exact hk'.each u rfl)
        exact hturn.each p rfl

/-!
## The call
-/

/-- The turn of `p` is an exec that makes it wait for `c`. -/
structure CallsExec (k k' : Kernel sd) (p c : TaskId) : Prop where
  current : k.current = p
  turn : k.dispatches p = some k'
  opcode : k'.nextOpcode p = some .sys
  id : (k'.fetchByte p).2.operand p 0 = 2
  waits : ((k.step .turn).tasks p).taskState = .paused c

/-- The caller after its call, the id and three operands taken from the stack. -/
def afterCall (task : Task sd) : Task sd := { task with sp := task.sp - 4 }

theorem CallsExec.running (h : CallsExec k k' p c) :
    ((k'.fetchByte p).2.tasks p).taskState = .running := by
  have hrecords : (k'.fetchByte p).2.records = k.records :=
    (fetchByte_records h.opcode).trans (wakeUp_records (dispatches_cases h.turn).right.right)
  have hstate := congrArg (fun r => (Records.task r p).state) hrecords
  exact hstate.trans (dispatches_running h.turn)

theorem CallsExec.caller (h : CallsExec k k' p c) :
    (k.step .turn).tasks p =
      { afterCall ((k'.fetchByte p).2.tasks p) with taskState := .paused c } := by
  have hwaits := h.waits
  have hrunning := h.running
  rcases runStep_of_nextOpcode h.opcode with ⟨hstep, hop⟩
  rw [step_turn_of_dispatches h.current h.turn, hstep] at hwaits ⊢
  have hid := h.id
  generalize (k'.fetchByte p).2 = k₁ at hrunning hwaits hid ⊢
  unfold execute at hwaits ⊢
  rw [hop] at hwaits ⊢
  simp only [opSys, checkStackUnderflow] at hwaits ⊢
  split at hwaits
  · have hgone := ((k₁.stdWrite FD_STDERR
      (text "Err: Stack Underflow\n")).terminateTask_terminated p).state
    have hfree := hwaits.symm.trans hgone.left
    cases hfree
  · rename_i henough
    rw [if_neg henough]
    have hcall : (k₁.stackPop p).2.systemCall p (k₁.stackPop p).1 =
        (k₁.stackPop p).2.syscallExec p := by
      rw [stackPop_fst, hid]
      rfl
    rw [hcall] at hwaits ⊢
    have hpopped : ((k₁.stackPop p).2.tasks p).taskState = .running := by
      simp [stackPop, modifyTask, hrunning]
    have hcases := execWith_cases ((k₁.stackPop p).2.stackPops_reads p) hpopped
      ((k₁.stackPop p).2.operand p 0) ((k₁.stackPop p).2.operand p 1)
      ((k₁.stackPop p).2.operand p 2)
    simp only [← syscallExec_eq] at hcases
    rcases hcases with ⟨_, hrefused⟩ | ⟨child, _, _, ⟨_, hrefused⟩ | ⟨_, _, _, hstarted⟩⟩
    · rw [hrefused.caller] at hwaits
      cases hwaits
    · rw [hrefused.caller] at hwaits
      cases hwaits
    · have hcaller := hstarted.caller
      rw [hcaller] at hwaits
      have hstate : (if (k₁.stackPop p).2.operand p 0 = 1 then TaskState.paused child
          else .running) = .paused c := hwaits
      show ((k₁.stackPop p).2.syscallExec p).tasks p = _
      rw [hcaller, hstate]
      have htask : (k₁.stackPop p).2.tasks p =
          { k₁.tasks p with sp := (k₁.tasks p).sp - 1 } := by simp [stackPop, modifyTask]
      have hsp : (k₁.tasks p).sp - 1 - 3 = (k₁.tasks p).sp - 4 := by omega
      rw [htask]
      unfold callerAfter afterCall
      simp only
      rw [hsp]

/-!
## The return
-/

structure Waiting (task : Task sd) (p c : TaskId) (k : Kernel sd) : Prop where
  task : k.tasks p = task
  up : DaemonUp k.records
  sound : WaitsSound k.records

structure Returned (task : Task sd) (p c : TaskId) (k : Kernel sd) : Prop where
  task : k.tasks p = task.setRunning
  child : (k.tasks c).taskState = .free

theorem step_waiting {task : Task sd} (hpaused : task.taskState = .paused c) (e : Event)
    (hok : WakesParent k e) (h : Waiting task p c k) :
    Waiting task p c (k.step e) ∨ Returned task p c (k.step e) := by
  have hstate : (k.tasks p).taskState = .paused c := by
    rw [h.task]
    exact hpaused
  rcases k.step_waitsSound e hok h.up h.sound with ⟨hsound, hhands⟩
  have hrests := step_resting hstate e
  rw [h.task] at hrests
  rcases hhands p c hstate with ⟨hwaits, _⟩ | ⟨hrunning, hfree⟩
  · left
    refine ⟨?_, step_daemonUp k e h.up, hsound⟩
    rcases hrests with hsame | hwoken
    · exact hsame
    · have hcontra : ((k.step e).tasks p).taskState = .paused c := hwaits
      rw [hwoken] at hcontra
      cases hcontra
  · right
    refine ⟨?_, hfree⟩
    rcases hrests with hsame | hwoken
    · have hcontra : ((k.step e).tasks p).taskState = .running := hrunning
      rw [hsame, hpaused] at hcontra
      cases hcontra
    · exact hwoken

/--
In every run that loses no program whose parent waits, a synchronous exec is a call: the
caller is PAUSED with its operands taken from the stack, and either stays so to the end of
the run, its child active, or up to the step that makes the child FREE.  After that step
the caller is as before the call, but for the four cells of its stack.
-/
theorem exec_returns {card : sd.Card} {before events : List Event}
    (hrun : AllSteps step WakesParent (boot card) (before ++ .turn :: events))
    (hcall : CallsExec ((boot card).run before) k' p c) :
    let k := ((boot card).run before).step .turn
    let caller := (k'.fetchByte p).2.tasks p
    ((k.run events).tasks p = { afterCall caller with taskState := .paused c } ∧
        ((k.run events).tasks c).taskState ≠ .free) ∨
      exists done e rest, events = done ++ e :: rest ∧
        (k.run done).tasks p = { afterCall caller with taskState := .paused c } ∧
        ((k.run done).tasks c).taskState ≠ .free ∧
        (k.run (done ++ [e])).tasks p = afterCall caller ∧
        ((k.run (done ++ [e])).tasks c).taskState = .free := by
  intro k caller
  rcases AllSteps.append before (.turn :: events) _ hrun with ⟨hbefore, hstep, hafter⟩
  rcases run_records WaitsSound (fun _ => Booted.waitsSound)
    (fun k e hok hup hsound => (k.step_waitsSound e hok hup hsound).left) hbefore with
    ⟨hup, hsound⟩
  have hstart : Waiting { afterCall caller with taskState := .paused c } p c k :=
    ⟨hcall.caller, step_daemonUp _ .turn hup, (step_waitsSound _ .turn hstep hup hsound).left⟩
  have hback : Task.setRunning { afterCall caller with taskState := .paused c } =
      afterCall caller := by
    have hrunning := hcall.running
    unfold Task.setRunning afterCall
    simp only
    rw [← hrunning]
  have hchild : forall k' : Kernel sd,
      Waiting { afterCall caller with taskState := .paused c } p c k' ->
      (k'.tasks c).taskState ≠ .free := by
    intro k' h
    have hpaused : (k'.tasks p).taskState = .paused c := by rw [h.task]
    exact (h.sound.child p c hpaused).left
  rcases AllSteps.preserves_until _ (Returned _ p c)
    (fun k' e hok h => step_waiting rfl e hok h) events k hafter hstart with
    hwaiting | ⟨done, e, rest, hsplit, hwaiting, hreturned⟩
  · exact .inl ⟨hwaiting.task, hchild _ hwaiting⟩
  · refine .inr ⟨done, e, rest, hsplit, hwaiting.task, hchild _ hwaiting, ?_, hreturned.child⟩
    rw [← hback]
    exact hreturned.task

def callingCard : CardImage :=
  { files := [
      (text "p", [0xAD#8, 0x01#8, 0x10#8, 0x00#8, 0x10#8, 0x71#8, 0x00#8, 0x10#8, 0x01#8,
        0x00#8, 0x52#8, 0x10#8, 0x00#8, 0x00#8, 0x10#8, 0x01#8, 0x00#8, 0x10#8, 0x01#8,
        0x00#8, 0x10#8, 0x02#8, 0x00#8, 0x30#8]),
      (text "q", [0xAD#8, 0x01#8, 0x10#8, 0x00#8])]
    directories := []
    opensLeft := 2 }

def callingEvents : List Event := .arrive runRequest.bytes :: List.replicate 22 .turn

def calling : Kernel CardImage.sdFat := (boot callingCard).run callingEvents

set_option maxRecDepth 4000 in
theorem calling_returns :
    ((calling.step .turn).run [.turn]).tasks 1 =
      afterCall ((calling.fetchByte 1).2.tasks 1) := by
  have hfacts : AllSteps step WakesParent (boot callingCard : Kernel CardImage.sdFat)
      (callingEvents ++ [.turn, .turn]) ∧
      ((calling.tasks 1).isRunnable = true ∧ ¬ (calling.tasks 1).wakeUpTime > 0#32 ∧
        calling.current = 1 ∧ calling.nextOpcode 1 = some .sys ∧
        (calling.fetchByte 1).2.operand 1 0 = 2) ∧
      ((calling.step .turn).tasks 1).taskState = .paused 2 ∧
      (((calling.step .turn).run [.turn]).tasks 2).taskState = .free := by decide +kernel
  rcases hfacts with ⟨hsteps, ⟨hrunnable, hawake, hcurrent, hop, hid⟩, hwaits, hgone⟩
  have hcall : CallsExec calling calling 1 2 :=
    ⟨hcurrent, dispatches_of_awake hrunnable (by decide) hawake, hop, hid, hwaits⟩
  have hreturns := exec_returns hsteps hcall
  rw [show (boot callingCard).run callingEvents = calling from rfl] at hreturns
  rcases hreturns with ⟨_, hchild⟩ | ⟨done, e, rest, hsplit, _, _, htask, _⟩
  · exact absurd hgone hchild
  · cases done with
    | nil =>
        cases hsplit
        exact htask
    | cons _ done => cases done <;> cases hsplit

end Kernel
end ArduOS
