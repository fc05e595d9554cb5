import ArduOS.Kernel.Requests
import ArduOS.Kernel.Runs

/-!
# Stack bounds

Every opcode checks the stack before it touches it; a system call checks for
its id only.  As long as the system calls that are made have their operands on
the stack, no access to a stack is ever out of bounds.
-/

namespace ArduOS

open Library

namespace Kernel

variable {sd : SdFat}

def StackAccess : Access -> Prop
  | .stack _ i => 0 <= i ∧ i < VM_STACK_SIZE
  | _ => True

theorem stackAccess_permits (t : TaskId) : Permits StackAccess t (VM_STACK_SIZE - 1) := by
  constructor
  · exact Int.le_refl _
  · intro i hlo hhi
    exact ⟨hlo, by omega⟩
  · intro _ _
    trivial
  · intro _ _
    trivial

/-- So far every access to a stack was in bounds, and every stack pointer is. -/
structure StackSound (k : Kernel sd) : Prop where
  logged : forall t, forall i : Int, .stack t i ∈ k.log -> 0 <= i ∧ i < VM_STACK_SIZE
  bounds : StacksInBounds k

theorem Effect.stackSound {k k' : Kernel sd} (h : Effect StackAccess k k')
    (hk : StackSound k) : StackSound k' := by
  constructor
  · intro t i hin
    rcases h.logged with ⟨new, hlog, hnew⟩
    rw [hlog] at hin
    rcases List.mem_append.mp hin with hold | hnow
    · exact hk.logged t i hold
    · exact hnew _ hnow
  · exact h.bounds (fun _ _ => id) hk.bounds

/-!
## Boot
-/

theorem init_quiet (k : Kernel sd) : Quiet k.cleared k.init := by
  have hmalloc := k.cleared.malloc_quiet 0 128
  by_cases hok : (k.cleared.malloc 0 128).1 ≠ -1
  · have hinit : k.init = (k.cleared.malloc 0 128).2.modifyTask 0 fun task =>
        { task with heapBase := (k.cleared.malloc 0 128).1, heapLimit := 128 } :=
      if_pos hok
    rw [hinit]
    exact hmalloc.modify 0 rfl
  · have hinit : k.init = (k.cleared.malloc 0 128).2 := if_neg hok
    rw [hinit]
    exact hmalloc

theorem halInit_log (k : Kernel sd) : k.halInit.log = k.log := by
  unfold halInit
  simp only
  split
  · exact (stdWrite_quiet _ _ _).log
  · rfl

theorem boot_log (card : sd.Card) : (boot card).log = [] := by
  unfold boot setup
  simp only
  rw [(stdWrite_quiet _ _ _).log, (init_quiet _).log]
  have hcleared : forall k : Kernel sd, k.cleared.log = k.log := fun _ => rfl
  rw [hcleared, (stdWrite_quiet _ _ _).log, halInit_log]
  rfl

theorem cleared_sp (k : Kernel sd) (t : TaskId) : (k.cleared.tasks t).sp = -1 := by
  by_cases ht : t = 0
  · subst ht
    simp [cleared, modifyTask, initTask, Task.setRunning, Task.setFree]
  · simp [cleared, modifyTask, initTask, Task.setFree, ht]

theorem boot_stackSound (card : sd.Card) : StackSound (boot card) := by
  constructor
  · intro t i hin
    rw [boot_log] at hin
    cases hin
  · intro t
    unfold boot setup
    simp only
    rw [(stdWrite_quiet _ _ _).sp, (init_quiet _).sp, cleared_sp]
    decide

/-!
## Turns
-/

/-- Whether the system call that `t` makes next, if any, has its operands. -/
def turnHasOperands (k : Kernel sd) (t : TaskId) : Bool :=
  match k.dispatches t with
  | none => true
  | some k =>
      if k.nextOpcode t = some .sys ∧ 0 <= (k.tasks t).sp then
        sysOperands ((k.fetchByte t).2.operand t 0) <= (k.tasks t).sp
      else true

/-- A step in which no system call lacks operands. -/
def HasOperandsAt (k : Kernel sd) (e : Event) : Prop :=
  e = .turn -> k.turnHasOperands k.current = true

instance (k : Kernel sd) (e : Event) : Decidable (HasOperandsAt k e) :=
  inferInstanceAs (Decidable (e = .turn -> k.turnHasOperands k.current = true))

theorem runStep_stackSound (k : Kernel sd) (t : TaskId)
    (hargs : k.nextOpcode t = some .sys -> 0 <= (k.tasks t).sp ->
      (k.fetchByte t).2.HasOperands t)
    (h : StackSound k) : StackSound (k.runStep t) := by
  have hbounds := h.bounds t
  have heffect : Effect StackAccess k (k.runStep t) := by
    apply runStep_effect (stackAccess_permits t)
    · omega
    · intro hroom
      exact ⟨by omega, by omega⟩
    · intro _ _
      trivial
    · exact hargs
    · intro op a _ ha
      cases ha with
      | load _ => trivial
      | store _ => trivial
      | prts _ _ => trivial
      | sys a ha => exact PermitsHeap.sysCell ⟨fun _ => trivial, fun _ => trivial⟩ ha
  exact heffect.stackSound h

theorem commProcess_stackSound (k : Kernel sd) (t : TaskId) (h : StackSound k) :
    StackSound (k.commProcess t) := by
  unfold commProcess
  generalize k.hal.readPacket 0#16 k.rxBuffer RX_BUFFER_SIZE = result
  rcases result with ⟨r, hal⟩
  have hpolled : StackSound (k.polled hal r.payloadOut) := ⟨h.logged, h.bounds⟩
  simp only
  split
  · split
    · exact (commRequest_effect (stackAccess_permits t)
        ⟨fun _ => trivial, fun _ => trivial⟩ _ _ _ trivial).stackSound hpolled
    · exact hpolled
  · exact hpolled

theorem schedule_stackSound (k : Kernel sd) (t : TaskId)
    (hok : k.turnHasOperands t = true) (h : StackSound k) :
    StackSound (k.schedule t) := by
  unfold turnHasOperands dispatches at hok
  unfold schedule
  by_cases hrunnable : (k.tasks t).isRunnable = true
  · simp only [hrunnable, not_true_eq_false, if_false] at hok ⊢
    by_cases ht : t = 0
    · simp only [if_pos ht]
      exact k.commProcess_stackSound t h
    · simp only [if_neg ht] at hok ⊢
      cases hwake : k.wakeUp t with
      | none => exact h
      | some k' =>
          simp only [hwake] at hok ⊢
          apply runStep_stackSound
          · intro hsys hsp
            have hfetched := (k'.fetchByte_quiet t).sp t
            rw [if_pos ⟨hsys, hsp⟩] at hok
            unfold HasOperands
            rw [hfetched]
            exact of_decide_eq_true hok
          · exact (wakeUp_quiet hwake).effect.stackSound h
  · rw [if_pos hrunnable]
    exact h

theorem step_stackSound (k : Kernel sd) (e : Event) (hok : HasOperandsAt k e)
    (h : StackSound k) : StackSound (k.step e) := by
  cases e with
  | arrive bytes => exact ⟨h.logged, h.bounds⟩
  | tick => exact ⟨h.logged, h.bounds⟩
  | turn =>
      have hturn := k.schedule_stackSound k.current (hok rfl) h
      exact ⟨hturn.logged, hturn.bounds⟩

/--
As long as every system call that is made has its operands on the stack, every
access to a stack is in bounds, and so is the stack pointer of every task.
-/
theorem stack_bounds {card : sd.Card} {events : List Event}
    (h : AllSteps step HasOperandsAt (boot card) events) :
    (forall t, forall i : Int, .stack t i ∈ ((boot card).run events).log ->
      0 <= i ∧ i < VM_STACK_SIZE) ∧
    (forall t, (((boot card).run events).tasks t).isActive = true ->
      -1 <= (((boot card).run events).tasks t).sp ∧
        (((boot card).run events).tasks t).sp <= VM_STACK_SIZE - 1) := by
  have hsound : StackSound ((boot card).run events) :=
    AllSteps.preserves StackSound step_stackSound events _ h (boot_stackSound card)
  refine ⟨hsound.logged, ?_⟩
  intro t _
  have hbounds := hsound.bounds t
  omega

set_option maxRecDepth 4000 in
/-- A listing with its three operands on the stack stays in bounds. -/
theorem stack_bounds_listing :
    -1 <= (((boot (CardImage.ofProgram 16#8 listingCode 3)).run
        (.arrive runRequest.bytes :: List.replicate 14 .turn) :
          Kernel CardImage.sdFat).tasks 1).sp ∧
      (((boot (CardImage.ofProgram 16#8 listingCode 3)).run
        (.arrive runRequest.bytes :: List.replicate 14 .turn) :
          Kernel CardImage.sdFat).tasks 1).sp <= VM_STACK_SIZE - 1 := by
  have hsteps : AllSteps step HasOperandsAt
      (boot (CardImage.ofProgram 16#8 listingCode 3) : Kernel CardImage.sdFat)
      (.arrive runRequest.bytes :: List.replicate 14 .turn) := by decide +kernel
  have hactive : (((boot (CardImage.ofProgram 16#8 listingCode 3)).run
      (.arrive runRequest.bytes :: List.replicate 14 .turn) :
        Kernel CardImage.sdFat).tasks 1).isActive = true := by decide +kernel
  exact (stack_bounds hsteps).right 1 hactive

def shortCall : Kernel CardImage.sdFat :=
  (boot (CardImage.ofProgram 16#8 [0x10#8, 0x01#8, 0x00#8, 0x30#8] 1)).run
    (.arrive runRequest.bytes :: List.replicate 5 .turn)

set_option maxRecDepth 4000 in
/-- The listing took its operands from below the stack, and the task goes on. -/
theorem shortCall_leaves_stack :
    .stack 1 (-1) ∈ shortCall.log ∧ .stack 1 (-3) ∈ shortCall.log ∧
      (shortCall.tasks 1).isActive = true ∧ (shortCall.tasks 1).sp = -4 := by
  decide +kernel

end Kernel
end ArduOS
