import ArduOS.Kernel.HeapOwnership
import ArduOS.Kernel.Turns

/-!
# The records along a run

A run starts with the records `Kernel_init` leaves, and each event either
leaves them alone or has an outcome of the task whose turn it is.  What an
outcome does to the task states is said once, in `StateChange`.
-/

namespace ArduOS

open Library

namespace Records

variable {kept : Prop} {t : TaskId} {r r' : Records}

/-!
## Task states
-/

/-- What a turn of `t` does to the task states and to who started whom. -/
inductive StateChange (kept : Prop) (t : TaskId) (r r' : Records) : Prop where
  | same (hstate : forall u, (r'.task u).state = (r.task u).state)
      (hstarted : r'.started = r.started)
  | ends (ht : t ≠ 0) (hfree : (r'.task t).state = .free)
      (hothers : forall u, u ≠ t ->
        (r'.task u).state =
          if (r.task u).state = .paused t then .running else (r.task u).state)
      (hstarted : r'.started = r.started)
  | starts (child : TaskId) (waitOpt : Int) (hchild : child ≠ 0) (hne : child ≠ t)
      (hfree : (r.task child).state = .free)
      (hrunning : (r'.task child).state = .running)
      (hself : (r'.task t).state = if waitOpt = 1 then .paused child else .running)
      (hothers : forall u, u ≠ t -> u ≠ child -> (r'.task u).state = (r.task u).state)
      (hstarted : r'.started = Function.update r.started child (some (t, waitOpt)))
  /-- The task is gone, and nobody is woken. -/
  | loses (hlost : ¬ kept) (hfree : (r'.task t).state = .free)
      (hothers : forall u, u ≠ t -> (r'.task u).state = (r.task u).state)
      (hstarted : r'.started = r.started)

theorem modify_state_same (r : Records) (t : TaskId) {f : TaskRecord -> TaskRecord}
    (h : (f (r.task t)).state = (r.task t).state) (u : TaskId) :
    ((r.modify t f).task u).state = (r.task u).state := by
  by_cases hu : u = t
  · subst hu
    rw [modify_task_self, h]
  · rw [modify_task_of_ne _ hu]

theorem grantEntry_state (r : Records) (t : TaskId) (j : Fin MAX_ALLOCATIONS)
    (start size : Int) (u : TaskId) :
    ((r.grantEntry t j start size).task u).state = (r.task u).state :=
  modify_state_same (r.mark start size true) t rfl u

theorem wake_state (task : TaskRecord) (t : TaskId) :
    (task.wake t).state = if task.state = .paused t then .running else task.state := by
  unfold TaskRecord.wake
  split <;> rfl

theorem Exits.stateChange (hexit : Exits t r r') (ht : t ≠ 0) :
    StateChange kept t r r' := by
  apply StateChange.ends ht hexit.free
  · intro u hu
    rw [hexit.others u hu, wake_state]
  · exact hexit.started

theorem exec_stateChange (child : TaskId) (start size waitOpt : Int)
    (hrunning : (r.task t).state = .running) (hchild : child ≠ 0)
    (hfree : (r.task child).state = .free) :
    StateChange kept t r (r.exec t child start size waitOpt) := by
  have hne : child ≠ t := by
    intro heq
    rw [heq, hrunning] at hfree
    cases hfree
  unfold Records.exec
  simp only
  by_cases hwait : waitOpt = 1
  · rw [if_pos hwait]
    apply StateChange.starts child waitOpt hchild hne hfree
    · rw [modify_task_of_ne _ hne]
      simp [loadSegment]
    · simp [hwait]
    · intro u hu hu'
      rw [modify_task_of_ne _ hu]
      simp [loadSegment, modify_task_of_ne _ hu']
    · rfl
  · rw [if_neg hwait]
    apply StateChange.starts child waitOpt hchild hne hfree
    · simp [loadSegment]
    · simp [loadSegment, modify_task_of_ne _ hne.symm, hwait, hrunning]
    · intro u hu hu'
      simp [loadSegment, modify_task_of_ne _ hu']
    · rfl

theorem Outcome.stateChange (hout : Outcome kept t r r')
    (hrunning : (r.task t).state = .running) : StateChange kept t r r' := by
  cases hout with
  | keep fileOpen _ =>
      apply StateChange.same
      · exact modify_state_same r t rfl
      · rfl
  | grant j start size _ _ =>
      apply StateChange.same
      · exact grantEntry_state r t j start size
      · rfl
  | exit ht _ hexit => exact hexit.stateChange ht
  | grantExit ht j start size _ _ _ hexit =>
      apply StateChange.ends ht hexit.free
      · intro u hu
        rw [hexit.others u hu, wake_state, grantEntry_state]
      · exact hexit.started
  | exec child start size waitOpt hchild hfree _ =>
      exact exec_stateChange child start size waitOpt hrunning hchild hfree
  | execFailed child _ _ =>
      apply StateChange.same
      · exact modify_state_same r child rfl
      · rfl
  | lost hlost =>
      apply StateChange.loses hlost
      · simp
      · intro u hu
        rw [modify_task_of_ne _ hu]
      · rfl

/-!
## Blocks
-/

theorem Outcome.heapSound (hout : Outcome kept t r r') (h : HeapSound r) :
    HeapSound r' := by
  cases hout with
  | keep fileOpen _ => exact h.modify t rfl rfl rfl
  | grant j start size _ hrun => exact (grants_entry t j hrun).heapSound h
  | exit _ _ hexit => exact hexit.heapSound h
  | grantExit _ j start size _ hrun _ hexit =>
      exact hexit.heapSound ((grants_entry t j hrun).heapSound h)
  | exec child start size waitOpt _ _ hrun =>
      have hloaded := (grants_segment child hrun).heapSound h
      have hstarted : HeapSound
          ((r.loadSegment child start size).start t child waitOpt) :=
        hloaded.congr (fun b => block_congr rfl rfl rfl) rfl
      unfold Records.exec
      simp only
      split
      · exact hstarted.modify t rfl rfl rfl
      · exact hstarted
  | execFailed child _ _ => exact h.modify child rfl rfl rfl
  | lost _ => exact h.modify t rfl rfl rfl

/-!
## The daemon
-/

structure DaemonUp (r : Records) : Prop where
  active : (r.task 0).state ≠ .free
  noFile : (r.task 0).fileOpen = false

theorem StateChange.active_zero (hchange : StateChange kept t r r')
    (hkept : t = 0 -> kept) (h : (r.task 0).state ≠ .free) :
    (r'.task 0).state ≠ .free := by
  cases hchange with
  | same hstate _ =>
      rw [hstate]
      exact h
  | ends ht _ hothers _ =>
      rw [hothers 0 ht.symm]
      split
      · simp
      · exact h
  | starts child waitOpt hchild _ _ _ hself hothers _ =>
      by_cases ht : t = 0
      · rw [← ht, hself]
        split <;> simp
      · rw [hothers 0 (Ne.symm ht) hchild.symm]
        exact h
  | loses hlost _ hothers _ =>
      have ht : t ≠ 0 := fun heq => hlost (hkept heq)
      rw [hothers 0 ht.symm]
      exact h

theorem modify_fileOpen (r : Records) (t : TaskId) {f : TaskRecord -> TaskRecord}
    (h : (f (r.task t)).fileOpen = (r.task t).fileOpen) (u : TaskId) :
    ((r.modify t f).task u).fileOpen = (r.task u).fileOpen := by
  by_cases hu : u = t
  · subst hu
    rw [modify_task_self, h]
  · rw [modify_task_of_ne _ hu]

theorem Exits.noFile (hexit : Exits t r r') (h : (r.task 0).fileOpen = false) :
    (r'.task 0).fileOpen = false := by
  by_cases ht : t = 0
  · rw [← ht]
    exact hexit.closed
  · rw [hexit.others 0 (Ne.symm ht)]
    unfold TaskRecord.wake
    split
    · exact h
    · exact h

theorem Outcome.noFile (hout : Outcome kept t r r')
    (h : (r.task 0).fileOpen = false) : (r'.task 0).fileOpen = false := by
  cases hout with
  | keep fileOpen hopen =>
      by_cases ht : t = 0
      · subst ht
        rw [modify_task_self]
        cases fileOpen with
        | false => rfl
        | true => exact absurd (hopen rfl) (by simp [h])
      · rw [modify_task_of_ne _ (Ne.symm ht)]
        exact h
  | grant j start size _ _ =>
      rw [grantEntry, modify_fileOpen _ _ rfl]
      exact h
  | exit _ _ hexit => exact hexit.noFile h
  | grantExit _ j start size _ _ _ hexit =>
      apply hexit.noFile
      rw [grantEntry, modify_fileOpen _ _ rfl]
      exact h
  | exec child start size waitOpt hchild _ _ =>
      have hloaded : (((r.loadSegment child start size).start t child waitOpt).task
          0).fileOpen = false := by
        simp [loadSegment, modify_task_of_ne _ hchild.symm, h]
      unfold Records.exec
      simp only
      split
      · rw [modify_fileOpen _ _ rfl]
        exact hloaded
      · exact hloaded
  | execFailed child hchild _ =>
      rw [modify_task_of_ne _ hchild.symm]
      exact h
  | lost _ =>
      by_cases ht : t = 0
      · subst ht
        simp
      · rw [modify_task_of_ne _ (Ne.symm ht)]
        exact h

end Records

/-!
## Runs
-/

namespace Kernel

open Records

variable {sd : SdFat}

theorem boot_booted (card : sd.Card) : Booted (boot card).records := by
  unfold boot setup
  simp only [records_stdWrite]
  exact init_booted _

theorem halInit_records (k : Kernel sd) : k.halInit.records = k.records := by
  unfold halInit
  simp only
  split
  · exact records_stdWrite ..
  · rfl

theorem boot_daemonUp (card : sd.Card) : DaemonUp (boot card).records := by
  constructor
  · rw [(boot_booted card).running]
    simp
  · unfold boot setup
    simp only [records_stdWrite]
    rw [init_fileOpen, records_stdWrite, halInit_records]
    rfl

theorem turnKeepsProgram_zero (k : Kernel sd) : k.turnKeepsProgram 0 = true := by
  unfold turnKeepsProgram dispatches
  simp

theorem step_daemonUp (k : Kernel sd) (e : Event) (h : DaemonUp k.records) :
    DaemonUp (k.step e).records := by
  rcases k.step_outcome e h.noFile with hsame | ⟨_, hrunning, hout⟩
  · rw [hsame]
    exact h
  · constructor
    · apply (hout.stateChange hrunning).active_zero _ h.active
      intro hzero
      rw [hzero]
      exact k.turnKeepsProgram_zero
    · exact hout.noFile h.noFile

/-- A step that loses no program. -/
def KeepsProgram (k : Kernel sd) (e : Event) : Prop :=
  e = .turn -> k.turnKeepsProgram k.current = true

instance (k : Kernel sd) (e : Event) : Decidable (KeepsProgram k e) :=
  inferInstanceAs (Decidable (e = .turn -> k.turnKeepsProgram k.current = true))

theorem run_records (inv : Records -> Prop) {ok : Kernel sd -> Event -> Prop}
    (hboot : forall r, Booted r -> inv r)
    (hstep : forall k e, ok k e -> DaemonUp k.records -> inv k.records ->
      inv (Kernel.step k e).records)
    {card : sd.Card} {events : List Event} (h : AllSteps step ok (boot card) events) :
    DaemonUp ((boot card).run events).records ∧
      inv ((boot card).run events).records := by
  apply AllSteps.preserves (fun k => DaemonUp (Kernel.records k) ∧ inv k.records)
    (fun k e hok hk => ⟨step_daemonUp k e hk.left, hstep k e hok hk.left hk.right⟩)
    events _ h
  exact ⟨boot_daemonUp card, hboot _ (boot_booted card)⟩

theorem step_heapSound (k : Kernel sd) (e : Event) (hup : DaemonUp k.records)
    (h : HeapSound k.records) : HeapSound (k.step e).records := by
  rcases k.step_outcome e hup.noFile with hsame | ⟨_, _, hout⟩
  · rw [hsame]
    exact h
  · exact hout.heapSound h

theorem Reachable.heapSound {k : Kernel sd} (h : Reachable k) : HeapSound k.records := by
  cases h with
  | run card events hk =>
      rw [hk]
      have hsteps : AllSteps step (fun _ _ => True) (boot card) events :=
        AllSteps.of_forall (fun _ _ => trivial) events _
      exact (run_records HeapSound (fun _ => Booted.heapSound)
        (fun k e _ => k.step_heapSound e) hsteps).right

/-!
## A run that loses a program
-/

def listingCode : List Byte :=
  [0x10#8, 0x00#8, 0x00#8, 0x10#8, 0x02#8, 0x00#8, 0x10#8, 0x00#8, 0x00#8,
    0x10#8, 0x01#8, 0x00#8, 0x30#8]

/-- The daemon waits for the program, and the card is gone before it can be
opened again. -/
def lostProgram : Kernel CardImage.sdFat :=
  (boot (CardImage.ofProgram 16#8 listingCode 2)).run
    (.arrive runAndWaitRequest.bytes :: List.replicate 14 .turn)

end Kernel
end ArduOS
