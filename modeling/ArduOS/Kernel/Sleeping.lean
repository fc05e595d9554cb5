import ArduOS.Kernel.CardImage
import ArduOS.Kernel.WorkingDirectory
import ArduOS.Library.WrappingClock

/-!
# Sleeping

`OP_SLEEP` leaves a wake-up time modulo 2^32, and the scheduler compares it with
the counter of ticks as it stands.  A task sleeps as long as it asked for as
long as the counter has wrapped, when the task is looked at, exactly if the
wake-up time has.
-/

namespace ArduOS

open Library

namespace Kernel

variable {sd : SdFat}

/-- The next turn is that of `t`, and executes `OP_SLEEP` for `ms`. -/
structure FallsAsleep (k : Kernel sd) (t : TaskId) (ms : Nat) : Prop where
  current : k.current = t
  sleeps : exists k', k.dispatches t = some k' ∧ k'.nextOpcode t = some .sleep ∧
    0 <= ((k'.fetchByte t).2.tasks t).sp ∧ (k'.fetchByte t).2.operand t 0 = ms
  bound : ms <= 32767

def elapsed (events : List Event) : Nat := events.count .tick

/-- The next event is a turn of `t`, and in no turn it had since `k` were `ms` ticks over. -/
structure FirstPass (k : Kernel sd) (t : TaskId) (ms : Nat) (past rest events : List Event) :
    Prop where
  split : events = past ++ .turn :: rest
  current : (k.run past).current = t
  first : forall past' rest', past = past' ++ .turn :: rest' ->
    (k.run past').current = t -> elapsed past' < ms

/--
`t` is not stepped before `ms` ticks are over, and is stepped in its first turn
after that, if this one comes in time.
-/
def SleepsAsAsked (k : Kernel sd) (t : TaskId) (ms : Nat) (events : List Event) : Prop :=
  forall past rest, FirstPass k t ms past rest events ->
    (elapsed past < ms -> (k.run past).dispatches t = none) ∧
    (ms <= elapsed past -> elapsed past < 2 ^ 31 ->
      ((k.run past).dispatches t).isSome = true)

/-- When `t` is looked at, the counter has wrapped since `start` if the wake-up time has. -/
def WrapsTogether (start : BitVec 32) (k : Kernel sd) (t : TaskId) (ms : Nat)
    (events : List Event) : Prop :=
  forall past rest, FirstPass k t ms past rest events -> elapsed past < 2 ^ 31 ->
    (start.toNat + ms < 2 ^ 32 <-> start.toNat + elapsed past < 2 ^ 32)

/-!
## Asleep
-/

def Holds (t : TaskId) (task : Task sd) (u : TaskId) (task' : Task sd) : Prop :=
  u = t -> task' = task

section Asleep

variable {t u : TaskId} {task : Task sd} {k : Kernel sd} {now : BitVec 32}

theorem holds_bears (hrunning : task.taskState = .running) (hu : u ≠ t) :
    Bears (Holds t task) u := by
  constructor
  · intro _ _ _ _ heq
    exact absurd heq hu
  · intro v c other hpaused hother heq
    rw [hother heq, hrunning] at hpaused
    cases hpaused
  · intro k' child hk _ hfree other _ heq
    rw [hk child heq, hrunning] at hfree
    cases hfree

theorem schedule_holds (hrunning : task.taskState = .running) (hu : u ≠ t)
    (hk : Stands (Holds t task) now k) : Stands (Holds t task) now (k.schedule u) := by
  apply schedule_stands (holds_bears hrunning hu) hk
  intro k' _ hk'
  rcases k'.syscallChdir_others u with ⟨hothers, hticks⟩
  constructor
  · intro v hv
    subst hv
    rw [hothers v hu.symm]
    exact hk'.each v rfl
  · exact hticks.trans hk'.ticks

theorem schedule_of_asleep (ht : t ≠ 0) (h : k.dispatches t = none) : k.schedule t = k := by
  unfold dispatches at h
  unfold schedule
  by_cases hrunnable : (k.tasks t).isRunnable = true
  · simp only [hrunnable, not_true_eq_false, if_false, if_neg ht] at h ⊢
    rw [h]
  · rw [if_pos hrunnable]

theorem wakeUpTime_pos (deadline : BitVec 32) : deadline > 0#32 <-> 0 < deadline.toNat :=
  BitVec.lt_def

theorem dispatches_isSome_iff (hrunnable : (k.tasks t).isRunnable = true) (ht : t ≠ 0) :
    (k.dispatches t).isSome = true <->
      Due (k.tasks t).wakeUpTime.toNat k.systemTicks.toNat := by
  unfold dispatches wakeUp Due
  rw [if_neg (not_not.mpr hrunnable), if_neg ht]
  split
  · rename_i hdeadline
    have hpos := (wakeUpTime_pos _).mp hdeadline
    split
    · rename_i hearly
      have hbefore := BitVec.lt_def.mp hearly
      simp only [Option.isSome_none, Bool.false_eq_true, false_iff]
      omega
    · rename_i hlate
      have hafter := mt BitVec.lt_def.mpr hlate
      simp only [Option.isSome_some, true_iff]
      omega
  · rename_i hnone
    have hzero := mt (wakeUpTime_pos _).mpr hnone
    simp only [Option.isSome_some, true_iff]
    omega

def ticked (now : BitVec 32) (events : List Event) : BitVec 32 :=
  now + BitVec.ofNat 32 (elapsed events)

theorem step_holds (hrunning : task.taskState = .running) (ht : t ≠ 0) (e : Event)
    (hk : Stands (Holds t task) now k)
    (hasleep : e = .turn -> k.current = t -> k.dispatches t = none) :
    Stands (Holds t task) (ticked now [e]) (k.step e) := by
  cases e with
  | arrive bytes =>
      have hsame : ticked now [.arrive bytes] = now := by simp [ticked, elapsed]
      rw [hsame]
      exact ⟨hk.each, hk.ticks⟩
  | tick =>
      refine ⟨hk.each, ?_⟩
      rw [← hk.ticks]
      rfl
  | turn =>
      have hsame : ticked now [.turn] = now := by simp [ticked, elapsed]
      rw [hsame]
      have hturn : Stands (Holds t task) now (k.schedule k.current) := by
        by_cases hcurrent : k.current = t
        · rw [hcurrent, schedule_of_asleep ht (hasleep rfl hcurrent)]
          exact hk
        · exact schedule_holds hrunning hcurrent hk
      exact ⟨hturn.each, hturn.ticks⟩

theorem ticked_append (now : BitVec 32) (events events' : List Event) :
    ticked now (events ++ events') = ticked (ticked now events) events' := by
  unfold ticked elapsed
  rw [List.count_append, BitVec.ofNat_add, BitVec.add_assoc]

theorem run_append (k : Kernel sd) (events : List Event) (e : Event) :
    k.run (events ++ [e]) = (k.run events).step e := by
  simp [run]

/--
A task that is stepped in none of its turns is still there, and asleep.  In each
of its turns this holds before the turn.
-/
theorem run_holds (hrunning : task.taskState = .running) (ht : t ≠ 0)
    (hk : Stands (Holds t task) now k) (events : List Event)
    (hasleep : forall past rest, events = past ++ .turn :: rest ->
      (k.run past).current = t -> Stands (Holds t task) (ticked now past) (k.run past) ->
      (k.run past).dispatches t = none) :
    Stands (Holds t task) (ticked now events) (k.run events) := by
  induction events using List.reverseRecOn with
  | nil =>
      have hsame : ticked now [] = now := by simp [ticked, elapsed]
      rw [hsame]
      exact hk
  | append_singleton events e ih =>
      have hevents : Stands (Holds t task) (ticked now events) (k.run events) := by
        apply ih
        intro past rest hsplit
        exact hasleep past (rest ++ [e]) (by rw [hsplit]; simp)
      rw [run_append, ticked_append]
      apply step_holds hrunning ht e hevents
      intro hturn hcurrent
      exact hasleep events [] (by rw [hturn]) hcurrent hevents

/-!
## Falling asleep
-/

theorem stands_true (k : Kernel sd) : Stands (fun _ _ => True) k.systemTicks k :=
  ⟨fun _ => trivial, rfl⟩

theorem true_bears (t : TaskId) : Bears (fun (_ : TaskId) (_ : Task sd) => True) t :=
  ⟨fun _ _ => trivial, fun _ _ => trivial, fun _ _ _ _ _ => trivial⟩

theorem fetchByte_ticks (k : Kernel sd) (t : TaskId) :
    (k.fetchByte t).2.systemTicks = k.systemTicks :=
  (fetchByte_stands (true_bears t) k.stands_true).ticks

theorem opSleep_sleeps (hsp : 0 <= (k.tasks t).sp) :
    ((k.opSleep t).tasks t).taskState = (k.tasks t).taskState ∧
      ((k.opSleep t).tasks t).wakeUpTime =
        k.systemTicks + BitVec.ofInt 32 (k.operand t 0) ∧
      (k.opSleep t).systemTicks = k.systemTicks := by
  have hbody : k.opSleep t = ((k.stackPop t).2.modifyTask t fun task =>
      { task with wakeUpTime := BitVec.ofInt 32 (k.stackPop t).1 }).yield t :=
    if_neg (by omega)
  rw [hbody, stackPop_fst]
  refine ⟨?_, ?_, rfl⟩
  · simp [yield, modifyTask, stackPop]
  · simp [yield, modifyTask, stackPop, note]

theorem FallsAsleep.asleep {ms : Nat} (h : FallsAsleep k t ms) :
    t ≠ 0 ∧ exists task : Task sd, task.taskState = .running ∧
      task.wakeUpTime = k.systemTicks + BitVec.ofNat 32 ms ∧
      Stands (Holds t task) k.systemTicks (k.step .turn) := by
  rcases h.sleeps with ⟨k', hturn, hop, hsp, hms⟩
  rcases dispatches_cases hturn with ⟨_, ht, hwake⟩
  have hrecords := (fetchByte_records hop).trans (dispatches_records hturn)
  have hticks := (k'.fetchByte_ticks t).trans (wakeUp_own hwake).ticks
  have hstate : ((k'.fetchByte t).2.tasks t).taskState = .running := by
    have hsame := congrArg (fun r => (r.task t).state) hrecords
    exact hsame.trans (dispatches_running hturn)
  have hslept : k.step .turn =
      { (k'.fetchByte t).2.opSleep t with current := k.current + 1 } := by
    rw [step_turn_of_dispatches h.current hturn, runStep_sleep hop]
  rcases opSleep_sleeps hsp with ⟨hsame, hdeadline, hclock⟩
  rw [hms, hticks] at hdeadline
  rw [hslept]
  refine ⟨ht, ((k'.fetchByte t).2.opSleep t).tasks t, hsame.trans hstate, ?_, ?_, ?_⟩
  · rw [hdeadline, BitVec.ofInt_natCast]
  · intro u hu
    rw [hu]
  · exact hclock.trans hticks

/-!
## How long
-/

theorem dispatches_of_holds (hrunning : task.taskState = .running) (ht : t ≠ 0)
    {start : BitVec 32} {ms ticks : Nat}
    (hdeadline : task.wakeUpTime = start + BitVec.ofNat 32 ms)
    (hk : Stands (Holds t task) (start + BitVec.ofNat 32 ticks) k) :
    (k.dispatches t).isSome = true <->
      Due ((start.toNat + ms) % 2 ^ 32) ((start.toNat + ticks) % 2 ^ 32) := by
  have htask : k.tasks t = task := hk.each t rfl
  have hrunnable : (k.tasks t).isRunnable = true := by
    simp [Task.isRunnable, htask, hrunning]
  rw [dispatches_isSome_iff hrunnable ht, htask, hdeadline, hk.ticks]
  simp only [BitVec.toNat_add, BitVec.toNat_ofNat, Nat.add_mod_mod]

theorem FirstPass.earlier {ms : Nat} {past rest past' rest' events : List Event}
    (h : FirstPass k t ms past rest events) (hsplit : past = past' ++ .turn :: rest')
    (hcurrent : (k.run past').current = t) :
    FirstPass k t ms past' (rest' ++ .turn :: rest) events := by
  refine ⟨?_, hcurrent, ?_⟩
  · rw [h.split, hsplit]
    simp
  · intro past'' rest'' hsplit' hcurrent'
    apply h.first past'' (rest'' ++ .turn :: rest') _ hcurrent'
    rw [hsplit, hsplit']
    simp

/-- In a turn of a task that is asleep, it does as it asked if both sums wrap or neither. -/
theorem asked_iff_same_side (hrunning : task.taskState = .running) (ht : t ≠ 0)
    {start : BitVec 32} {ms ticks : Nat} (hms : ms <= 32767) (hticks : ticks < 2 ^ 31)
    (hdeadline : task.wakeUpTime = start + BitVec.ofNat 32 ms)
    (hk : Stands (Holds t task) (start + BitVec.ofNat 32 ticks) k) :
    ((ticks < ms -> k.dispatches t = none) ∧
      (ms <= ticks -> (k.dispatches t).isSome = true)) <->
      (start.toNat + ms < 2 ^ 32 <-> start.toNat + ticks < 2 ^ 32) := by
  have hstepped := dispatches_of_holds hrunning ht hdeadline hk
  have hside := @due_iff_same_side (2 ^ 32) _ ms ticks start.isLt (by omega) (by omega)
  rw [← hstepped] at hside
  rw [← hside]
  cases hdispatches : k.dispatches t with
  | none => simp
  | some k' => simp

end Asleep

/--
A task that asked for `ms` ticks is stepped in none of its turns before they are
over, and in its first turn after that, exactly if in each of these turns the
counter of ticks has wrapped just as the wake-up time has.
-/
theorem sleep_as_asked_iff {k : Kernel sd} {t : TaskId} {ms : Nat}
    (h : FallsAsleep k t ms) (events : List Event) :
    SleepsAsAsked (k.step .turn) t ms events <->
      WrapsTogether k.systemTicks (k.step .turn) t ms events := by
  rcases h.asleep with ⟨ht, task, hrunning, hdeadline, hasleep⟩
  have hms := h.bound
  constructor
  · intro hasked past rest hpass hintime
    have hheld : Stands (Holds t task) (ticked k.systemTicks past)
        ((k.step .turn).run past) := by
      apply run_holds hrunning ht hasleep
      intro past' rest' hsplit hcurrent _
      exact (hasked past' _ (hpass.earlier hsplit hcurrent)).left
        (hpass.first past' rest' hsplit hcurrent)
    rcases hasked past rest hpass with ⟨hearly, hlate⟩
    exact (asked_iff_same_side hrunning ht hms hintime hdeadline hheld).mp
      ⟨hearly, fun hover => hlate hover hintime⟩
  · intro hwraps past rest hpass
    have hheld : Stands (Holds t task) (ticked k.systemTicks past)
        ((k.step .turn).run past) := by
      apply run_holds hrunning ht hasleep
      intro past' rest' hsplit hcurrent hheld'
      have hpass' := hpass.earlier hsplit hcurrent
      have hfew := hpass.first past' rest' hsplit hcurrent
      exact ((asked_iff_same_side hrunning ht hms (by omega) hdeadline hheld').mpr
        (hwraps past' _ hpass' (by omega))).left hfew
    constructor
    · intro hfew
      exact ((asked_iff_same_side hrunning ht hms (by omega) hdeadline hheld).mpr
        (hwraps past rest hpass (by omega))).left hfew
    · intro hover hintime
      exact ((asked_iff_same_side hrunning ht hms hintime hdeadline hheld).mpr
        (hwraps past rest hpass hintime)).right hover

def sleeping (ticks : Nat) : Kernel CardImage.sdFat :=
  ((boot (CardImage.ofProgram 16#8 [0x10#8, 0x05#8, 0x00#8, 0x42#8] 1)).run
    (.arrive runRequest.bytes :: List.replicate 4 .turn)).run (List.replicate ticks .tick)

theorem run_ticks (k : Kernel sd) (n : Nat) :
    k.run (List.replicate n .tick) =
      { k with systemTicks := k.systemTicks + BitVec.ofNat 32 n } := by
  induction n generalizing k with
  | zero => simp [run]
  | succ n ih =>
      have hnext : k.run (List.replicate (n + 1) .tick) =
          (k.step .tick).run (List.replicate n .tick) := rfl
      rw [hnext, ih]
      simp only [step]
      congr 1
      rw [BitVec.add_assoc, BitVec.ofNat_add, BitVec.add_comm (1#32)]

theorem sleeping_eq (ticks : Nat) :
    sleeping ticks =
      { sleeping 0 with
        systemTicks := (sleeping 0).systemTicks + BitVec.ofNat 32 ticks } := by
  unfold sleeping
  rw [run_ticks, run_ticks]
  simp

def ReadyToSleep (k : Kernel sd) (t : TaskId) (ms : Nat) : Prop :=
  k.current = t ∧ (k.tasks t).isRunnable = true ∧ ¬ (k.tasks t).wakeUpTime > 0#32 ∧
    k.nextOpcode t = some .sleep ∧ 0 <= ((k.fetchByte t).2.tasks t).sp ∧
    (k.fetchByte t).2.operand t 0 = ms

instance (k : Kernel sd) (t : TaskId) (ms : Nat) : Decidable (ReadyToSleep k t ms) := by
  unfold ReadyToSleep
  infer_instance

theorem ReadyToSleep.fallsAsleep {k : Kernel sd} {t : TaskId} {ms : Nat}
    (h : ReadyToSleep k t ms) (ht : t ≠ 0) (hms : ms <= 32767) : FallsAsleep k t ms := by
  rcases h with ⟨hcurrent, hrunnable, hawake, hsleeps⟩
  exact ⟨hcurrent, ⟨k, dispatches_of_awake hrunnable ht hawake, hsleeps⟩, hms⟩

set_option maxRecDepth 4000 in
/-- Long before the counter wraps the task sleeps until its time is over. -/
theorem sleep_as_asked_soon :
    SleepsAsAsked ((sleeping 0).step .turn) 1 5
      (List.replicate 3 .turn ++ List.replicate 5 .tick ++ List.replicate 3 .turn) := by
  have hready : ReadyToSleep (sleeping 0) 1 5 ∧ (sleeping 0).systemTicks = 0#32 := by
    decide +kernel
  apply (sleep_as_asked_iff (hready.left.fallsAsleep (by decide) (by decide)) _).mpr
  intro past rest _ hintime
  rw [hready.right]
  simp only [BitVec.toNat_ofNat]
  omega

set_option maxRecDepth 4000 in
/-- With the counter about to wrap the task is stepped at once. -/
theorem sleep_cut_short :
    FallsAsleep (sleeping (2 ^ 32 - 1)) 1 5 ∧
      ¬ SleepsAsAsked ((sleeping (2 ^ 32 - 1)).step .turn) 1 5 (List.replicate 3 .turn) := by
  have hrun : ReadyToSleep (sleeping (2 ^ 32 - 1)) 1 5 ∧
      ((((sleeping (2 ^ 32 - 1)).step .turn).run
        (List.replicate 2 .turn)).dispatches 1).isSome = true ∧
      (((sleeping (2 ^ 32 - 1)).step .turn).run (List.replicate 2 .turn)).current = 1 := by
    rw [sleeping_eq]
    decide +kernel
  rcases hrun with ⟨hready, hstepped, hcurrent⟩
  refine ⟨hready.fallsAsleep (by decide) (by decide), ?_⟩
  intro hasked
  have hpass : FirstPass ((sleeping (2 ^ 32 - 1)).step .turn) 1 5 (List.replicate 2 .turn)
      [] (List.replicate 3 .turn) := by
    refine ⟨rfl, hcurrent, ?_⟩
    intro past rest hsplit _
    have hcount := congrArg elapsed hsplit
    have hnone : elapsed (List.replicate 2 .turn) = 0 := rfl
    unfold elapsed at hcount hnone ⊢
    rw [List.count_append, hnone] at hcount
    omega
  have hasleep := (hasked _ _ hpass).left (by decide)
  rw [hasleep] at hstepped
  cases hstepped

end Kernel
end ArduOS
