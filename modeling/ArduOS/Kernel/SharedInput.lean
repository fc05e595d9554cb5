import ArduOS.HAL.TwoConsumers
import ArduOS.Kernel.StackBounds

/-!
# Requests and keyboard input

`Comm_process` and `OP_READ` take from one packet slot, and whoever comes first
gets what is in it.  Requests are dispatched and input is returned, all of it
and in order, exactly in those runs in which nobody comes at the wrong moment.
-/

namespace ArduOS

open Library Hal

namespace Kernel

variable {sd : SdFat}

/-!
## What was taken
-/

def dispatched (log : List Access) : List Delivery :=
  log.filterMap fun a =>
    match a with
    | .dispatch cmd payload => some (cmd, payload)
    | _ => none

def returned (log : List Access) : List Int :=
  log.filterMap fun a =>
    match a with
    | .stdin val => some val
    | _ => none

def TakesNothing : Access -> Prop
  | .dispatch _ _ => False
  | .stdin _ => False
  | _ => True

@[simp] theorem dispatched_append (log new : List Access) :
    dispatched (log ++ new) = dispatched log ++ dispatched new := by
  simp [dispatched]

@[simp] theorem returned_append (log new : List Access) :
    returned (log ++ new) = returned log ++ returned new := by
  simp [returned]

theorem dispatched_of_takesNothing {new : List Access}
    (h : forall a, a ∈ new -> TakesNothing a) : dispatched new = [] := by
  apply List.filterMap_eq_nil_iff.mpr
  intro a ha
  have hnothing := h a ha
  cases a with
  | dispatch cmd payload => exact absurd hnothing id
  | _ => rfl

theorem returned_of_takesNothing {new : List Access}
    (h : forall a, a ∈ new -> TakesNothing a) : returned new = [] := by
  apply List.filterMap_eq_nil_iff.mpr
  intro a ha
  have hnothing := h a ha
  cases a with
  | stdin val => exact absurd hnothing id
  | _ => rfl

structure Takes (k k' : Kernel sd) (requests : List Delivery) (input : List Int)
    (hal : Hal) : Prop where
  dispatched : dispatched k'.log = dispatched k.log ++ requests
  returned : returned k'.log = returned k.log ++ input
  hal : k'.hal = hal

theorem Effect.takes {k k' : Kernel sd} (h : Effect TakesNothing k k') :
    Takes k k' [] [] k.hal := by
  rcases h.logged with ⟨new, hlog, hnew⟩
  constructor
  · rw [hlog, dispatched_append, dispatched_of_takesNothing hnew]
  · rw [hlog, returned_append, returned_of_takesNothing hnew]
  · exact h.hal fun _ => id

theorem Takes.effect {k k' k'' : Kernel sd} {requests : List Delivery} {input : List Int}
    {hal : Hal} (h : Takes k k' requests input hal) (h' : Effect TakesNothing k' k'') :
    Takes k k'' requests input hal := by
  have htakes := h'.takes
  constructor
  · rw [htakes.dispatched, h.dispatched, List.append_nil]
  · rw [htakes.returned, h.returned, List.append_nil]
  · rw [htakes.hal, h.hal]

theorem Effect.takesAfter {k k' k'' : Kernel sd} {requests : List Delivery}
    {input : List Int} {hal : Hal} (h : Effect TakesNothing k k')
    (h' : Takes k' k'' requests input hal) : Takes k k'' requests input hal := by
  have htakes := h.takes
  constructor
  · rw [h'.dispatched, htakes.dispatched, List.append_nil]
  · rw [h'.returned, htakes.returned, List.append_nil]
  · exact h'.hal

/-!
## System calls, with or without operands
-/

theorem takesNothing_permits (t : TaskId) (top : Int) (htop : VM_STACK_SIZE - 1 <= top) :
    Permits (TakesNothing) t top := by
  constructor
  · exact htop
  · intro _ _ _
    trivial
  · intro _ _
    trivial
  · intro _ _
    trivial

theorem pop_takesNothing (k : Kernel sd) (t : TaskId) :
    Effect TakesNothing k (k.stackPop t).2 :=
  stackPop_effect k trivial

theorem sysCell_takesNothing {k : Kernel sd} {t : TaskId} {sysId : Int} {a : Access}
    (h : SysCell k t sysId a) : TakesNothing a :=
  PermitsHeap.sysCell ⟨fun _ => trivial, fun _ => trivial⟩ h

/-- Missing operands are read below the stack, which takes nothing either. -/
theorem systemCall_takesNothing (k : Kernel sd) (t : TaskId) (sysId : Int) :
    Effect TakesNothing k (k.systemCall t sysId) := by
  have hpermits := takesNothing_permits t (VM_STACK_SIZE - 1) (Int.le_refl _)
  have hfirst := k.pop_takesNothing t
  have hsecond := hfirst.trans (pop_takesNothing _ t)
  have hthird := hsecond.trans (pop_takesNothing _ t)
  unfold systemCall
  split
  · rw [syscallLs_eq]
    apply hthird.trans
    apply lsWith_effect
    intro a ha
    exact sysCell_takesNothing (.ls a ha.of_pop.of_pop.of_pop)
  · split
    · rw [syscallExec_eq]
      apply hthird.trans
      apply execWith_effect hpermits
      intro a ha
      exact sysCell_takesNothing (.exec a ha.of_pop.of_pop.of_pop)
    · split
      · rw [syscallChdir_eq]
        apply hsecond.trans
        apply chdirWith_effect hpermits
        intro a ha
        exact sysCell_takesNothing (.chdir a ha.of_pop.of_pop)
      · split
        · rw [syscallGetcwd_eq]
          apply hfirst.trans
          apply getcwdWith_effect
          intro a ha
          exact sysCell_takesNothing (.getcwd a ha.of_pop)
        · exact Effect.refl k

/-!
## Instructions
-/

theorem runStep_sys {k : Kernel sd} {t : TaskId} (h : k.nextOpcode t = some .sys) :
    Effect TakesNothing k (k.runStep t) := by
  rcases runStep_of_nextOpcode h with ⟨hstep, hop⟩
  rw [hstep]
  apply (k.fetchByte_quiet t).effect.trans
  unfold execute
  rw [hop]
  apply checkStackUnderflow_effect
  intro _
  exact (pop_takesNothing _ t).trans (systemCall_takesNothing _ t _)

def readsInput (k : Kernel sd) (t : TaskId) : Bool :=
  k.nextOpcode t = some .read ∧ (k.tasks t).sp < VM_STACK_SIZE - 1

theorem runStep_takesNothing {k : Kernel sd} {t : TaskId} (h : k.readsInput t = false) :
    Effect TakesNothing k (k.runStep t) := by
  by_cases hread : k.nextOpcode t = some .read
  · -- the stack is full
    rcases runStep_of_nextOpcode hread with ⟨hstep, hop⟩
    have hfetch := k.fetchByte_quiet t
    have hsp := hfetch.sp t
    have hfull : ¬ (k.tasks t).sp < VM_STACK_SIZE - 1 := by
      intro hroom
      rw [readsInput, decide_eq_true ⟨hread, hroom⟩] at h
      cases h
    rw [hstep]
    apply hfetch.effect.trans
    unfold execute
    rw [hop]
    apply checkStackOverflow_effect
    intro hroom
    rw [hsp] at hroom
    exact absurd hroom hfull
  · by_cases hsys : k.nextOpcode t = some .sys
    · exact runStep_sys hsys
    · apply runStep_effect
        (takesNothing_permits t (max (VM_STACK_SIZE - 1) (k.tasks t).sp) (by omega))
      · omega
      · intro _
        trivial
      · intro hcontra
        exact absurd hcontra hread
      · intro hcontra
        exact absurd hcontra hsys
      · intro op a _ ha
        cases ha with
        | load _ => trivial
        | store _ => trivial
        | prts _ _ => trivial
        | sys a ha => exact sysCell_takesNothing ha

theorem stdRead_takes (k : Kernel sd) :
    Takes k (k.stdRead FD_STDIN).2 [] (byteRead (k.hal.read FD_STDIN).1).toList
      (k.hal.read FD_STDIN).2 := by
  unfold stdRead byteRead
  generalize k.hal.read FD_STDIN = result
  rcases result with ⟨val, hal⟩
  by_cases hnone : val = -1
  · simp only [hnone, ne_eq, not_true_eq_false, if_true, if_false, Option.toList]
    exact ⟨by simp [withHal], by simp [withHal], rfl⟩
  · simp only [hnone, ne_eq, not_false_eq_true, if_true, if_false, Option.toList]
    exact ⟨by simp [withHal, note, dispatched], by simp [withHal, note, returned], rfl⟩

theorem runStep_takes {k : Kernel sd} {t : TaskId} (h : k.readsInput t = true) :
    Takes k (k.runStep t) [] (byteRead (k.hal.read FD_STDIN).1).toList
      (k.hal.read FD_STDIN).2 := by
  rcases of_decide_eq_true h with ⟨hread, hroom⟩
  rcases runStep_of_nextOpcode hread with ⟨hstep, hop⟩
  have hfetch := k.fetchByte_quiet t
  have hsp := hfetch.sp t
  have hhal := hfetch.hal
  rw [hstep]
  generalize k.fetchByte t = fetched at hfetch hsp hhal hop ⊢
  rcases fetched with ⟨opcode, k₁⟩
  simp only at hfetch hsp hhal hop ⊢
  have hexec : k₁.execute t opcode = k₁.opRead t := by
    unfold execute
    rw [hop]
  have hopRead : k₁.opRead t = (k₁.stdRead FD_STDIN).2.stackPush t
      (if (k₁.stdRead FD_STDIN).1 ≠ -1 then (k₁.stdRead FD_STDIN).1 else 0) := by
    unfold opRead checkStackOverflow
    rw [if_neg (by omega)]
  rw [hexec, hopRead, ← hhal]
  exact hfetch.effect.takesAfter (k₁.stdRead_takes.effect (stackPush_effect _ _ trivial))

/-!
## The daemon
-/

theorem commProcess_takes (k : Kernel sd) (t : TaskId) :
    Takes k (k.commProcess t)
      (requestsOf (k.hal.readPacket 0#16 k.rxBuffer RX_BUFFER_SIZE).1.delivered.toList)
      [] (k.hal.readPacket 0#16 k.rxBuffer RX_BUFFER_SIZE).2 := by
  unfold commProcess
  generalize k.hal.readPacket 0#16 k.rxBuffer RX_BUFFER_SIZE = result
  rcases result with ⟨r, hal⟩
  have hpolled : Takes k (k.polled hal r.payloadOut) [] [] hal :=
    ⟨by simp [polled], by simp [polled], rfl⟩
  simp only
  by_cases hgot : r.result >= 0
  · rw [if_pos hgot]
    have hdelivered : r.delivered =
        some (r.cmdOut, bytesOf r.payloadOut r.result.toNat) := if_pos hgot
    rw [hdelivered]
    by_cases hreq : r.cmdOut < 100#16
    · rw [if_pos hreq]
      have hrest := commRequest_noted_effect
        (takesNothing_permits t (VM_STACK_SIZE - 1) (Int.le_refl _))
        ⟨fun _ => trivial, fun _ => trivial⟩ (k.polled hal r.payloadOut) r.cmdOut
        (bytesOf r.payloadOut r.result.toNat)
      refine Takes.effect ?_ hrest
      have hkept : requestsOf [(r.cmdOut, bytesOf r.payloadOut r.result.toNat)] =
          [(r.cmdOut, bytesOf r.payloadOut r.result.toNat)] := by
        simp [requestsOf, isRequest, hreq]
      constructor
      · rw [Option.toList, hkept]
        simp [note, polled, dispatched]
      · simp [note, polled, returned]
      · rfl
    · rw [if_neg hreq]
      have hnone : requestsOf [(r.cmdOut, bytesOf r.payloadOut r.result.toNat)] = [] := by
        simp [requestsOf, isRequest, hreq]
      rw [Option.toList, hnone]
      exact hpolled
  · rw [if_neg hgot]
    have hdelivered : r.delivered = none := if_neg hgot
    rw [hdelivered]
    exact hpolled

/-!
## Turns
-/

def polls (k : Kernel sd) : Bool := k.current = 0 ∧ (k.tasks 0).isRunnable

/-- Whether a turn gets to the `HAL_read` of an `OP_READ`. -/
def reads (k : Kernel sd) : Bool :=
  (k.dispatches k.current).any fun k' => k'.readsInput k.current

inductive TurnTakes (k k' : Kernel sd) : Prop where
  | nothing (hpolls : k.polls = false) (hreads : k.reads = false)
      (h : Takes k k' [] [] k.hal)
  | packet (hpolls : k.polls = true) (hreads : k.reads = false)
      (h : Takes k k'
        (requestsOf (k.hal.readPacket 0#16 k.rxBuffer RX_BUFFER_SIZE).1.delivered.toList)
        [] (k.hal.readPacket 0#16 k.rxBuffer RX_BUFFER_SIZE).2)
  | byte (hpolls : k.polls = false) (hreads : k.reads = true)
      (h : Takes k k' [] (byteRead (k.hal.read FD_STDIN).1).toList
        (k.hal.read FD_STDIN).2)

theorem schedule_takes (k : Kernel sd) : TurnTakes k (k.schedule k.current) := by
  unfold schedule
  cases hrunnable : (k.tasks k.current).isRunnable with
  | false =>
      have hreads : k.reads = false := by simp [reads, dispatches, hrunnable]
      have hpolls : k.polls = false := by
        cases hp : k.polls with
        | false => rfl
        | true =>
            rcases of_decide_eq_true hp with ⟨hzero, hrun⟩
            rw [hzero, hrun] at hrunnable
            cases hrunnable
      rw [if_pos (by simp)]
      exact .nothing hpolls hreads (Effect.refl k).takes
  | true =>
      rw [if_neg (by simp)]
      by_cases hzero : k.current = 0
      · have hreads : k.reads = false := by simp [reads, dispatches, hzero]
        have hpolls : k.polls = true := by
          rw [hzero] at hrunnable
          simp [polls, hzero, hrunnable]
        rw [if_pos hzero]
        exact .packet hpolls hreads (k.commProcess_takes k.current)
      · have hpolls : k.polls = false := by simp [polls, hzero]
        have hdispatches : k.dispatches k.current = k.wakeUp k.current := by
          simp [dispatches, hrunnable, hzero]
        rw [if_neg hzero]
        cases hwake : k.wakeUp k.current with
        | none =>
            have hreads : k.reads = false := by simp [reads, hdispatches, hwake]
            exact .nothing hpolls hreads (Effect.refl k).takes
        | some k' =>
            have hwoken := wakeUp_quiet hwake
            have hhal := hwoken.hal
            simp only
            cases hinput : k'.readsInput k.current with
            | false =>
                have hreads : k.reads = false := by
                  simp [reads, hdispatches, hwake, hinput]
                exact .nothing hpolls hreads
                  (hwoken.effect.trans (runStep_takesNothing hinput)).takes
            | true =>
                have hreads : k.reads = true := by
                  simp [reads, hdispatches, hwake, hinput]
                have htakes := hwoken.effect.takesAfter (runStep_takes hinput)
                rw [hhal] at htakes
                exact .byte hpolls hreads htakes

/-!
## Who is served
-/

def arrivals (events : List Event) : List Byte :=
  events.flatMap fun e =>
    match e with
    | .arrive bytes => bytes
    | _ => []

/--
What was acted on and returned so far, followed by what is still to be handed
out, is what was sent: these requests and this input.
-/
structure Served (requests : List Delivery) (input future : List Byte)
    (k : Kernel sd) : Prop where
  requests : dispatched k.log ++ requestsOf (k.hal.pending future) = requests
  input : returned k.log ++ (k.hal.unreadInput future).map ofByte = input.map ofByte

/--
A turn in which nobody takes what is not for it: a poll does not meet unread
input at the head of what is to be handed out, and a read no request.
-/
def NobodySteals (k : Kernel sd) (e : Event) : Prop :=
  e = .turn ->
    (k.polls = true -> k.hal.nextPacket.any isRequest = true ∨ k.hal.nextUnread = []) ∧
    (k.reads = true -> k.hal.nextPacket.any isRequest = false)

instance (k : Kernel sd) (e : Event) : Decidable (NobodySteals k e) :=
  inferInstanceAs (Decidable (e = .turn ->
    (k.polls = true -> k.hal.nextPacket.any isRequest = true ∨ k.hal.nextUnread = []) ∧
    (k.reads = true -> k.hal.nextPacket.any isRequest = false)))

variable {requests : List Delivery} {input future : List Byte} {k k' : Kernel sd}

theorem served_iff {taken gone : List Delivery} {vals : List Int} {bytes : List Byte}
    {hal : Hal} (h : Served requests input future k) (htakes : Takes k k' taken vals hal)
    (hrequests : requestsOf (k.hal.pending future) =
      gone ++ requestsOf (hal.pending future))
    (hinput : k.hal.unreadInput future = bytes ++ hal.unreadInput future) :
    Served requests input future k' <-> taken = gone ∧ vals = bytes.map ofByte := by
  have hsent := h.requests
  have hsentInput := h.input
  rw [hrequests] at hsent
  rw [hinput, List.map_append] at hsentInput
  constructor
  · intro h'
    have hsent' := h'.requests
    have hsentInput' := h'.input
    rw [htakes.dispatched, htakes.hal, ← hsent, List.append_assoc] at hsent'
    rw [htakes.returned, htakes.hal, ← hsentInput, List.append_assoc] at hsentInput'
    exact ⟨List.append_cancel_right (List.append_cancel_left hsent'),
      List.append_cancel_right (List.append_cancel_left hsentInput')⟩
  · rintro ⟨rfl, rfl⟩
    constructor
    · rw [htakes.dispatched, htakes.hal, ← hsent, List.append_assoc]
    · rw [htakes.returned, htakes.hal, ← hsentInput, List.append_assoc]

theorem turn_served_iff (hr : Receiving k.hal) (h : Served requests input future k) :
    Served requests input future (k.step .turn) <-> NobodySteals k .turn := by
  have hturn := k.schedule_takes
  have hstep : forall taken vals hal, Takes k (k.schedule k.current) taken vals hal ->
      Takes k (k.step .turn) taken vals hal :=
    fun _ _ _ htakes => ⟨htakes.dispatched, htakes.returned, htakes.hal⟩
  unfold NobodySteals
  cases hturn with
  | nothing hpolls hreads htakes =>
      rw [served_iff h (hstep _ _ _ htakes) (List.nil_append _).symm
        (List.nil_append _).symm]
      simp [hpolls, hreads]
  | packet hpolls hreads htakes =>
      rcases readPacket_split hr 0#16 k.rxBuffer with ⟨hdelivered, hrequests, hinput⟩
      rw [served_iff h (hstep _ _ _ htakes) (hrequests future) (hinput future), hdelivered]
      simp only [hpolls, hreads]
      cases hreq : k.hal.nextPacket.any isRequest with
      | true => simp
      | false => simp
  | byte hpolls hreads htakes =>
      rcases read_split hr with ⟨hbyte, hrequests, hinput⟩
      rw [served_iff h (hstep _ _ _ htakes) (hrequests future) (hinput future), hbyte]
      simp only [hpolls, hreads]
      cases hnext : k.hal.nextPacket with
      | none => simp [requestsOf]
      | some d =>
          cases hreq : isRequest d with
          | false => simp [requestsOf, hreq]
          | true =>
              -- a byte of the request is returned, or the request is dropped
              cases hunread : k.hal.nextUnread with
              | nil => simp [requestsOf, hreq]
              | cons b rest => simp [hreq]

/-!
## Runs
-/

theorem step_receiving {k : Kernel sd} (hr : Receiving k.hal) (e : Event) :
    Receiving (k.step e).hal := by
  cases e with
  | arrive bytes => exact receiving_arrive hr bytes
  | tick => exact hr
  | turn =>
      have hsame : (k.step .turn).hal = (k.schedule k.current).hal := rfl
      rw [hsame]
      cases k.schedule_takes with
      | nothing _ _ htakes =>
          rw [htakes.hal]
          exact hr
      | packet _ _ htakes =>
          rw [htakes.hal]
          exact (readPacket_spec hr _ _).left
      | byte _ _ htakes =>
          rw [htakes.hal]
          exact (read_spec hr).left

/-- The invariant of a run, with these events to come and `missing` after them. -/
structure Serving (requests : List Delivery) (input missing : List Byte)
    (events : List Event) (k : Kernel sd) : Prop where
  receiving : Receiving k.hal
  served : Served requests input (arrivals events ++ missing) k

theorem step_serving {missing : List Byte} (e : Event) (events : List Event)
    (h : Serving requests input missing (e :: events) k) :
    Serving requests input missing events (k.step e) <-> NobodySteals k e := by
  have hreceiving := step_receiving h.receiving e
  have hserved := h.served
  cases e with
  | arrive bytes =>
      have harrivals : arrivals (.arrive bytes :: events) ++ missing =
          bytes ++ (arrivals events ++ missing) := by simp [arrivals]
      rw [harrivals] at hserved
      constructor
      · intro _ hcontra
        cases hcontra
      · intro _
        refine ⟨hreceiving, ?_, ?_⟩
        · exact (congrArg (fun ds => dispatched k.log ++ requestsOf ds)
            (pending_arrive k.hal bytes _)).trans hserved.requests
        · exact (congrArg (fun bs => returned k.log ++ bs.map ofByte)
            (unreadInput_arrive k.hal bytes _)).trans hserved.input
  | tick =>
      constructor
      · intro _ hcontra
        cases hcontra
      · intro _
        exact ⟨hreceiving, hserved.requests, hserved.input⟩
  | turn =>
      have hiff := turn_served_iff h.receiving hserved
      constructor
      · intro h'
        exact hiff.mp h'.served
      · intro hok
        exact ⟨hreceiving, hiff.mpr hok⟩

theorem boot_hal (card : sd.Card) : (boot card).hal = Hal.reset.init := by
  have hinit : forall k : Kernel sd, k.halInit.hal = k.hal.init := by
    intro k
    unfold halInit
    simp only
    split
    · exact (stdWrite_quiet _ _ _).hal
    · rfl
  have hcleared : forall k : Kernel sd, k.cleared.hal = k.hal := fun _ => rfl
  unfold boot setup
  simp only
  rw [(stdWrite_quiet _ _ _).hal, (init_quiet _).hal, hcleared, (stdWrite_quiet _ _ _).hal,
    hinit]
  rfl

theorem run_receiving (card : sd.Card) (events : List Event) :
    Receiving ((boot card).run events).hal := by
  have hsteps : AllSteps step (fun _ _ => True) (boot card) events :=
    AllSteps.of_forall (fun _ _ => trivial) events _
  apply AllSteps.preserves (fun k => Receiving (Kernel.hal k))
    (fun k e _ hr => step_receiving hr e) events _ hsteps
  rw [boot_hal]
  exact receiving_init Hal.reset

def keyboardInput (packets : List SentPacket) : List Byte :=
  (((packets.map SentPacket.content).filter fun d => d.1 = CMD_STDIN).map
    Prod.snd).flatten

theorem inputOf_content {packets : List SentPacket}
    (hmixed : forall p, p ∈ packets -> p.content.1 < 100#16 ∨ p.content.1 = CMD_STDIN) :
    inputOf (packets.map SentPacket.content) = keyboardInput packets := by
  unfold inputOf keyboardInput
  congr 2
  apply List.filter_congr
  intro d hd
  rcases List.mem_map.mp hd with ⟨p, hp, rfl⟩
  rcases hmixed p hp with hreq | hkey
  · have hne : p.content.1 ≠ CMD_STDIN := by
      intro heq
      rw [heq] at hreq
      exact absurd hreq (by decide)
    simp [isRequest, hreq, hne]
  · simp [isRequest, hkey]

theorem boot_serving {packets : List SentPacket} {card : sd.Card} {events : List Event}
    {missing : List Byte}
    (hmixed : forall p, p ∈ packets -> p.content.1 < 100#16 ∨ p.content.1 = CMD_STDIN)
    (hsent : arrivals events ++ missing = stream packets) :
    Serving (requestsOf (packets.map SentPacket.content)) (keyboardInput packets) missing
      events (boot card) := by
  have hpending := pending_init Hal.reset packets
  have hqueued : Hal.reset.init.queued (stream packets) =
      packets.map SentPacket.content := by
    rw [pending, slot_of_not_ready rfl] at hpending
    exact hpending
  constructor
  · exact run_receiving card []
  · constructor
    · rw [boot_log, boot_hal, hsent, hpending]
      rfl
    · rw [boot_log, boot_hal, hsent, unreadInput, slotInput_of_not_ready rfl, hqueued,
        inputOf_content hmixed]
      rfl

theorem Served.all (h : Served requests input [] k) (hdone : k.hal.nextPacket = none) :
    dispatched k.log = requests ∧ returned k.log = input.map ofByte := by
  have hpending : k.hal.pending [] = [] := List.head?_eq_none_iff.mp hdone
  rcases List.append_eq_nil_iff.mp hpending with ⟨hslot, hqueued⟩
  have hready : k.hal.pktReady = false := by
    cases hr : k.hal.pktReady with
    | false => rfl
    | true => simp [slot, hr] at hslot
  have hrequests := h.requests
  have hinput := h.input
  rw [hpending] at hrequests
  rw [unreadInput, slotInput_of_not_ready hready, hqueued] at hinput
  constructor
  · simpa [requestsOf] using hrequests
  · simpa [inputOf] using hinput

/--
In a run that receives requests and `CMD_STDIN` packets, every request is acted
on and every input byte returned, once and in order, at all times if and only if
in no turn a poll meets unread input or a read a request.  With nothing left to
hand out all of them were.
-/
theorem input_not_stolen (packets : List SentPacket)
    (hmixed : forall p, p ∈ packets -> p.content.1 < 100#16 ∨ p.content.1 = CMD_STDIN)
    (card : sd.Card) (events : List Event) (missing : List Byte)
    (hsent : arrivals events ++ missing = stream packets) :
    (AllSteps step NobodySteals (boot card) events <->
      forall before after, events = before ++ after ->
        Served (requestsOf (packets.map SentPacket.content)) (keyboardInput packets)
          (arrivals after ++ missing) ((boot card).run before)) ∧
    (AllSteps step NobodySteals (boot card) events -> missing = [] ->
      ((boot card).run events).hal.nextPacket = none ->
      dispatched ((boot card).run events).log =
          requestsOf (packets.map SentPacket.content) ∧
        returned ((boot card).run events).log = (keyboardInput packets).map ofByte) := by
  have hboot : Serving (requestsOf (packets.map SentPacket.content))
      (keyboardInput packets) missing events (boot card) := boot_serving hmixed hsent
  have hthroughout := AllSteps.iff_throughout
    (Serving (requestsOf (packets.map SentPacket.content)) (keyboardInput packets) missing)
    (fun k e events h => step_serving (k := k) e events h) events (boot card) hboot
  constructor
  · constructor
    · intro hok before after hsplit
      exact (hthroughout.mp hok before after hsplit).served
    · intro hserved
      apply hthroughout.mpr
      intro before after hsplit
      exact ⟨run_receiving card before, hserved before after hsplit⟩
  · intro hok hmissing hdone
    have hend := (hthroughout.mp hok events [] (List.append_nil events).symm).served
    rw [hmissing] at hend
    exact hend.all hdone

/-!
## Runs with a program that reads
-/

def keyPress : SentPacket :=
  sentPacket SP_UNFRAGED PT_STRING CMD_STDIN (text "y")
    stdinArguments (by decide)

def listRequest : SentPacket :=
  sentPacket SP_UNFRAGED PT_STRING SYS_LS (text "/")
    lsArguments (by decide)

/-- Boot with a program that reads two bytes, and these events. -/
def reading (events : List Event) : Kernel CardImage.sdFat :=
  (boot (CardImage.ofProgram 16#8 [0x02#8, 0x02#8] 1)).run events

def keyRead : List Event :=
  [.arrive runRequest.bytes, .turn, .arrive keyPress.bytes, .turn, .turn, .turn]

def keyDropped : List Event :=
  [.arrive runRequest.bytes, .turn, .turn, .turn, .arrive keyPress.bytes, .turn]

def requestRead : List Event :=
  [.arrive runRequest.bytes, .turn, .arrive listRequest.bytes, .turn]

set_option maxRecDepth 4000 in
theorem input_not_stolen_keyRead :
    dispatched (reading keyRead).log = requestsOf [runRequest.content, keyPress.content] ∧
      returned (reading keyRead).log = (text "y").map ofByte := by
  have hsteps : AllSteps step NobodySteals
      (boot (CardImage.ofProgram 16#8 [0x02#8, 0x02#8] 1) : Kernel CardImage.sdFat)
      keyRead := by decide +kernel
  have hdone : (reading keyRead).hal.nextPacket = none := by decide +kernel
  exact (input_not_stolen [runRequest, keyPress] (by decide) _ keyRead []
    (by simp [arrivals, keyRead, stream])).right hsteps rfl hdone

set_option maxRecDepth 4000 in
/-- A key is lost in one run, a byte of a request returned as input in another. -/
theorem input_stolen :
    (arrivals keyDropped = stream [runRequest, keyPress] ∧
      returned (reading keyDropped).log = [] ∧
      (reading keyDropped).hal.nextPacket = none ∧
      ¬ Served (requestsOf [runRequest.content, keyPress.content])
        (keyboardInput [runRequest, keyPress]) [] (reading keyDropped)) ∧
    (arrivals requestRead = stream [runRequest, listRequest] ∧
      returned (reading requestRead).log = [ofByte (ascii '/')] ∧
      ¬ Served (requestsOf [runRequest.content, listRequest.content])
        (keyboardInput [runRequest, listRequest]) [] (reading requestRead)) := by
  have hdropped : returned (reading keyDropped).log = [] ∧
      (reading keyDropped).hal.nextPacket = none := by decide +kernel
  have hread : returned (reading requestRead).log = [ofByte (ascii '/')] := by
    decide +kernel
  have hkey : keyboardInput [runRequest, keyPress] = text "y" := by decide +kernel
  have hnone : keyboardInput [runRequest, listRequest] = [] := by decide +kernel
  refine ⟨⟨by simp [arrivals, keyDropped, stream], hdropped.left, hdropped.right, ?_⟩,
    by simp [arrivals, requestRead, stream], hread, ?_⟩
  · intro hserved
    have hall := (hserved.all hdropped.right).right
    rw [hdropped.left, hkey] at hall
    cases hall
  · intro hserved
    have hinput := hserved.input
    rw [hread, hnone] at hinput
    cases hinput

end Kernel
end ArduOS
