import ArduOS.HAL.Delivery

/-!
# Requests and input in one stream

The packets still to be handed out, split by whom they are for: requests go to
`HAL_readPacket`, everything else is input for `HAL_read`.  Neither function
looks at the id before it takes something.
-/

namespace ArduOS

open Library

def isRequest (d : Delivery) : Bool := d.1 < 100#16

def requestsOf (ds : List Delivery) : List Delivery := ds.filter fun d => isRequest d

def inputOf (ds : List Delivery) : List Byte :=
  ((ds.filter fun d => ! isRequest d).map Prod.snd).flatten

@[simp] theorem requestsOf_append (ds ds' : List Delivery) :
    requestsOf (ds ++ ds') = requestsOf ds ++ requestsOf ds' := by
  simp [requestsOf]

theorem inputOf_cons (d : Delivery) (ds : List Delivery) :
    inputOf (d :: ds) = (if isRequest d then [] else d.2) ++ inputOf ds := by
  cases hreq : isRequest d with
  | true => simp [inputOf, hreq]
  | false => simp [inputOf, hreq]

namespace Hal

/-- The next packet that a consumer gets to see, if one is complete. -/
def nextPacket (h : Hal) : Option Delivery := (h.pending []).head?

def nextUnread (h : Hal) : List Byte :=
  if h.pktReady then h.unreadSlot else (h.nextPacket.map Prod.snd).getD []

def slotInput (h : Hal) : List Byte :=
  if h.pktCmd < 100#16 then [] else h.unreadSlot

def unreadInput (h : Hal) (future : List Byte) : List Byte :=
  h.slotInput ++ inputOf (h.queued future)

theorem slotInput_of_not_ready {h : Hal} (hready : h.pktReady = false) :
    h.slotInput = [] := by
  simp [slotInput, unreadSlot_of_not_ready hready]

theorem Offers.slotInput_eq {h : Hal} {d : Delivery} (ho : Offers h d) :
    h.slotInput = if isRequest d then [] else d.2 := by
  unfold slotInput isRequest
  rw [ho.unreadSlot_eq, ho.cmd]
  simp

theorem unreadInput_arrive (h : Hal) (bytes future : List Byte) :
    (h.arrive bytes).unreadInput future = h.unreadInput (bytes ++ future) := by
  unfold unreadInput
  rw [queued_arrive]
  rfl

theorem unreadInput_processSerial {h : Hal} (hr : Receiving h) (future : List Byte) :
    h.processSerial.unreadInput future = h.unreadInput future := by
  unfold unreadInput
  cases (processSerial_step hr).right with
  | busy _ hsame => rw [hsame]
  | starved hready hready' _ hqueue =>
      rw [slotInput_of_not_ready hready, slotInput_of_not_ready hready', hqueue]
  | filled hready d hoffers hqueue =>
      rw [slotInput_of_not_ready hready, hoffers.slotInput_eq, hqueue, inputOf_cons,
        List.nil_append]

theorem slot_processSerial {h : Hal} (hr : Receiving h) :
    h.processSerial.slot = h.nextPacket.toList := by
  unfold nextPacket
  rw [← pending_processSerial hr]
  cases hready : h.processSerial.pktReady with
  | false =>
      have hnil := pending_nil_of_not_ready hr hready
      rw [pending_processSerial hr, hnil, slot_of_not_ready hready]
      rfl
  | true => simp [pending, slot, hready]

theorem unreadSlot_processSerial {h : Hal} (hr : Receiving h) :
    h.processSerial.unreadSlot = h.nextUnread := by
  have hslot := slot_processSerial hr
  unfold nextUnread
  cases (processSerial_step hr).right with
  | busy hready hsame => rw [hsame, if_pos hready]
  | starved hready hready' _ _ =>
      rw [slot_of_not_ready hready'] at hslot
      cases hnext : h.nextPacket with
      | none => simp [hready, unreadSlot_of_not_ready hready']
      | some d =>
          rw [hnext] at hslot
          cases hslot
  | filled hready d hoffers _ =>
      rw [hoffers.slot_eq] at hslot
      cases hnext : h.nextPacket with
      | none =>
          rw [hnext] at hslot
          cases hslot
      | some d' =>
          rw [hnext] at hslot
          cases hslot
          simp [hready, hoffers.unreadSlot_eq]

theorem any_isRequest {h : Hal} (hr : Receiving h)
    (hready : h.processSerial.pktReady = true) :
    h.nextPacket.any isRequest = decide (h.processSerial.pktCmd < 100#16) := by
  have hslot := slot_processSerial hr
  rw [slot, if_pos hready] at hslot
  cases hnext : h.nextPacket with
  | none =>
      rw [hnext] at hslot
      cases hslot
  | some d =>
      rw [hnext] at hslot
      cases hslot
      simp [isRequest]

theorem slotInput_processSerial {h : Hal} (hr : Receiving h) :
    h.processSerial.slotInput =
      if h.nextPacket.any isRequest then [] else h.nextUnread := by
  have hunread := unreadSlot_processSerial hr
  cases hready : h.processSerial.pktReady with
  | false =>
      rw [unreadSlot_of_not_ready hready] at hunread
      rw [slotInput_of_not_ready hready, ← hunread]
      simp
  | true =>
      rw [slotInput, any_isRequest hr hready, hunread]
      simp

/-!
## A poll for a packet
-/

/-- A poll takes the next packet, and the unread rest of it is lost. -/
theorem readPacket_split {h : Hal} (hr : Receiving h) (cmdOut : BitVec 16)
    (payloadOut : Buffer) :
    (h.readPacket cmdOut payloadOut RX_BUFFER_SIZE).1.delivered = h.nextPacket ∧
      (forall future, requestsOf (h.pending future) =
        requestsOf h.nextPacket.toList ++
          requestsOf ((h.readPacket cmdOut payloadOut RX_BUFFER_SIZE).2.pending future)) ∧
      forall future, h.unreadInput future =
        (if h.nextPacket.any isRequest then [] else h.nextUnread) ++
          (h.readPacket cmdOut payloadOut RX_BUFFER_SIZE).2.unreadInput future := by
  rcases readPacket_spec hr cmdOut payloadOut with ⟨_, hslot, hpoll⟩
  have hdelivered : (h.readPacket cmdOut payloadOut RX_BUFFER_SIZE).1.delivered =
      h.nextPacket := by
    rw [slot_processSerial hr] at hslot
    have hhead := congrArg List.head? hslot
    simpa using hhead
  refine ⟨hdelivered, ?_, ?_⟩
  · intro future
    rw [hpoll future, hdelivered, requestsOf_append]
  · intro future
    rw [← unreadInput_processSerial hr, ← slotInput_processSerial hr]
    unfold readPacket
    simp only
    split
    · have hfree : slotInput { h.processSerial with
          pktReady := false, pktReadPos := 0 } = [] := slotInput_of_not_ready rfl
      unfold unreadInput
      simp only [hfree, List.nil_append]
      rfl
    · rename_i hready
      have hempty := slotInput_of_not_ready (Bool.eq_false_iff.mpr hready)
      unfold unreadInput
      simp only [hempty, List.nil_append]

/-!
## A read of a byte
-/

/-- A read returns the next unread byte; without one it drops the packet. -/
theorem read_split {h : Hal} (hr : Receiving h) :
    (byteRead (h.read FD_STDIN).1).toList = (h.nextUnread.take 1).map ofByte ∧
      (forall future, requestsOf (h.pending future) =
        (if h.nextUnread = [] then requestsOf h.nextPacket.toList else []) ++
          requestsOf ((h.read FD_STDIN).2.pending future)) ∧
      forall future, h.unreadInput future =
        (if h.nextPacket.any isRequest then [] else h.nextUnread.take 1) ++
          (h.read FD_STDIN).2.unreadInput future := by
  rcases read_spec hr with ⟨_, hbyte, _⟩
  have hnext := slot_processSerial hr
  have hunread := unreadSlot_processSerial hr
  have hinput := slotInput_processSerial hr
  have hpending := pending_processSerial hr
  have hinputs := unreadInput_processSerial hr
  rw [hunread] at hbyte
  refine ⟨hbyte, ?_⟩
  have hstep := read_step h
  generalize (h.read FD_STDIN).1 = result at hstep
  generalize (h.read FD_STDIN).2 = after at hstep ⊢
  cases hstep with
  | nothing hready =>
      rw [slot_of_not_ready hready] at hnext
      rw [unreadSlot_of_not_ready hready] at hunread
      constructor
      · intro future
        rw [if_pos hunread.symm, ← hnext, hpending]
        rfl
      · intro future
        rw [← hunread, hinputs]
        simp
  | byte hready hpos =>
      have hcons := unreadSlot_cons hready hpos
      rw [hunread] at hcons
      constructor
      · intro future
        have hsame : Hal.pending { h.processSerial with
            pktReadPos := h.processSerial.pktReadPos + 1 } future =
              h.processSerial.pending future := rfl
        rw [if_neg (by rw [hcons]; exact List.cons_ne_nil _ _), hsame, hpending]
        rfl
      · intro future
        rw [← hinputs]
        unfold unreadInput
        have hqueue : Hal.queued { h.processSerial with
            pktReadPos := h.processSerial.pktReadPos + 1 } future =
              h.processSerial.queued future := rfl
        rw [hqueue, any_isRequest hr hready]
        by_cases hreq : h.processSerial.pktCmd < 100#16
        · simp [slotInput, hreq]
        · have hslot : h.processSerial.slotInput = h.nextUnread := by
            rw [hinput, any_isRequest hr hready, decide_eq_false hreq]
            rfl
          rw [hslot, hcons]
          simp [slotInput, hreq, unreadSlot, hready]
  | finished hready hpos =>
      have hempty : h.processSerial.unreadSlot = [] := by
        unfold unreadSlot
        rw [if_pos hready]
        apply List.drop_eq_nil_of_le
        rw [length_bytesOf]
        exact hpos
      rw [hunread] at hempty
      constructor
      · intro future
        rw [if_pos hempty, ← hnext, ← hpending, pending, requestsOf_append]
        congr 1
      · intro future
        rw [← hinputs]
        unfold unreadInput
        have hfree : slotInput { h.processSerial with pktReady := false } = [] :=
          slotInput_of_not_ready rfl
        rw [hinput, hempty, hfree]
        simp
        rfl

end Hal
end ArduOS
