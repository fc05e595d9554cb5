import ArduOS.HAL.Held

/-!
# The two consumers

What `HAL_readPacket` and `HAL_read` take from the packets still to be handed
out.  Each call takes the head of that list, or a byte of it, or nothing.
-/

namespace ArduOS

open Library

namespace Hal

def slot (h : Hal) : List Delivery :=
  if h.pktReady then [(h.pktCmd, bytesOf h.pktPayload h.pktLen)] else []

def unreadSlot (h : Hal) : List Byte :=
  if h.pktReady then (bytesOf h.pktPayload h.pktLen).drop h.pktReadPos else []

/-- The packets still to be handed out, when `future` is to arrive. -/
def pending (h : Hal) (future : List Byte) : List Delivery :=
  h.slot ++ h.queued future

def unread (h : Hal) (future : List Byte) : List Byte :=
  h.unreadSlot ++ ((h.queued future).map Prod.snd).flatten

theorem slot_of_not_ready {h : Hal} (hready : h.pktReady = false) : h.slot = [] := by
  simp [slot, hready]

theorem unreadSlot_of_not_ready {h : Hal} (hready : h.pktReady = false) :
    h.unreadSlot = [] := by
  simp [unreadSlot, hready]

theorem Offers.slot_eq {h : Hal} {d : Delivery} (ho : Offers h d) :
    h.slot = [d] := by
  unfold slot
  rw [if_pos ho.ready, ho.len, ho.payload, ho.cmd]

theorem Offers.unreadSlot_eq {h : Hal} {d : Delivery} (ho : Offers h d) :
    h.unreadSlot = d.2 := by
  unfold unreadSlot
  rw [if_pos ho.ready, ho.len, ho.payload, ho.pos]
  rfl

theorem pending_arrive (h : Hal) (bytes future : List Byte) :
    (h.arrive bytes).pending future = h.pending (bytes ++ future) := by
  unfold pending
  rw [queued_arrive]
  rfl

theorem unread_arrive (h : Hal) (bytes future : List Byte) :
    (h.arrive bytes).unread future = h.unread (bytes ++ future) := by
  unfold unread
  rw [queued_arrive]
  rfl

theorem pending_processSerial {h : Hal} (hr : Receiving h) (future : List Byte) :
    h.processSerial.pending future = h.pending future := by
  unfold pending
  cases (processSerial_step hr).right with
  | busy _ hsame => rw [hsame]
  | starved hready hready' _ hqueue =>
      rw [slot_of_not_ready hready, slot_of_not_ready hready', hqueue]
  | filled hready d hoffers hqueue =>
      rw [slot_of_not_ready hready, hoffers.slot_eq, hqueue]
      rfl

theorem unread_processSerial {h : Hal} (hr : Receiving h) (future : List Byte) :
    h.processSerial.unread future = h.unread future := by
  unfold unread
  cases (processSerial_step hr).right with
  | busy _ hsame => rw [hsame]
  | starved hready hready' _ hqueue =>
      rw [unreadSlot_of_not_ready hready, unreadSlot_of_not_ready hready', hqueue]
  | filled hready d hoffers hqueue =>
      rw [unreadSlot_of_not_ready hready, hoffers.unreadSlot_eq, hqueue]
      rfl

theorem pending_nil_of_not_ready {h : Hal} (hr : Receiving h)
    (hready : h.processSerial.pktReady = false) :
    h.pending [] = [] := by
  rw [← pending_processSerial hr]
  unfold pending
  rw [slot_of_not_ready hready]
  cases (processSerial_step hr).right with
  | busy hbusy hsame =>
      rw [hsame, hbusy] at hready
      cases hready
  | starved _ _ hserial hqueue =>
      simp [queued, hserial]
  | filled _ d hoffers _ =>
      rw [hoffers.ready] at hready
      cases hready

/-!
## Whole packets
-/

def PacketRead.delivered (r : PacketRead) : Option Delivery :=
  if r.result >= 0 then some (r.cmdOut, bytesOf r.payloadOut r.result.toNat) else none

theorem readPacket_spec {h : Hal} (hr : Receiving h) (cmdOut : BitVec 16)
    (payloadOut : Buffer) :
    Receiving (h.readPacket cmdOut payloadOut RX_BUFFER_SIZE).2 ∧
      (h.readPacket cmdOut payloadOut RX_BUFFER_SIZE).1.delivered.toList =
        h.processSerial.slot ∧
      forall future, h.pending future =
        (h.readPacket cmdOut payloadOut RX_BUFFER_SIZE).1.delivered.toList ++
          (h.readPacket cmdOut payloadOut RX_BUFFER_SIZE).2.pending future := by
  rcases processSerial_step hr with ⟨hr', _⟩
  have h256 : RX_BUFFER_SIZE = 256 := rfl
  have h244 : HAL_RX_RAW_SIZE - 12 = 244 := rfl
  have hpending := pending_processSerial hr
  cases hready : h.processSerial.pktReady with
  | false =>
      have hread : h.readPacket cmdOut payloadOut RX_BUFFER_SIZE =
          ({ result := -1, cmdOut := cmdOut, payloadOut := payloadOut },
            h.processSerial) := by
        simp [readPacket, hready]
      rw [hread]
      refine ⟨hr', ?_, ?_⟩
      · rw [slot_of_not_ready hready]
        rfl
      · intro future
        rw [hpending]
        rfl
  | true =>
      have hlen := hr'.len hready
      have hnocut : ¬ h.processSerial.pktLen > RX_BUFFER_SIZE := by omega
      have hread : h.readPacket cmdOut payloadOut RX_BUFFER_SIZE =
          ({ result := h.processSerial.pktLen
             cmdOut := h.processSerial.pktCmd
             payloadOut := fun i =>
              if i < h.processSerial.pktLen then h.processSerial.pktPayload i
              else payloadOut i },
            { h.processSerial with pktReady := false, pktReadPos := 0 }) := by
        simp only [readPacket, if_pos hready, if_neg hnocut]
      have hslot : (h.readPacket cmdOut payloadOut RX_BUFFER_SIZE).1.delivered.toList =
          h.processSerial.slot := by
        rw [hread]
        have hpayload : bytesOf (fun i =>
            if i < h.processSerial.pktLen then h.processSerial.pktPayload i
            else payloadOut i) h.processSerial.pktLen =
              bytesOf h.processSerial.pktPayload h.processSerial.pktLen := by
          apply bytesOf_congr
          intro i hi
          rw [if_pos hi]
        simp [PacketRead.delivered, slot, hready, hpayload]
      refine ⟨?_, hslot, ?_⟩
      · rw [hread]
        exact receiving_of_not_ready
          (holding_of_eq (h := h.processSerial) rfl rfl hr'.holding) rfl
      · intro future
        have hfree : slot { h.processSerial with
            pktReady := false, pktReadPos := 0 } = [] := slot_of_not_ready rfl
        rw [hslot, ← hpending, hread]
        unfold pending
        rw [hfree]
        rfl

/-!
## Single bytes
-/

def byteRead (result : Int) : Option Int :=
  if result = -1 then none else some result

theorem unreadSlot_cons {h : Hal} (hready : h.pktReady = true)
    (hpos : h.pktReadPos < h.pktLen) :
    h.unreadSlot = h.pktPayload h.pktReadPos ::
      (bytesOf h.pktPayload h.pktLen).drop (h.pktReadPos + 1) := by
  unfold unreadSlot
  rw [if_pos hready]
  rw [List.drop_eq_getElem_cons (by simpa using hpos)]
  congr 1
  simp [bytesOf]

/-- The three ways a call of `HAL_read(FD_STDIN)` ends, from the state in which
`process_serial` left the receiver. -/
inductive ReadStep (h : Hal) : Int -> Hal -> Prop where
  | nothing (ready : h.pktReady = false) : ReadStep h (-1) h
  | byte (ready : h.pktReady = true) (pos : h.pktReadPos < h.pktLen) :
      ReadStep h (ofByte (h.pktPayload h.pktReadPos))
        { h with pktReadPos := h.pktReadPos + 1 }
  | finished (ready : h.pktReady = true) (pos : h.pktLen <= h.pktReadPos) :
      ReadStep h (-1) { h with pktReady := false }

theorem read_step (h : Hal) :
    ReadStep h.processSerial (h.read FD_STDIN).1 (h.read FD_STDIN).2 := by
  cases hready : h.processSerial.pktReady with
  | false =>
      have hread : h.read FD_STDIN = (-1, h.processSerial) := by
        simp [read, hready]
      rw [hread]
      exact ReadStep.nothing hready
  | true =>
      by_cases hpos : h.processSerial.pktReadPos < h.processSerial.pktLen
      · have hread : h.read FD_STDIN =
            (ofByte (h.processSerial.pktPayload h.processSerial.pktReadPos),
              { h.processSerial with
                pktReadPos := h.processSerial.pktReadPos + 1 }) := by
          simp only [read, if_pos hready, if_pos hpos]
          rfl
        rw [hread]
        exact ReadStep.byte hready hpos
      · have hread : h.read FD_STDIN =
            (-1, { h.processSerial with pktReady := false }) := by
          simp only [read, if_pos hready, if_neg hpos]
          rfl
        rw [hread]
        exact ReadStep.finished hready (by omega)

theorem byteRead_ofByte (b : Byte) : byteRead (ofByte b) = some (ofByte b) := by
  have hne : ofByte b ≠ -1 := by
    unfold ofByte
    omega
  simp [byteRead, hne]

theorem read_spec {h : Hal} (hr : Receiving h) :
    Receiving (h.read FD_STDIN).2 ∧
      (byteRead (h.read FD_STDIN).1).toList =
        (h.processSerial.unreadSlot.take 1).map ofByte ∧
      forall future, (h.unread future).map ofByte =
        (byteRead (h.read FD_STDIN).1).toList ++
          ((h.read FD_STDIN).2.unread future).map ofByte := by
  rcases processSerial_step hr with ⟨hr', _⟩
  have hunread := unread_processSerial hr
  have hstep := read_step h
  generalize hresult : (h.read FD_STDIN).1 = result at hstep ⊢
  generalize hafter : (h.read FD_STDIN).2 = after at hstep ⊢
  cases hstep with
  | nothing hready =>
      refine ⟨hr', ?_, ?_⟩
      · rw [unreadSlot_of_not_ready hready]
        rfl
      · intro future
        rw [hunread]
        rfl
  | byte hready hpos =>
      simp only [byteRead_ofByte, Option.toList]
      refine ⟨?_, ?_, ?_⟩
      · constructor
        · exact holding_of_eq (h := h.processSerial) rfl rfl hr'.holding
        · intro _
          exact hpos
        · exact hr'.len
      · rw [unreadSlot_cons hready hpos]
        rfl
      · intro future
        rw [← hunread]
        unfold unread
        rw [unreadSlot_cons hready hpos]
        simp only [unreadSlot, hready, if_true, List.cons_append, List.map_cons,
          List.nil_append]
        rfl
  | finished hready hpos =>
      have hempty : h.processSerial.unreadSlot = [] := by
        unfold unreadSlot
        rw [if_pos hready]
        apply List.drop_eq_nil_of_le
        rw [length_bytesOf]
        exact hpos
      refine ⟨?_, ?_, ?_⟩
      · exact receiving_of_not_ready
          (holding_of_eq (h := h.processSerial) rfl rfl hr'.holding) rfl
      · rw [hempty]
        rfl
      · intro future
        have hfree : unreadSlot { h.processSerial with pktReady := false } = [] :=
          unreadSlot_of_not_ready rfl
        rw [← hunread]
        unfold unread
        rw [hempty, hfree]
        rfl

end Hal
end ArduOS
