import ArduOS.HAL.Announced

/-!
# The raw buffer on arbitrary input

Each turn of the loop of `process_serial` stores one byte, inside the buffer.  A
packet is found at its very last byte, since its header was read with every
shorter length before: so nothing follows it, and it fits the slot uncut.
-/

namespace ArduOS

open Library Hal

namespace Hal

/-!
## The turns of the loop
-/

def loopTurns : Hal -> List Byte -> List (Hal × Byte)
  | _, [] => []
  | h, b :: rest =>
      (h, b) ::
        if (h.receiveByte b).pktReady then [] else loopTurns (h.receiveByte b) rest

def serialTurns (h : Hal) : List (Hal × Byte) :=
  if h.pktReady then [] else loopTurns h h.serial

/-- The receiver after some turns that started in `h`. -/
def afterTurns (h : Hal) (turns : List (Hal × Byte)) : Hal :=
  turns.foldl (fun h turn => h.receiveByte turn.2) h

theorem loopTurns_cons_ready {h : Hal} {b : Byte} (rest : List Byte)
    (hready : (h.receiveByte b).pktReady = true) : h.loopTurns (b :: rest) = [(h, b)] := by
  rw [loopTurns, if_pos hready]

theorem loopTurns_cons_waiting {h : Hal} {b : Byte} (rest : List Byte)
    (hready : (h.receiveByte b).pktReady = false) :
    h.loopTurns (b :: rest) = (h, b) :: (h.receiveByte b).loopTurns rest := by
  rw [loopTurns, hready]
  rfl

theorem processLoop_turns :
    forall (bytes : List Byte) (h : Hal),
      processLoop h bytes =
          { h.afterTurns (h.loopTurns bytes) with serial := (processLoop h bytes).serial } ∧
        bytes = (h.loopTurns bytes).map Prod.snd ++ (processLoop h bytes).serial := by
  intro bytes
  induction bytes with
  | nil =>
      intro h
      exact ⟨rfl, rfl⟩
  | cons b rest ih =>
      intro h
      cases hready : (h.receiveByte b).pktReady with
      | true =>
          have hloop : processLoop h (b :: rest) = { h.receiveByte b with serial := rest } := by
            rw [processLoop, if_pos hready]
          rw [loopTurns_cons_ready rest hready, hloop]
          exact ⟨rfl, rfl⟩
      | false =>
          have hloop : processLoop h (b :: rest) = processLoop (h.receiveByte b) rest := by
            rw [processLoop, if_neg (by simp [hready])]
          rcases ih (h.receiveByte b) with ⟨hlast, hbytes⟩
          rw [loopTurns_cons_waiting rest hready, hloop]
          refine ⟨hlast, ?_⟩
          rw [List.map_cons, List.cons_append, ← hbytes]

/-!
## One turn
-/

def writeIndex (h : Hal) : Nat :=
  if h.rawIndex >= HAL_RX_RAW_SIZE then 0 else h.rawIndex

def parse (h : Hal) : SpResult × Option SpParsedPacket :=
  spParsePacket (some h.rawBuffer) (BitVec.ofNat 32 h.rawIndex) (some default)

/-- `packet` is all that `h` holds, and `h'` has taken it over without a cut. -/
structure TakenWhole (h h' : Hal) (packet : SpParsedPacket) : Prop where
  all : packet.packetLength.toNat = h.rawIndex
  short : packet.payloadLength.toNat <= 244
  unmoved : h'.rawBuffer = h.rawBuffer
  emptied : h'.rawIndex = 0
  len : h'.pktLen = packet.payloadLength.toNat
  copied : bytesOf h'.pktPayload h'.pktLen = bytesOf packet.payload packet.payloadLength.toNat

/-- What holds of every turn of the loop. -/
structure SafeTurn (h : Hal) (b : Byte) : Prop where
  before : h.rawIndex <= HAL_RX_RAW_SIZE
  inside : h.writeIndex < HAL_RX_RAW_SIZE
  written : (h.receiveByte b).rawBuffer = Function.update h.rawBuffer h.writeIndex b
  filled : (h.stored b).rawIndex <= HAL_RX_RAW_SIZE
  after : (h.receiveByte b).rawIndex <= HAL_RX_RAW_SIZE
  whole : (h.stored b).parse.1 = .ok ->
    exists packet, (h.stored b).parse = (.ok, some packet) ∧
      TakenWhole (h.stored b) (h.receiveByte b) packet

theorem writeIndex_lt (h : Hal) : h.writeIndex < HAL_RX_RAW_SIZE := by
  have h256 : HAL_RX_RAW_SIZE = 256 := rfl
  unfold writeIndex
  split
  · omega
  · omega

theorem rawBuffer_stored (h : Hal) (b : Byte) :
    (h.stored b).rawBuffer = Function.update h.rawBuffer h.writeIndex b := by
  unfold stored writeIndex
  split
  · rfl
  · rfl

section OneTurn

variable {h : Hal} {b : Byte}

/-- With bytes still to come the parser does not answer `SP_OK`. -/
theorem parse_of_wait (hfits : h.rawIndex <= HAL_RX_RAW_SIZE)
    (hwait : halVerdict (h.stored b).held = .wait) :
    (h.stored b).parse = (.errBufferTooSmall, some default) := by
  unfold parse
  apply spParsePacket_incomplete
  rw [toNat_rawIndex_stored hfits]
  rw [halVerdict_eq_wait_iff, length_held] at hwait
  by_cases hlong : 12 <= (h.stored b).rawIndex
  · rw [declaredLength_stored (by omega)]
    exact hwait
  · omega

theorem parse_of_done (hh : Holding h) (hdone : halVerdict (h.stored b).held ≠ .wait) :
    (h.stored b).parse =
        (.ok, some (parsedPacket (h.stored b).rawBuffer)) ∧
          h.receiveByte b =
            (h.stored b).packetDone (parsedPacket (h.stored b).rawBuffer) ∨
      (h.stored b).parse = (.errCrcMismatch, some default) ∧
        h.receiveByte b = { h.stored b with rawIndex := 0 } := by
  rw [receiveByte_of_done hh hdone]
  unfold parse
  rw [spParsePacket_stored hh hdone]
  by_cases hmatch : ChecksumMatches (h.stored b).rawBuffer (h.stored b).rawIndex
  · rw [if_pos hmatch, if_pos hmatch]
    exact .inl ⟨rfl, rfl⟩
  · rw [if_neg hmatch, if_neg hmatch]
    exact .inr ⟨rfl, rfl⟩

end OneTurn

theorem takenWhole_packetDone {h : Hal} {packet : SpParsedPacket}
    (hall : packet.packetLength.toNat = h.rawIndex)
    (hfits : h.rawIndex <= HAL_RX_RAW_SIZE) (hshort : packet.payloadLength.toNat <= 244) :
    TakenWhole h (h.packetDone packet) packet := by
  rw [packetDone_whole hall hfits hshort]
  refine ⟨hall, hshort, rfl, rfl, rfl, ?_⟩
  apply bytesOf_congr
  intro i hi
  simp only
  rw [if_pos hi]

theorem safeTurn_of_holding {h : Hal} (b : Byte) (hh : Holding h) : SafeTurn h b := by
  have hfilled := rawIndex_stored h b hh.fits
  have hwritten := rawBuffer_stored h b
  by_cases hwait : halVerdict (h.stored b).held = .wait
  · have hsame := receiveByte_of_wait hh.fits hwait
    refine ⟨hh.fits, writeIndex_lt h, ?_, hfilled, ?_, ?_⟩
    · rw [hsame, hwritten]
    · rw [hsame]
      exact hfilled
    · intro hok
      rw [parse_of_wait hh.fits hwait] at hok
      cases hok
  · rcases parse_of_done hh hwait with ⟨hparse, hdone⟩ | ⟨hparse, hdropped⟩
    · rcases lengths_of_done hh hwait with ⟨hall, _, hshort⟩
      have htaken := takenWhole_packetDone hall hfilled hshort
      rw [← hdone] at htaken
      refine ⟨hh.fits, writeIndex_lt h, ?_, hfilled, ?_, ?_⟩
      · rw [htaken.unmoved, hwritten]
      · rw [htaken.emptied]
        exact Nat.zero_le _
      · intro _
        exact ⟨_, hparse, htaken⟩
    · refine ⟨hh.fits, writeIndex_lt h, ?_, hfilled, ?_, ?_⟩
      · rw [hdropped]
        exact hwritten
      · rw [hdropped]
        exact Nat.zero_le _
      · intro hok
        rw [hparse] at hok
        cases hok

/-!
## Whole calls
-/

theorem safeTurn_of_mem_loopTurns :
    forall (bytes : List Byte) (h : Hal), Holding h -> h.pktReady = false ->
      forall turn, turn ∈ h.loopTurns bytes -> SafeTurn turn.1 turn.2 := by
  intro bytes
  induction bytes with
  | nil =>
      intro h _ _ turn hturn
      cases hturn
  | cons b rest ih =>
      intro h hh hready turn hturn
      have hfirst := safeTurn_of_holding b hh
      cases hready' : (h.receiveByte b).pktReady with
      | true =>
          rw [loopTurns_cons_ready rest hready', List.mem_singleton] at hturn
          rw [hturn]
          exact hfirst
      | false =>
          rw [loopTurns_cons_waiting rest hready', List.mem_cons] at hturn
          rcases hturn with hturn | hturn
          · rw [hturn]
            exact hfirst
          · have hh' := (receiveByte_refines b hh hready).left
            exact ih (h.receiveByte b) hh' hready' turn hturn

theorem safeTurn_of_mem {h : Hal} (hr : Receiving h) :
    forall turn, turn ∈ h.serialTurns -> SafeTurn turn.1 turn.2 := by
  unfold serialTurns
  cases hready : h.pktReady with
  | true =>
      intro turn hturn
      cases hturn
  | false => exact safeTurn_of_mem_loopTurns h.serial h hr.holding hready

theorem processSerial_turns (h : Hal) :
    h.processSerial =
        { h.afterTurns h.serialTurns with serial := h.processSerial.serial } ∧
      h.serial = h.serialTurns.map Prod.snd ++ h.processSerial.serial := by
  unfold processSerial serialTurns
  cases h.pktReady with
  | true => exact ⟨rfl, rfl⟩
  | false => exact processLoop_turns h.serial h

end Hal

/--
Whatever bytes came in whatever bursts, and whatever was called: every turn of
the next call of `process_serial` is safe, and the bytes it does not look at stay.
-/
theorem receiver_buffer_bounded {past : List Byte} {h : Hal} (hf : Received past h) :
    h.rawIndex <= HAL_RX_RAW_SIZE ∧
      (h.pktReady = true -> 0 <= h.pktReadPos ∧ h.pktReadPos <= h.pktLen) ∧
      (h.processSerial.pktReady = true ->
        0 <= h.processSerial.pktReadPos ∧
          h.processSerial.pktReadPos <= h.processSerial.pktLen) ∧
      (forall turn, turn ∈ h.serialTurns -> SafeTurn turn.1 turn.2) ∧
      h.processSerial =
        { h.afterTurns h.serialTurns with serial := h.processSerial.serial } ∧
      h.serial = h.serialTurns.map Prod.snd ++ h.processSerial.serial ∧
      forall cmdOut payloadOut,
        (h.readPacket cmdOut payloadOut RX_BUFFER_SIZE).1.delivered.toList =
          h.processSerial.slot := by
  have hr := hf.spec.left
  have hr' := (processSerial_step hr).left
  rcases processSerial_turns h with ⟨hlast, hbytes⟩
  refine ⟨hr.holding.fits, ?_, ?_, safeTurn_of_mem hr, hlast, hbytes, ?_⟩
  · intro hready
    exact ⟨Nat.zero_le _, hr.pos hready⟩
  · intro hready
    exact ⟨Nat.zero_le _, hr'.pos hready⟩
  · intro cmdOut payloadOut
    exact (readPacket_spec hr cmdOut payloadOut).right.left

/-- A packet and the first byte of the next one. -/
theorem receiver_buffer_bounded_request :
    let h := Hal.reset.init.arrive (getcwdRequest.bytes ++ [0xFF#8])
    h.processSerial.pktReady = true ∧ h.processSerial.serial = [0xFF#8] ∧
      forall turn, turn ∈ h.serialTurns -> SafeTurn turn.1 turn.2 := by
  intro h
  have hf : Received (getcwdRequest.bytes ++ [0xFF#8]) h :=
    @Received.arrive [] _ (.init Hal.reset) _
  exact ⟨by decide +kernel, by decide +kernel,
    (receiver_buffer_bounded hf).right.right.right.left⟩

end ArduOS
