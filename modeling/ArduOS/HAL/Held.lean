import ArduOS.HAL.Receiver
import ArduOS.StreamProtocol.RoundTrip
import ArduOS.Library.Framing

/-!
# What the receiver holds

The raw buffer and its index refine a receiver that holds a list of bytes and
cuts frames from it.  The invariant is that the parser, asked about the held
bytes, wants more of them: so a packet is noticed at its very last byte, and
nothing of the next one is in the buffer yet.
-/

namespace ArduOS

open Library

abbrev Delivery := BitVec 16 × List Byte

def packetContent (packet : Buffer) : Delivery :=
  ((parsedPacket packet).userField,
    bytesOf (parsedPacket packet).payload (declaredLength packet - 12))

def halVerdict (held : List Byte) : Verdict Delivery :=
  let packet := bufferOf held
  if held.length < 12 ∨ declaredLength packet < 12 ∨
      held.length < declaredLength packet then .wait
  else if ChecksumMatches packet (declaredLength packet) then
    .accept (packetContent packet)
  else .drop

theorem packetContent_congr {p q : Buffer} {n : Nat} (hlo : 8 <= n)
    (hhi : declaredLength p <= n) (h : forall i, i < n -> p i = q i) :
    packetContent p = packetContent q := by
  have hhead : forall i, i < 8 -> p i = q i := fun i hi => h i (by omega)
  have hlength := declaredLength_congr hhead
  unfold packetContent
  rw [← hlength]
  simp only [parsedPacket, spReadHeader_congr hhead]
  congr 1
  apply bytesOf_congr
  intro i hi
  exact h _ (by omega)

theorem halVerdict_wait {held : List Byte}
    (h : held.length < 12 ∨ declaredLength (bufferOf held) < 12 ∨
      held.length < declaredLength (bufferOf held)) :
    halVerdict held = .wait := by
  simp only [halVerdict, if_pos h]

theorem halVerdict_decided {held : List Byte}
    (h : ¬ (held.length < 12 ∨ declaredLength (bufferOf held) < 12 ∨
      held.length < declaredLength (bufferOf held))) :
    halVerdict held =
      if ChecksumMatches (bufferOf held) (declaredLength (bufferOf held)) then
        .accept (packetContent (bufferOf held))
      else .drop := by
  simp only [halVerdict, if_neg h]

theorem halVerdict_eq_wait_iff {held : List Byte} :
    halVerdict held = .wait <->
      held.length < 12 ∨ declaredLength (bufferOf held) < 12 ∨
        held.length < declaredLength (bufferOf held) := by
  constructor
  · intro h
    by_cases hshort : held.length < 12 ∨ declaredLength (bufferOf held) < 12 ∨
        held.length < declaredLength (bufferOf held)
    · exact hshort
    · rw [halVerdict_decided hshort] at h
      split at h
      · cases h
      · cases h
  · exact halVerdict_wait

theorem halVerdict_nil : halVerdict [] = .wait :=
  halVerdict_wait (Or.inl (by simp))

namespace Hal

def held (h : Hal) : List Byte := bytesOf h.rawBuffer h.rawIndex

structure Holding (h : Hal) : Prop where
  fits : h.rawIndex <= HAL_RX_RAW_SIZE
  waits : halVerdict h.held = .wait

theorem holding_empty {h : Hal} (hzero : h.rawIndex = 0) : Holding h := by
  constructor
  · omega
  · have hnil : h.held = [] := by simp [held, bytesOf, hzero]
    rw [hnil]
    exact halVerdict_nil

theorem holding_init (h : Hal) : Holding h.init :=
  holding_empty rfl

theorem holding_of_eq {h h' : Hal} (hbuf : h'.rawBuffer = h.rawBuffer)
    (hidx : h'.rawIndex = h.rawIndex) (hh : Holding h) : Holding h' := by
  have hheld : h'.held = h.held := by simp [held, hbuf, hidx]
  exact ⟨by rw [hidx]; exact hh.fits, by rw [hheld]; exact hh.waits⟩

structure Offers (h : Hal) (d : Delivery) : Prop where
  ready : h.pktReady = true
  cmd : h.pktCmd = d.1
  len : h.pktLen = d.2.length
  pos : h.pktReadPos = 0
  payload : bytesOf h.pktPayload d.2.length = d.2
  short : d.2.length <= HAL_RX_RAW_SIZE - 12

def stored (h : Hal) (b : Byte) : Hal :=
  let h := if h.rawIndex >= HAL_RX_RAW_SIZE then { h with rawIndex := 0 } else h
  { h with
    rawBuffer := Function.update h.rawBuffer h.rawIndex b
    rawIndex := h.rawIndex + 1 }

theorem held_stored (h : Hal) (b : Byte) :
    (h.stored b).held = holdByte HAL_RX_RAW_SIZE h.held b := by
  have hput : forall (buf : Buffer) (n : Nat),
      bytesOf (Function.update buf n b) (n + 1) = bytesOf buf n ++ [b] := by
    intro buf n
    unfold bytesOf
    rw [List.range_succ, List.map_append]
    congr 1
    · apply List.map_congr_left
      intro i hi
      have hlt := List.mem_range.mp hi
      exact Function.update_of_ne (by omega) ..
    · simp
  unfold stored holdByte held
  by_cases hfull : h.rawIndex >= HAL_RX_RAW_SIZE
  · have hfull' : HAL_RX_RAW_SIZE <= (bytesOf h.rawBuffer h.rawIndex).length := by
      simpa using hfull
    rw [if_pos hfull, if_pos hfull']
    exact hput h.rawBuffer 0
  · have hroom : ¬ HAL_RX_RAW_SIZE <= (bytesOf h.rawBuffer h.rawIndex).length := by
      simpa using hfull
    rw [if_neg hfull, if_neg hroom]
    exact hput h.rawBuffer h.rawIndex

theorem rawIndex_stored (h : Hal) (b : Byte) (hfits : h.rawIndex <= HAL_RX_RAW_SIZE) :
    (h.stored b).rawIndex <= HAL_RX_RAW_SIZE := by
  have h256 : HAL_RX_RAW_SIZE = 256 := rfl
  unfold stored
  split
  · simp only
    omega
  · rename_i hroom
    simp only
    omega

theorem stored_agrees (h : Hal) :
    forall i, i < h.rawIndex -> h.rawBuffer i = bufferOf h.held i := by
  intro i hi
  unfold held
  rw [bufferOf_bytesOf _ hi]

theorem length_held (h : Hal) : h.held.length = h.rawIndex := by
  simp [held]

theorem receiveByte_eq (h : Hal) (b : Byte) :
    h.receiveByte b =
      if (h.stored b).rawIndex >= (SP_HEADER_SIZE + 4#32).toNat then
        match spParsePacket (some (h.stored b).rawBuffer)
            (BitVec.ofNat 32 (h.stored b).rawIndex) (some default) with
        | (.ok, some packet) => (h.stored b).packetDone packet
        | (.errBufferTooSmall, _) => h.stored b
        | _ => { h.stored b with rawIndex := 0 }
      else h.stored b := rfl

section OneByte

variable {h : Hal} {b : Byte}

theorem toNat_rawIndex_stored (hfits : h.rawIndex <= HAL_RX_RAW_SIZE) :
    (BitVec.ofNat 32 (h.stored b).rawIndex).toNat = (h.stored b).rawIndex := by
  have h256 : HAL_RX_RAW_SIZE = 256 := rfl
  have hle := rawIndex_stored h b hfits
  rw [BitVec.toNat_ofNat]
  omega

theorem declaredLength_stored (hlen : 8 <= (h.stored b).rawIndex) :
    declaredLength (h.stored b).rawBuffer =
      declaredLength (bufferOf (h.stored b).held) := by
  apply declaredLength_congr
  intro i hi
  exact stored_agrees _ i (by omega)

theorem receiveByte_of_wait (hfits : h.rawIndex <= HAL_RX_RAW_SIZE)
    (hwait : halVerdict (h.stored b).held = .wait) :
    h.receiveByte b = h.stored b := by
  have h12 : (SP_HEADER_SIZE + 4#32).toNat = 12 := rfl
  rw [halVerdict_eq_wait_iff, length_held] at hwait
  rw [receiveByte_eq]
  by_cases hparse : (h.stored b).rawIndex >= (SP_HEADER_SIZE + 4#32).toNat
  · rw [if_pos hparse]
    have hdeclared := @declaredLength_stored h b (by omega)
    rw [spParsePacket_incomplete]
    rw [toNat_rawIndex_stored hfits, hdeclared]
    exact hwait
  · rw [if_neg hparse]

theorem declaredLength_of_not_wait (hh : Holding h)
    (hdone : halVerdict (h.stored b).held ≠ .wait) :
    12 <= (h.stored b).rawIndex ∧
      declaredLength (h.stored b).rawBuffer = (h.stored b).rawIndex := by
  rw [Ne, halVerdict_eq_wait_iff, length_held] at hdone
  have hwaits := hh.waits
  rw [halVerdict_eq_wait_iff, length_held] at hwaits
  have hlong : 12 <= (h.stored b).rawIndex := by omega
  have hdeclared := @declaredLength_stored h b (by omega)
  have hnext : (h.stored b).rawIndex = h.rawIndex + 1 := by
    unfold stored at hlong ⊢
    split
    · rename_i hfull
      rw [if_pos hfull] at hlong
      simp only at hlong
      omega
    · rfl
  refine ⟨hlong, ?_⟩
  rw [hdeclared]
  by_cases hshort : h.rawIndex < 12
  · omega
  · -- the header was complete before, so it declared the same length then
    have hhead : declaredLength (bufferOf (h.stored b).held) =
        declaredLength (bufferOf h.held) := by
      apply declaredLength_congr
      intro i hi
      have hroom : ¬ HAL_RX_RAW_SIZE <= h.held.length := by
        intro hfull
        rw [length_held] at hfull
        unfold stored at hnext
        rw [if_pos hfull] at hnext
        simp only at hnext
        omega
      rw [held_stored, holdByte, if_neg hroom]
      apply bufferOf_append_left
      rw [length_held]
      omega
    rw [hhead] at hdone ⊢
    omega

theorem spParsePacket_stored (hh : Holding h)
    (hdone : halVerdict (h.stored b).held ≠ .wait) :
    spParsePacket (some (h.stored b).rawBuffer)
        (BitVec.ofNat 32 (h.stored b).rawIndex) (some default) =
      if ChecksumMatches (h.stored b).rawBuffer (h.stored b).rawIndex then
        (.ok, some (parsedPacket (h.stored b).rawBuffer))
      else (.errCrcMismatch, some default) := by
  rcases declaredLength_of_not_wait hh hdone with ⟨hlong, hlength⟩
  rw [spParsePacket_complete]
  · rw [hlength]
  · omega
  · rw [hlength, toNat_rawIndex_stored hh.fits]

theorem halVerdict_stored (hh : Holding h)
    (hdone : halVerdict (h.stored b).held ≠ .wait) :
    halVerdict (h.stored b).held =
      if ChecksumMatches (h.stored b).rawBuffer (h.stored b).rawIndex then
        .accept (packetContent (h.stored b).rawBuffer)
      else .drop := by
  have h256 : HAL_RX_RAW_SIZE = 256 := rfl
  have hle := rawIndex_stored h b hh.fits
  rcases declaredLength_of_not_wait hh hdone with ⟨hlong, hlength⟩
  have hdeclared := @declaredLength_stored h b (by omega)
  have hsum : ChecksumMatches (bufferOf (h.stored b).held) (h.stored b).rawIndex <->
      ChecksumMatches (h.stored b).rawBuffer (h.stored b).rawIndex := by
    apply checksumMatches_congr (by omega) (by omega)
    intro i hi
    exact (stored_agrees _ i hi).symm
  have hcontent : packetContent (bufferOf (h.stored b).held) =
      packetContent (h.stored b).rawBuffer := by
    apply packetContent_congr (n := (h.stored b).rawIndex) (by omega)
    · rw [← hdeclared, hlength]
    · intro i hi
      exact (stored_agrees _ i hi).symm
  have hnot : ¬ ((h.stored b).held.length < 12 ∨
      declaredLength (bufferOf (h.stored b).held) < 12 ∨
      (h.stored b).held.length < declaredLength (bufferOf (h.stored b).held)) := by
    rw [length_held, ← hdeclared, hlength]
    omega
  rw [halVerdict_decided hnot, ← hdeclared, hlength, hcontent]
  by_cases hmatch : ChecksumMatches (h.stored b).rawBuffer (h.stored b).rawIndex
  · rw [if_pos hmatch, if_pos (hsum.mpr hmatch)]
  · rw [if_neg hmatch, if_neg (fun hm => hmatch (hsum.mp hm))]

/-- Neither the cap nor the moving branch of the `SP_OK` case is taken. -/
theorem packetDone_whole {packet : SpParsedPacket}
    (hall : packet.packetLength.toNat = h.rawIndex)
    (hfits : h.rawIndex <= HAL_RX_RAW_SIZE) (hshort : packet.payloadLength.toNat <= 244) :
    h.packetDone packet =
      { h with
        pktCmd := packet.userField
        pktLen := packet.payloadLength.toNat
        pktPayload := fun i =>
          if i < packet.payloadLength.toNat then packet.payload i else h.pktPayload i
        pktReadPos := 0
        pktReady := true
        rawIndex := 0 } := by
  have h256 : HAL_RX_RAW_SIZE = 256 := rfl
  have hcap : ¬ packet.payloadLength.toNat > 255 := by omega
  have hmod : packet.packetLength.toNat % 2 ^ 32 = h.rawIndex := by omega
  simp only [packetDone, hmod, if_neg hcap, gt_iff_lt, Nat.lt_irrefl, if_false]

/-- A finished packet is as long as the raw buffer is full. -/
theorem lengths_of_done (hh : Holding h) (hdone : halVerdict (h.stored b).held ≠ .wait) :
    (parsedPacket (h.stored b).rawBuffer).packetLength.toNat = (h.stored b).rawIndex ∧
      (parsedPacket (h.stored b).rawBuffer).payloadLength.toNat =
        (h.stored b).rawIndex - 12 ∧
      (parsedPacket (h.stored b).rawBuffer).payloadLength.toNat <= 244 := by
  have h256 : HAL_RX_RAW_SIZE = 256 := rfl
  have hle := rawIndex_stored h b hh.fits
  rcases declaredLength_of_not_wait hh hdone with ⟨_, hlength⟩
  have hpayload : (parsedPacket (h.stored b).rawBuffer).payloadLength.toNat =
      (h.stored b).rawIndex - 12 := by
    simp only [parsedPacket, hlength, BitVec.toNat_ofNat]
    omega
  refine ⟨hlength, hpayload, ?_⟩
  omega

theorem receiveByte_of_done (hh : Holding h) (hdone : halVerdict (h.stored b).held ≠ .wait) :
    h.receiveByte b =
      if ChecksumMatches (h.stored b).rawBuffer (h.stored b).rawIndex then
        (h.stored b).packetDone (parsedPacket (h.stored b).rawBuffer)
      else { h.stored b with rawIndex := 0 } := by
  have h12 : (SP_HEADER_SIZE + 4#32).toNat = 12 := rfl
  rcases declaredLength_of_not_wait hh hdone with ⟨hlong, _⟩
  have hparse : (h.stored b).rawIndex >= (SP_HEADER_SIZE + 4#32).toNat := by omega
  rw [receiveByte_eq, if_pos hparse, spParsePacket_stored hh hdone]
  by_cases hmatch : ChecksumMatches (h.stored b).rawBuffer (h.stored b).rawIndex
  · rw [if_pos hmatch, if_pos hmatch]
  · rw [if_neg hmatch, if_neg hmatch]

theorem receiveByte_of_drop (hh : Holding h)
    (hdrop : halVerdict (h.stored b).held = .drop) :
    h.receiveByte b = { h.stored b with rawIndex := 0 } := by
  have hdone : halVerdict (h.stored b).held ≠ .wait := by
    rw [hdrop]
    intro hcontra
    cases hcontra
  have hverdict := halVerdict_stored hh hdone
  rw [receiveByte_of_done hh hdone]
  by_cases hmatch : ChecksumMatches (h.stored b).rawBuffer (h.stored b).rawIndex
  · rw [if_pos hmatch, hdrop] at hverdict
    cases hverdict
  · rw [if_neg hmatch]

theorem receiveByte_of_accept (hh : Holding h) {d : Delivery}
    (haccept : halVerdict (h.stored b).held = .accept d) :
    Offers (h.receiveByte b) d ∧ (h.receiveByte b).rawIndex = 0 ∧
      (h.receiveByte b).serial = h.serial := by
  have h256 : HAL_RX_RAW_SIZE = 256 := rfl
  have hle := rawIndex_stored h b hh.fits
  have hdone : halVerdict (h.stored b).held ≠ .wait := by
    rw [haccept]
    intro hcontra
    cases hcontra
  have hverdict := halVerdict_stored hh hdone
  rw [receiveByte_of_done hh hdone]
  by_cases hmatch : ChecksumMatches (h.stored b).rawBuffer (h.stored b).rawIndex
  · rw [if_pos hmatch, haccept] at hverdict
    cases hverdict
    rcases declaredLength_of_not_wait hh hdone with ⟨_, hlength⟩
    rcases lengths_of_done hh hdone with ⟨hall, hpayloadLength, hshort⟩
    rw [if_pos hmatch, packetDone_whole hall hle hshort, hpayloadLength]
    have hcontentLength : (packetContent (h.stored b).rawBuffer).2.length =
        (h.stored b).rawIndex - 12 := by
      simp [packetContent, hlength]
    refine ⟨?_, rfl, ?_⟩
    · constructor
      · rfl
      · rfl
      · exact hcontentLength.symm
      · rfl
      · rw [hcontentLength]
        simp only [packetContent, hlength]
        apply bytesOf_congr
        intro i hi
        rw [if_pos hi]
      · rw [hcontentLength]
        omega
    · unfold stored
      split <;> rfl
  · rw [if_neg hmatch, haccept] at hverdict
    cases hverdict

end OneByte

/-!
## The refinement

One byte moves the held bytes as the list receiver moves them, and fills the
slot exactly when that receiver cuts a frame.
-/

theorem receiveByte_refines {h : Hal} (b : Byte) (hh : Holding h)
    (hready : h.pktReady = false) :
    Holding (h.receiveByte b) ∧
      (h.receiveByte b).serial = h.serial ∧
      (h.receiveByte b).held = (receive HAL_RX_RAW_SIZE halVerdict h.held b).1 ∧
      (match (receive HAL_RX_RAW_SIZE halVerdict h.held b).2 with
        | none => (h.receiveByte b).pktReady = false
        | some d => Offers (h.receiveByte b) d) := by
  have hstoredSerial : (h.stored b).serial = h.serial := by
    unfold stored
    split <;> rfl
  have hstoredReady : (h.stored b).pktReady = false := by
    unfold stored
    split <;> exact hready
  unfold receive
  rw [← held_stored]
  cases hverdict : halVerdict (h.stored b).held with
  | wait =>
      rw [receiveByte_of_wait hh.fits hverdict]
      exact ⟨⟨rawIndex_stored h b hh.fits, hverdict⟩, hstoredSerial, rfl,
        hstoredReady⟩
  | drop =>
      rw [receiveByte_of_drop hh hverdict]
      exact ⟨holding_empty rfl, hstoredSerial, rfl, hstoredReady⟩
  | accept d =>
      rcases receiveByte_of_accept hh hverdict with ⟨hoffers, hzero, hserial⟩
      refine ⟨holding_empty hzero, hserial, ?_, hoffers⟩
      simp [held, bytesOf, hzero]

def queued (h : Hal) (future : List Byte) : List Delivery :=
  frames HAL_RX_RAW_SIZE halVerdict h.held (h.serial ++ future)

theorem queued_arrive (h : Hal) (bytes future : List Byte) :
    (h.arrive bytes).queued future = h.queued (bytes ++ future) := by
  simp only [queued, arrive, List.append_assoc]
  rfl

/-- The invariant of the receiver between two calls. -/
structure Receiving (h : Hal) : Prop where
  holding : Holding h
  pos : h.pktReady = true -> h.pktReadPos <= h.pktLen
  len : h.pktReady = true -> h.pktLen <= HAL_RX_RAW_SIZE - 12

theorem receiving_of_not_ready {h : Hal} (hh : Holding h)
    (hready : h.pktReady = false) : Receiving h := by
  constructor
  · exact hh
  · intro hcontra
    rw [hready] at hcontra
    cases hcontra
  · intro hcontra
    rw [hready] at hcontra
    cases hcontra

theorem receiving_init (h : Hal) : Receiving h.init :=
  receiving_of_not_ready (holding_init h) rfl

theorem receiving_arrive {h : Hal} (hr : Receiving h) (bytes : List Byte) :
    Receiving (h.arrive bytes) :=
  ⟨holding_of_eq (h := h) rfl rfl hr.holding, hr.pos, hr.len⟩

theorem Offers.receiving {h : Hal} {d : Delivery} (ho : Offers h d)
    (hh : Holding h) : Receiving h := by
  have hshort := ho.short
  have hlen := ho.len
  have hpos := ho.pos
  constructor
  · exact hh
  · intro _
    omega
  · intro _
    omega

theorem processLoop_refines :
    forall (bytes : List Byte) (h : Hal), Holding h -> h.pktReady = false ->
      Holding (processLoop h bytes) ∧
        ((processLoop h bytes).pktReady = false ∧
            (processLoop h bytes).serial = [] ∧
            (forall future, (processLoop h bytes).queued future =
              frames HAL_RX_RAW_SIZE halVerdict h.held (bytes ++ future)) ∨
          exists d, Offers (processLoop h bytes) d ∧
            forall future,
              frames HAL_RX_RAW_SIZE halVerdict h.held (bytes ++ future) =
                d :: (processLoop h bytes).queued future) := by
  intro bytes
  induction bytes with
  | nil =>
      intro h hh hready
      refine ⟨?_, Or.inl ⟨hready, rfl, fun _ => rfl⟩⟩
      exact holding_of_eq (h := h) rfl rfl hh
  | cons b rest ih =>
      intro h hh hready
      rcases receiveByte_refines b hh hready with ⟨hh', _, hheld, hslot⟩
      unfold processLoop
      cases hframe : (receive HAL_RX_RAW_SIZE halVerdict h.held b).2 with
      | none =>
          rw [hframe] at hslot
          simp only at hslot
          rw [if_neg (by simp [hslot])]
          rcases ih (h.receiveByte b) hh' hslot with ⟨hloop, hcase⟩
          refine ⟨hloop, ?_⟩
          simp only [List.cons_append, frames, hframe, ← hheld, Option.toList,
            List.nil_append]
          exact hcase
      | some d =>
          rw [hframe] at hslot
          simp only at hslot
          rw [if_pos hslot.ready]
          refine ⟨?_, Or.inr ⟨d, ?_, ?_⟩⟩
          · exact holding_of_eq (h := h.receiveByte b) rfl rfl hh'
          · exact ⟨hslot.ready, hslot.cmd, hslot.len, hslot.pos, hslot.payload,
              hslot.short⟩
          · intro future
            simp only [List.cons_append, frames, hframe, ← hheld, Option.toList]
            rfl

/-- What one call of `process_serial` does to the slot and to the queue. -/
inductive SerialStep (h h' : Hal) : Prop where
  | busy (ready : h.pktReady = true) (same : h' = h)
  | starved (ready : h.pktReady = false) (ready' : h'.pktReady = false)
      (drained : h'.serial = [])
      (queue : forall future, h'.queued future = h.queued future)
  | filled (ready : h.pktReady = false) (d : Delivery) (offers : Offers h' d)
      (queue : forall future, h.queued future = d :: h'.queued future)

theorem processSerial_step {h : Hal} (hr : Receiving h) :
    Receiving h.processSerial ∧ SerialStep h h.processSerial := by
  unfold processSerial
  cases hready : h.pktReady with
  | true =>
      rw [if_pos rfl]
      exact ⟨hr, SerialStep.busy hready rfl⟩
  | false =>
      rw [if_neg (by simp)]
      rcases processLoop_refines h.serial h hr.holding hready with
        ⟨hh, ⟨hready', hserial, hqueue⟩ | ⟨d, hoffers, hqueue⟩⟩
      · exact ⟨receiving_of_not_ready hh hready',
          SerialStep.starved hready hready' hserial hqueue⟩
      · exact ⟨hoffers.receiving hh, SerialStep.filled hready d hoffers hqueue⟩

end Hal
end ArduOS
