import ArduOS.HAL.Consumers

/-!
# Delivery with one consumer

Packets of the encoder, sent back to back, come out of the receiver in order
and complete, whatever the bursts they arrive in and whenever it is polled.
-/

namespace ArduOS

open Library Hal

/-!
## The receiver decides by the header
-/

def spanOf (stream : Buffer) : Nat :=
  if 12 <= declaredLength stream ∧ declaredLength stream <= HAL_RX_RAW_SIZE then
    declaredLength stream
  else HAL_RX_RAW_SIZE

def frameOf (stream : Buffer) : Option Delivery :=
  if 12 <= declaredLength stream ∧ declaredLength stream <= HAL_RX_RAW_SIZE ∧
      ChecksumMatches stream (declaredLength stream) then
    some (packetContent stream)
  else none

theorem declaredLength_takeFrom (stream : Buffer) {n : Nat} (hn : 8 <= n) :
    declaredLength (bufferOf (takeFrom stream n)) = declaredLength stream := by
  apply declaredLength_congr
  intro i hi
  exact bufferOf_bytesOf stream (by omega)

theorem halVerdict_delimits :
    Delimits HAL_RX_RAW_SIZE halVerdict spanOf frameOf := by
  have h256 : HAL_RX_RAW_SIZE = 256 := rfl
  constructor
  · intro s
    unfold spanOf
    split <;> omega
  · intro s
    unfold spanOf
    split <;> omega
  · intro s n hn
    apply halVerdict_wait
    rw [length_takeFrom]
    by_cases hshort : n < 12
    · exact Or.inl hshort
    · right
      rw [declaredLength_takeFrom s (by omega)]
      unfold spanOf at hn
      split at hn <;> omega
  · intro s
    by_cases hrange : 12 <= declaredLength s ∧ declaredLength s <= HAL_RX_RAW_SIZE
    · have hspan : spanOf s = declaredLength s := if_pos hrange
      have hagree : forall i, i < declaredLength s ->
          bufferOf (takeFrom s (declaredLength s)) i = s i := by
        intro i hi
        exact bufferOf_bytesOf s hi
      have hlength : declaredLength (bufferOf (takeFrom s (declaredLength s))) =
          declaredLength s := declaredLength_takeFrom s (by omega)
      have hsum : ChecksumMatches (bufferOf (takeFrom s (declaredLength s)))
          (declaredLength s) <-> ChecksumMatches s (declaredLength s) :=
        checksumMatches_congr (by omega) (by omega) hagree
      have hlong : ¬ ((takeFrom s (declaredLength s)).length < 12 ∨
          declaredLength (bufferOf (takeFrom s (declaredLength s))) < 12 ∨
          (takeFrom s (declaredLength s)).length <
            declaredLength (bufferOf (takeFrom s (declaredLength s)))) := by
        rw [length_takeFrom, hlength]
        omega
      rw [hspan]
      by_cases hmatch : ChecksumMatches s (declaredLength s)
      · left
        refine ⟨packetContent s, ?_, ?_⟩
        · rw [halVerdict_decided hlong, hlength, if_pos (hsum.mpr hmatch)]
          congr 1
          apply packetContent_congr (n := declaredLength s) (by omega)
          · rw [hlength]
          · exact hagree
        · unfold frameOf
          rw [if_pos ⟨hrange.left, hrange.right, hmatch⟩]
      · right
        left
        constructor
        · rw [halVerdict_decided hlong, hlength,
            if_neg (fun hm => hmatch (hsum.mp hm))]
        · unfold frameOf
          rw [if_neg (fun h => hmatch h.right.right)]
    · -- no length the buffer can hold: nothing is decided until it is full
      have hspan : spanOf s = HAL_RX_RAW_SIZE := if_neg hrange
      right
      right
      rw [hspan]
      refine ⟨?_, ?_, rfl⟩
      · apply halVerdict_wait
        rw [length_takeFrom, declaredLength_takeFrom s (by omega)]
        omega
      · unfold frameOf
        rw [if_neg (fun h => hrange ⟨h.left, h.right.left⟩)]

/-!
## Packets of the encoder
-/

section Packets

variable {fragFlag payloadType : Byte} {userField : BitVec 16}
  {payload : List Byte}

theorem spanOf_packet (hargs : EncoderArguments fragFlag payloadType userField)
    (hfit : payload.length + 12 <= HAL_RX_RAW_SIZE) {stream : Buffer}
    (h : StartsWith stream (packetBytes fragFlag payloadType userField payload)) :
    spanOf stream = payload.length + 12 ∧
      frameOf stream = some (userField, payload) := by
  have h256 : HAL_RX_RAW_SIZE = 256 := rfl
  have hstart : forall i, i < payload.length + 12 -> stream i =
      bufferOf (packetBytes fragFlag payloadType userField payload) i := by
    intro i hi
    exact h i (by simpa using hi)
  have hlength : declaredLength stream = payload.length + 12 :=
    declaredLength_packet hargs (by omega) (by omega) hstart
  have hmatch := checksumMatches_packet (by omega) h
  have hreport := parsedPacket_reports hargs (by omega) h
  constructor
  · unfold spanOf
    rw [hlength, if_pos (by omega)]
  · unfold frameOf
    rw [hlength, if_pos ⟨by omega, by omega, hmatch⟩]
    unfold packetContent
    rw [hreport.user, hlength, Nat.add_sub_cancel, hreport.bytes]

theorem frames_packet (hargs : EncoderArguments fragFlag payloadType userField)
    (hfit : payload.length + 12 <= HAL_RX_RAW_SIZE) (rest : List Byte) :
    frames HAL_RX_RAW_SIZE halVerdict []
        (packetBytes fragFlag payloadType userField payload ++ rest) =
      (userField, payload) :: frames HAL_RX_RAW_SIZE halVerdict [] rest := by
  let bytes := packetBytes fragFlag payloadType userField payload
  let stream := bufferOf (bytes ++ rest)
  have hlen : bytes.length = payload.length + 12 := length_packetBytes
  rcases spanOf_packet hargs hfit (startsWith_append bytes rest) with
    ⟨hspan, hframe⟩
  have hall : takeFrom stream (bytes ++ rest).length = bytes ++ rest :=
    bytesOf_bufferOf (bytes ++ rest)
  have hrest : takeFrom (shift stream (payload.length + 12)) rest.length = rest := by
    have hsplit := takeFrom_add stream (payload.length + 12) rest.length
    rw [← hlen, ← List.length_append, hall] at hsplit
    have hparts := List.append_inj hsplit (by simp)
    rw [← hlen]
    exact hparts.right.symm
  have hspan' := halVerdict_delimits.frames_span stream (r := 0)
    (n := (bytes ++ rest).length) (halVerdict_delimits.pos stream) (by
      rw [hspan, List.length_append, hlen]
      omega)
  rw [shift_zero, hall, hspan, hframe, List.length_append, hlen, Nat.zero_add,
    Nat.add_sub_cancel_left, hrest] at hspan'
  exact hspan'

end Packets

def Produces (bytes : List Byte) (d : Delivery) : Prop :=
  exists (ptr : Option Buffer) (payloadLength : BitVec 32)
      (fragFlag payloadType : Byte) (out : Buffer) (outBufferCap outLength : BitVec 32)
      (written : Buffer) (length : BitVec 32),
    payloadLength.toNat = d.2.length ∧ PointsTo ptr d.2 ∧
      spEncodePacketBuffer ptr payloadLength fragFlag payloadType d.1 (some out)
          outBufferCap (some outLength) =
        { result := .ok, outBuffer := some written, outLength := some length } ∧
      bytes = bytesOf written length.toNat

theorem packetBytes_of_produces {bytes : List Byte} {d : Delivery}
    (h : Produces bytes d) :
    exists fragFlag payloadType, EncoderArguments fragFlag payloadType d.1 ∧
      bytes = packetBytes fragFlag payloadType d.1 d.2 := by
  rcases h with ⟨ptr, payloadLength, fragFlag, payloadType, out, outBufferCap,
    outLength, written, length, hlen, hptr, henc, hbytes⟩
  have hok := congrArg SpEncoded.result henc
  rcases arguments_of_ok hok with ⟨hargs, hcap⟩
  have hcap32 := outBufferCap.isLt
  have hlength : payloadLength = BitVec.ofNat 32 d.2.length := by
    rw [← hlen, BitVec.ofNat_toNat, BitVec.setWidth_eq]
  rw [hlength, spEncodePacketBuffer_ok hargs hptr (by omega)] at henc
  simp only [SpEncoded.mk.injEq, Option.some.injEq, true_and] at henc
  rcases henc with ⟨hwritten, htotal⟩
  refine ⟨fragFlag, payloadType, hargs, ?_⟩
  rw [hbytes, ← hwritten, ← htotal, BitVec.toNat_ofNat,
    Nat.mod_eq_of_lt (by omega)]
  apply bytesOf_congr
  intro i hi
  rw [packetImage_eq _ hi, packetImage_eq _ hi]

/-- A packet of the encoder that the receiver has room for. -/
structure SentPacket where
  bytes : List Byte
  content : Delivery
  produced : Produces bytes content
  fits : bytes.length <= HAL_RX_RAW_SIZE

def sentPacket (fragFlag payloadType : Byte) (userField : BitVec 16)
    (payload : List Byte) (hargs : EncoderArguments fragFlag payloadType userField)
    (hfit : payload.length + 12 <= HAL_RX_RAW_SIZE) : SentPacket where
  bytes := packetBytes fragFlag payloadType userField payload
  content := (userField, payload)
  produced := by
    have h256 : HAL_RX_RAW_SIZE = 256 := rfl
    refine ⟨some (bufferOf payload), BitVec.ofNat 32 payload.length, fragFlag,
      payloadType, fun _ => 0#8, BitVec.ofNat 32 (payload.length + 12), 0#32, _, _,
      ?_, ?_, spEncodePacketBuffer_ok hargs ?_ ?_ _ _, ?_⟩
    · rw [BitVec.toNat_ofNat]
      exact Nat.mod_eq_of_lt (by omega)
    · exact bytesOf_bufferOf payload
    · exact bytesOf_bufferOf payload
    · rw [BitVec.toNat_ofNat]
      omega
    · rw [BitVec.toNat_ofNat, Nat.mod_eq_of_lt (by omega)]
      rfl
  fits := by
    rw [length_packetBytes]
    exact hfit

theorem execArguments : EncoderArguments SP_UNFRAGED PT_STRING SYS_EXEC :=
  ⟨by decide, by decide, by decide⟩

theorem lsArguments : EncoderArguments SP_UNFRAGED PT_STRING SYS_LS :=
  ⟨by decide, by decide, by decide⟩

theorem stdinArguments : EncoderArguments SP_UNFRAGED PT_STRING CMD_STDIN :=
  ⟨by decide, by decide, by decide⟩

def stream (packets : List SentPacket) : List Byte :=
  (packets.map SentPacket.bytes).flatten

theorem frames_stream (packets : List SentPacket) :
    frames HAL_RX_RAW_SIZE halVerdict [] (stream packets) =
      packets.map SentPacket.content := by
  induction packets with
  | nil => rfl
  | cons p ps ih =>
      rcases packetBytes_of_produces p.produced with
        ⟨fragFlag, payloadType, hargs, hbytes⟩
      have hfits := p.fits
      rw [hbytes, length_packetBytes] at hfits
      have hsplit : stream (p :: ps) = p.bytes ++ stream ps := by
        simp [stream]
      rw [hsplit, hbytes, frames_packet hargs hfits, ih]
      rfl

/-!
## Schedules
-/

/-- What happens at the receiver: a burst arrives, or the consumer polls. -/
inductive SerialEvent where
  | burst (bytes : List Byte)
  | poll

def arrivals : List SerialEvent -> List Byte
  | [] => []
  | .burst bytes :: events => bytes ++ arrivals events
  | .poll :: events => arrivals events

/-- The non-negative results of `HAL_readPacket`, polled into `payloadOut`. -/
def packetRun (cmdOut : BitVec 16) :
    Hal -> Buffer -> List SerialEvent -> List Delivery × Hal
  | h, _, [] => ([], h)
  | h, payloadOut, .burst bytes :: events =>
      packetRun cmdOut (h.arrive bytes) payloadOut events
  | h, payloadOut, .poll :: events =>
      let r := h.readPacket cmdOut payloadOut RX_BUFFER_SIZE
      let rest := packetRun cmdOut r.2 r.1.payloadOut events
      (r.1.delivered.toList ++ rest.1, rest.2)

/-- The results of `HAL_read(FD_STDIN)` other than `-1`. -/
def byteRun : Hal -> List SerialEvent -> List Int × Hal
  | h, [] => ([], h)
  | h, .burst bytes :: events => byteRun (h.arrive bytes) events
  | h, .poll :: events =>
      let r := h.read FD_STDIN
      let rest := byteRun r.2 events
      ((byteRead r.1).toList ++ rest.1, rest.2)

theorem packetRun_spec (cmdOut : BitVec 16) :
    forall (events : List SerialEvent) (h : Hal) (payloadOut : Buffer),
      Receiving h ->
      Receiving (packetRun cmdOut h payloadOut events).2 ∧
        forall future, h.pending (arrivals events ++ future) =
          (packetRun cmdOut h payloadOut events).1 ++
            (packetRun cmdOut h payloadOut events).2.pending future := by
  intro events
  induction events with
  | nil =>
      intro h payloadOut hr
      exact ⟨hr, fun _ => rfl⟩
  | cons e events ih =>
      intro h payloadOut hr
      cases e with
      | burst bytes =>
          rcases ih (h.arrive bytes) payloadOut (receiving_arrive hr bytes) with
            ⟨hr', hpending⟩
          refine ⟨hr', ?_⟩
          intro future
          rw [arrivals, List.append_assoc, ← pending_arrive, hpending]
          rfl
      | poll =>
          rcases readPacket_spec hr cmdOut payloadOut with ⟨hr', _, hpoll⟩
          rcases ih _ (h.readPacket cmdOut payloadOut RX_BUFFER_SIZE).1.payloadOut
            hr' with ⟨hr'', hpending⟩
          refine ⟨hr'', ?_⟩
          intro future
          rw [arrivals, hpoll, hpending]
          simp only [packetRun, List.append_assoc]

theorem byteRun_spec :
    forall (events : List SerialEvent) (h : Hal), Receiving h ->
      Receiving (byteRun h events).2 ∧
        forall future, (h.unread (arrivals events ++ future)).map ofByte =
          (byteRun h events).1 ++
            ((byteRun h events).2.unread future).map ofByte := by
  intro events
  induction events with
  | nil =>
      intro h hr
      exact ⟨hr, fun _ => rfl⟩
  | cons e events ih =>
      intro h hr
      cases e with
      | burst bytes =>
          rcases ih (h.arrive bytes) (receiving_arrive hr bytes) with ⟨hr', hunread⟩
          refine ⟨hr', ?_⟩
          intro future
          rw [arrivals, List.append_assoc, ← unread_arrive, hunread]
          rfl
      | poll =>
          rcases read_spec hr with ⟨hr', _, hpoll⟩
          rcases ih _ hr' with ⟨hr'', hunread⟩
          refine ⟨hr'', ?_⟩
          intro future
          rw [arrivals, hpoll, hunread]
          simp only [byteRun, List.append_assoc]

/-!
## Enough polls
-/

theorem length_pending_readPacket {h : Hal} (hr : Receiving h) (cmdOut : BitVec 16)
    (payloadOut : Buffer) {n : Nat} (hn : (h.pending []).length <= n + 1) :
    ((h.readPacket cmdOut payloadOut RX_BUFFER_SIZE).2.pending []).length <= n := by
  rcases readPacket_spec hr cmdOut payloadOut with ⟨_, hslot, hpoll⟩
  rw [hpoll [], List.length_append] at hn
  cases hready : h.processSerial.pktReady with
  | true =>
      have hone : h.processSerial.slot.length = 1 := by simp [slot, hready]
      rw [hslot, hone] at hn
      omega
  | false =>
      have hnil := pending_nil_of_not_ready hr hready
      rw [hpoll [], List.append_eq_nil_iff] at hnil
      simp [hnil.right]

theorem packetRun_polls (cmdOut : BitVec 16) :
    forall (n : Nat) (h : Hal) (payloadOut : Buffer), Receiving h ->
      (h.pending []).length <= n ->
      ((packetRun cmdOut h payloadOut (List.replicate n .poll)).2.pending []) = [] := by
  intro n
  induction n with
  | zero =>
      intro h payloadOut hr hn
      exact List.length_eq_zero_iff.mp (Nat.le_zero.mp hn)
  | succ n ih =>
      intro h payloadOut hr hn
      rcases readPacket_spec hr cmdOut payloadOut with ⟨hr', _, _⟩
      exact ih _ _ hr' (length_pending_readPacket hr cmdOut payloadOut hn)

def readsLeft (h : Hal) (future : List Byte) : Nat :=
  (if h.pktReady then h.pktLen - h.pktReadPos + 1 else 0) +
    ((h.queued future).map fun d => d.2.length + 1).sum

theorem readsLeft_processSerial {h : Hal} (hr : Receiving h) (future : List Byte) :
    readsLeft h.processSerial future = readsLeft h future := by
  unfold readsLeft
  cases (processSerial_step hr).right with
  | busy _ hsame => rw [hsame]
  | starved hready hready' _ hqueue => simp [hready, hready', hqueue]
  | filled hready d hoffers hqueue =>
      simp [hready, hoffers.ready, hoffers.len, hoffers.pos, hqueue]

theorem readsLeft_read {h : Hal} (hr : Receiving h) {n : Nat}
    (hn : readsLeft h [] <= n + 1) : readsLeft (h.read FD_STDIN).2 [] <= n := by
  rw [← readsLeft_processSerial hr] at hn
  have hnil := pending_nil_of_not_ready hr
  rw [← pending_processSerial hr] at hnil
  have hstep := read_step h
  generalize (h.read FD_STDIN).1 = result at hstep
  generalize (h.read FD_STDIN).2 = after at hstep ⊢
  cases hstep with
  | nothing hready =>
      have hqueue := List.append_eq_nil_iff.mp (hnil hready)
      simp [readsLeft, hready, hqueue.right]
  | byte hready hpos =>
      have hqueued : Hal.queued { h.processSerial with
          pktReadPos := h.processSerial.pktReadPos + 1 } [] =
            h.processSerial.queued [] := rfl
      unfold readsLeft at hn ⊢
      rw [hqueued]
      simp only [hready, if_true] at hn ⊢
      omega
  | finished hready hpos =>
      have hqueued : Hal.queued { h.processSerial with pktReady := false } [] =
          h.processSerial.queued [] := rfl
      unfold readsLeft at hn ⊢
      rw [hqueued]
      simp only [hready, if_true] at hn
      simp only [Bool.false_eq_true, if_false]
      omega

theorem readsLeft_read_le {h : Hal} (hr : Receiving h) (future : List Byte) :
    readsLeft (h.read FD_STDIN).2 future <= readsLeft h future := by
  rw [← readsLeft_processSerial hr]
  have hstep := read_step h
  generalize (h.read FD_STDIN).1 = result at hstep
  generalize (h.read FD_STDIN).2 = after at hstep ⊢
  cases hstep with
  | nothing _ => exact Nat.le_refl _
  | byte hready hpos =>
      have hqueued : Hal.queued { h.processSerial with
          pktReadPos := h.processSerial.pktReadPos + 1 } future =
            h.processSerial.queued future := rfl
      unfold readsLeft
      rw [hqueued]
      simp only [hready, if_true]
      omega
  | finished hready hpos =>
      have hqueued : Hal.queued { h.processSerial with pktReady := false } future =
          h.processSerial.queued future := rfl
      unfold readsLeft
      rw [hqueued]
      simp only [hready, if_true, Bool.false_eq_true, if_false]
      omega

theorem readsLeft_byteRun :
    forall (events : List SerialEvent) (h : Hal) (future : List Byte), Receiving h ->
      readsLeft (byteRun h events).2 future <=
        readsLeft h (arrivals events ++ future) := by
  intro events
  induction events with
  | nil =>
      intro h future _
      exact Nat.le_refl _
  | cons e events ih =>
      intro h future hr
      cases e with
      | burst bytes =>
          have hle := ih (h.arrive bytes) future (receiving_arrive hr bytes)
          have hsame : readsLeft (h.arrive bytes) (arrivals events ++ future) =
              readsLeft h (bytes ++ (arrivals events ++ future)) := by
            unfold readsLeft
            rw [queued_arrive]
            rfl
          rw [hsame, ← List.append_assoc] at hle
          exact hle
      | poll =>
          rcases read_spec hr with ⟨hr', _, _⟩
          exact Nat.le_trans (ih _ future hr') (readsLeft_read_le hr _)

theorem byteRun_polls :
    forall (n : Nat) (h : Hal), Receiving h -> readsLeft h [] <= n ->
      (byteRun h (List.replicate n .poll)).2.unread [] = [] := by
  intro n
  induction n with
  | zero =>
      intro h hr hn
      have hzero : readsLeft h [] = 0 := by omega
      unfold readsLeft at hzero
      cases hready : h.pktReady with
      | true =>
          rw [hready] at hzero
          simp at hzero
      | false =>
          rw [hready] at hzero
          have hqueue : h.queued [] = [] := by
            cases hq : h.queued [] with
            | nil => rfl
            | cons d ds =>
                rw [hq] at hzero
                simp at hzero
          simp [byteRun, unread, unreadSlot_of_not_ready hready, hqueue]
  | succ n ih =>
      intro h hr hn
      rcases read_spec hr with ⟨hr', _, _⟩
      exact ih _ hr' (readsLeft_read hr hn)

/-!
## A run followed by polls
-/

theorem arrivals_polls (events : List SerialEvent) (n : Nat) :
    arrivals (events ++ List.replicate n .poll) = arrivals events := by
  induction events with
  | nil =>
      induction n with
      | zero => rfl
      | succ n ih => exact ih
  | cons e events ih =>
      cases e with
      | burst bytes => simp only [List.cons_append, arrivals, ih]
      | poll => exact ih

theorem packetRun_append (cmdOut : BitVec 16) (later : List SerialEvent) :
    forall (events : List SerialEvent) (h : Hal) (payloadOut : Buffer),
      exists payloadOut',
        (packetRun cmdOut h payloadOut (events ++ later)).2 =
          (packetRun cmdOut (packetRun cmdOut h payloadOut events).2 payloadOut'
            later).2 := by
  intro events
  induction events with
  | nil =>
      intro h payloadOut
      exact ⟨payloadOut, rfl⟩
  | cons e events ih =>
      intro h payloadOut
      cases e with
      | burst bytes => exact ih (h.arrive bytes) payloadOut
      | poll => exact ih _ _

theorem byteRun_append (later : List SerialEvent) :
    forall (events : List SerialEvent) (h : Hal),
      (byteRun h (events ++ later)).2 = (byteRun (byteRun h events).2 later).2 := by
  intro events
  induction events with
  | nil =>
      intro h
      rfl
  | cons e events ih =>
      intro h
      cases e with
      | burst bytes => exact ih (h.arrive bytes)
      | poll => exact ih _

theorem pending_init (h : Hal) (packets : List SentPacket) :
    h.init.pending (stream packets) = packets.map SentPacket.content := by
  have hheld : h.init.held = [] := by simp [Hal.held, bytesOf, Hal.init]
  unfold pending queued
  rw [slot_of_not_ready rfl, hheld]
  exact frames_stream packets

theorem unread_init (h : Hal) (packets : List SentPacket) :
    h.init.unread (stream packets) =
      (packets.map fun p => p.content.2).flatten := by
  have hheld : h.init.held = [] := by simp [Hal.held, bytesOf, Hal.init]
  have hqueued : h.init.queued (stream packets) =
      packets.map SentPacket.content := by
    unfold queued
    rw [hheld]
    exact frames_stream packets
  unfold unread
  rw [unreadSlot_of_not_ready rfl, hqueued, List.map_map]
  rfl

/--
With one consumer every packet is handed over once, complete and in order: at
any moment a prefix of what was sent, and all of it after enough polls.
-/
theorem delivery_with_one_consumer (packets : List SentPacket) (h : Hal)
    (cmdOut : BitVec 16) (payloadOut : Buffer) (events : List SerialEvent)
    (missing : List Byte) (hsent : arrivals events ++ missing = stream packets) :
    ((packetRun cmdOut h.init payloadOut events).1 <+:
        packets.map SentPacket.content ∧
      (missing = [] -> forall n, packets.length <= n ->
        (packetRun cmdOut h.init payloadOut
            (events ++ List.replicate n .poll)).1 =
          packets.map SentPacket.content)) ∧
    ((byteRun h.init events).1 <+:
        (packets.map fun p => p.content.2).flatten.map ofByte ∧
      (missing = [] ->
        forall n, (packets.map fun p => p.content.2.length + 1).sum <= n ->
        (byteRun h.init (events ++ List.replicate n .poll)).1 =
          (packets.map fun p => p.content.2).flatten.map ofByte)) := by
  have hr := receiving_init h
  refine ⟨⟨?_, ?_⟩, ?_, ?_⟩
  · rcases packetRun_spec cmdOut events h.init payloadOut hr with ⟨_, hpending⟩
    refine ⟨(packetRun cmdOut h.init payloadOut events).2.pending missing, ?_⟩
    rw [← hpending, hsent, pending_init]
  · intro hmissing n hn
    rw [hmissing, List.append_nil] at hsent
    rcases packetRun_spec cmdOut events h.init payloadOut hr with ⟨hr', hpending⟩
    rcases packetRun_append cmdOut (List.replicate n .poll) events h.init
      payloadOut with ⟨payloadOut', hstate⟩
    have hleft : ((packetRun cmdOut h.init payloadOut events).2.pending []).length
        <= n := by
      have hall := hpending []
      rw [List.append_nil, hsent, pending_init] at hall
      have hlen := congrArg List.length hall
      rw [List.length_append, List.length_map] at hlen
      omega
    have hdone := packetRun_polls cmdOut n _ payloadOut' hr' hleft
    rw [← hstate] at hdone
    rcases packetRun_spec cmdOut (events ++ List.replicate n .poll) h.init
      payloadOut hr with ⟨_, hwhole⟩
    have hall := hwhole []
    rw [arrivals_polls, List.append_nil, hsent, pending_init, hdone,
      List.append_nil] at hall
    exact hall.symm
  · rcases byteRun_spec events h.init hr with ⟨_, hunread⟩
    refine ⟨((byteRun h.init events).2.unread missing).map ofByte, ?_⟩
    rw [← hunread, hsent, unread_init]
  · intro hmissing n hn
    rw [hmissing, List.append_nil] at hsent
    rcases byteRun_spec events h.init hr with ⟨hr', hunread⟩
    have hheld : h.init.held = [] := by simp [Hal.held, bytesOf, Hal.init]
    have hleft : readsLeft (byteRun h.init events).2 [] <= n := by
      refine Nat.le_trans (readsLeft_byteRun events h.init [] hr) ?_
      have hqueued : h.init.queued (arrivals events ++ []) =
          packets.map SentPacket.content := by
        unfold queued
        rw [List.append_nil, hsent, hheld]
        exact frames_stream packets
      unfold readsLeft
      rw [hqueued, List.map_map]
      simp only [Hal.init, Bool.false_eq_true, if_false, Nat.zero_add]
      exact hn
    have hdone := byteRun_polls n _ hr' hleft
    rw [← byteRun_append] at hdone
    rcases byteRun_spec (events ++ List.replicate n .poll) h.init hr with
      ⟨_, hwhole⟩
    have hall := hwhole []
    rw [arrivals_polls, List.append_nil, hsent, unread_init, hdone, List.map_nil,
      List.append_nil] at hall
    exact hall.symm

/-- A listing request and a key press, the first cut in two by a poll. -/
theorem delivery_of_request_and_key :
    let packets :=
      [sentPacket SP_UNFRAGED PT_STRING SYS_LS (text "/bin") lsArguments (by decide),
      sentPacket SP_UNFRAGED PT_STRING CMD_STDIN (text "y") stdinArguments (by decide)]
    (packetRun 0#16 Hal.reset.init (fun _ => 0#8)
        ([.burst ((stream packets).take 9), .poll, .burst ((stream packets).drop 9)] ++
          List.replicate 2 .poll)).1 =
      [(SYS_LS, text "/bin"), (CMD_STDIN, text "y")] := by
  intro packets
  have hsent : arrivals [.burst ((stream packets).take 9), .poll,
      .burst ((stream packets).drop 9)] ++ [] = stream packets := by
    simp [arrivals]
  exact (delivery_with_one_consumer packets Hal.reset 0#16 (fun _ => 0#8) _ []
    hsent).left.right rfl 2 (Nat.le_refl 2)

end ArduOS
