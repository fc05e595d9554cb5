import ArduOS.HAL.Resync

/-!
# What the receiver waits for

The parser answers an impossible length as it answers an incomplete packet, and
the receiver keeps the bytes.  It waits for a packet that can still arrive at
every return if and only if every length field it meets in the stream announces
a packet that fits the raw buffer.
-/

namespace ArduOS

open Library Hal

/--
The states that the bytes `past`, received in any bursts, and any calls of the
two consumers lead to.
-/
inductive Received : List Byte -> Hal -> Prop where
  | init (h : Hal) : Received [] h.init
  | arrive {past : List Byte} {h : Hal} (hf : Received past h) (bytes : List Byte) :
      Received (past ++ bytes) (h.arrive bytes)
  | packet {past : List Byte} {h : Hal} (hf : Received past h) (cmdOut : BitVec 16)
      (payloadOut : Buffer) (maxLen : Nat) :
      Received past (h.readPacket cmdOut payloadOut maxLen).2
  | byte {past : List Byte} {h : Hal} (hf : Received past h) (fd : Int) :
      Received past (h.read fd).2

/-- With no packet ready, the bytes held can still become one in the raw buffer. -/
def Hal.Completable (h : Hal) : Prop :=
  h.pktReady = false -> 12 <= h.rawIndex ->
    h.rawIndex < declaredLength h.rawBuffer ∧ declaredLength h.rawBuffer <= HAL_RX_RAW_SIZE

/--
Every length field in a stream that is cut where these fields say announces at
least a header and a checksum, and no more than the raw buffer holds.
-/
inductive WellAnnounced : List Byte -> Prop where
  | short {bytes : List Byte} (hshort : bytes.length < 12) : WellAnnounced bytes
  | packet {bytes : List Byte} (hlong : 12 <= bytes.length)
      (hleast : 12 <= declaredLength (bufferOf bytes))
      (hmost : declaredLength (bufferOf bytes) <= HAL_RX_RAW_SIZE)
      (hrest : WellAnnounced (bytes.drop (declaredLength (bufferOf bytes)))) :
      WellAnnounced bytes

/-!
## What is held
-/

def leftOver (h : Hal) : List Byte := residual HAL_RX_RAW_SIZE halVerdict h.held h.serial

theorem residual_processLoop :
    forall (bytes : List Byte) (h : Hal), Holding h -> h.pktReady = false ->
      leftOver (processLoop h bytes) = residual HAL_RX_RAW_SIZE halVerdict h.held bytes := by
  intro bytes
  induction bytes with
  | nil =>
      intro h _ _
      rfl
  | cons b rest ih =>
      intro h hh hready
      rcases receiveByte_refines b hh hready with ⟨hh', _, hheld, hslot⟩
      rw [Library.residual, ← hheld]
      unfold processLoop
      cases hready' : (h.receiveByte b).pktReady with
      | true =>
          rw [if_pos rfl]
          rfl
      | false =>
          rw [if_neg (by simp)]
          exact ih (h.receiveByte b) hh' hready'

theorem leftOver_processSerial {h : Hal} (hr : Receiving h) :
    leftOver h.processSerial = leftOver h := by
  unfold processSerial
  cases hready : h.pktReady with
  | true => rw [if_pos rfl]
  | false =>
      rw [if_neg (by simp)]
      exact residual_processLoop h.serial h hr.holding hready

theorem readPacket_keeps (h : Hal) (cmdOut : BitVec 16) (payloadOut : Buffer)
    (maxLen : Nat) :
    leftOver (h.readPacket cmdOut payloadOut maxLen).2 = leftOver h.processSerial ∧
      (h.readPacket cmdOut payloadOut maxLen).2 =
        (h.readPacket cmdOut payloadOut RX_BUFFER_SIZE).2 := by
  unfold readPacket
  simp only
  split
  · exact ⟨rfl, rfl⟩
  · exact ⟨rfl, rfl⟩

theorem read_keeps (h : Hal) :
    leftOver (h.read FD_STDIN).2 = leftOver h.processSerial := by
  unfold Hal.read
  rw [if_pos rfl]
  simp only
  split
  · split
    · rfl
    · rfl
  · rfl

theorem Received.spec {past : List Byte} {h : Hal} (hf : Received past h) :
    Receiving h ∧ leftOver h = residual HAL_RX_RAW_SIZE halVerdict [] past := by
  induction hf with
  | init h => exact ⟨receiving_init h, rfl⟩
  | @arrive past h _ bytes ih =>
      rcases ih with ⟨hr, hleft⟩
      refine ⟨receiving_arrive hr bytes, ?_⟩
      rw [residual_append, ← hleft]
      exact residual_append ..
  | packet _ cmdOut payloadOut maxLen ih =>
      rcases ih with ⟨hr, hleft⟩
      rcases readPacket_keeps _ cmdOut payloadOut maxLen with ⟨hkeeps, hsame⟩
      rw [hkeeps, leftOver_processSerial hr, hsame]
      exact ⟨(readPacket_spec hr cmdOut payloadOut).left, hleft⟩
  | @byte past h _ fd ih =>
      rcases ih with ⟨hr, hleft⟩
      by_cases hfd : fd = FD_STDIN
      · rw [hfd, read_keeps, leftOver_processSerial hr]
        exact ⟨(read_spec hr).left, hleft⟩
      · have hsame : (h.read fd).2 = h := by
          unfold Hal.read
          rw [if_neg hfd]
        rw [hsame]
        exact ⟨hr, hleft⟩

theorem held_processSerial {past : List Byte} {h : Hal} (hf : Received past h)
    (hready : h.processSerial.pktReady = false) :
    h.processSerial.held = residual HAL_RX_RAW_SIZE halVerdict [] past := by
  rcases hf.spec with ⟨hr, hleft⟩
  have hall := leftOver_processSerial hr
  cases (processSerial_step hr).right with
  | busy hbusy hsame =>
      rw [hsame, hbusy] at hready
      cases hready
  | starved _ _ hserial _ =>
      rw [leftOver, hserial, residual_nil] at hall
      rw [hall, hleft]
  | filled _ d hoffers _ =>
      rw [hoffers.ready] at hready
      cases hready

theorem exists_not_ready (n : Nat) :
    forall (past : List Byte) (h : Hal), Received past h -> (h.pending []).length <= n ->
      exists h', Received past h' ∧ h'.processSerial.pktReady = false := by
  induction n with
  | zero =>
      intro past h hf hn
      refine ⟨h, hf, ?_⟩
      have hr := hf.spec.left
      have hnil := List.length_eq_zero_iff.mp (Nat.le_zero.mp hn)
      rw [← pending_processSerial hr, pending, List.append_eq_nil_iff] at hnil
      cases hready : h.processSerial.pktReady with
      | false => rfl
      | true =>
          rw [slot, if_pos hready] at hnil
          cases hnil.left
  | succ n ih =>
      intro past h hf hn
      exact ih past _ (hf.packet 0#16 (fun _ => 0#8) RX_BUFFER_SIZE)
        (length_pending_readPacket hf.spec.left 0#16 _ hn)

/-!
## What a stream announces
-/

def CompletableBytes (held : List Byte) : Prop :=
  12 <= held.length ->
    held.length < declaredLength (bufferOf held) ∧
      declaredLength (bufferOf held) <= HAL_RX_RAW_SIZE

theorem completable_iff {h : Hal} (hready : h.pktReady = false) :
    h.Completable <-> CompletableBytes h.held := by
  unfold Completable CompletableBytes
  rw [length_held]
  constructor
  · intro hc hlong
    have hsame : declaredLength h.rawBuffer = declaredLength (bufferOf h.held) :=
      declaredLength_congr fun i hi => stored_agrees h i (by omega)
    rw [← hsame]
    exact hc hready hlong
  · intro hc _ hlong
    have hsame : declaredLength h.rawBuffer = declaredLength (bufferOf h.held) :=
      declaredLength_congr fun i hi => stored_agrees h i (by omega)
    rw [hsame]
    exact hc hlong

theorem wait_of_prefix {p bytes : List Byte} (hp : p <+: bytes)
    (h : p.length < 12 ∨ p.length < declaredLength (bufferOf bytes)) :
    halVerdict p = .wait := by
  apply halVerdict_wait
  by_cases hshort : p.length < 12
  · exact .inl hshort
  · right
    right
    rw [declaredLength_of_starts hp (by omega)]
    omega

theorem residual_short {bytes : List Byte} (hshort : bytes.length < 12) :
    residual HAL_RX_RAW_SIZE halVerdict [] bytes = bytes := by
  have h256 : HAL_RX_RAW_SIZE = 256 := rfl
  apply residual_of_wait
  · rw [List.nil_append]
    omega
  · intro p hp
    have hle := hp.length_le
    rw [List.nil_append]
    exact wait_of_prefix hp (.inl (by omega))

section Announced

variable {bytes : List Byte} (hleast : 12 <= declaredLength (bufferOf bytes))
  (hmost : declaredLength (bufferOf bytes) <= HAL_RX_RAW_SIZE)

include hmost

theorem residual_open (hopen : bytes.length < declaredLength (bufferOf bytes)) :
    residual HAL_RX_RAW_SIZE halVerdict [] bytes = bytes := by
  apply residual_of_wait
  · rw [List.nil_append]
    omega
  · intro p hp
    have hle := hp.length_le
    rw [List.nil_append]
    exact wait_of_prefix hp (.inr (by omega))

include hleast

/-- A packet that is there as announced is cut off, whatever its checksum. -/
theorem residual_packet (hthere : declaredLength (bufferOf bytes) <= bytes.length) :
    residual HAL_RX_RAW_SIZE halVerdict [] bytes =
      residual HAL_RX_RAW_SIZE halVerdict []
        (bytes.drop (declaredLength (bufferOf bytes))) := by
  obtain ⟨m, hm⟩ : exists m, declaredLength (bufferOf bytes) = m + 1 :=
    ⟨declaredLength (bufferOf bytes) - 1, by omega⟩
  have hbyte : bytes[m]? = some bytes[m] := List.getElem?_eq_getElem (by omega)
  have htake : bytes.take (m + 1) = bytes.take m ++ [bytes[m]] := by
    rw [List.take_add_one, hbyte]
    rfl
  have hlen : (bytes.take m).length = m := by
    rw [List.length_take]
    omega
  have hwhole : declaredLength (bufferOf (bytes.take (m + 1))) = m + 1 := by
    rw [declaredLength_of_starts (List.take_prefix ..) (by rw [List.length_take]; omega), hm]
  have hcut : residual HAL_RX_RAW_SIZE halVerdict [] (bytes.take (m + 1)) = [] := by
    rw [htake] at hwhole ⊢
    apply residual_of_decided
    · omega
    · intro p hp
      have hle := hp.length_le
      have hp' : p <+: bytes := hp.trans (List.take_prefix m bytes)
      exact wait_of_prefix hp' (.inr (by omega))
    · rw [Ne, halVerdict_eq_wait_iff, hwhole, List.length_append, hlen,
        List.length_singleton]
      omega
  conv => lhs; rw [← List.take_append_drop (m + 1) bytes]
  rw [residual_append, hcut, hm]

end Announced

theorem WellAnnounced.completable {bytes : List Byte} (h : WellAnnounced bytes) :
    CompletableBytes (residual HAL_RX_RAW_SIZE halVerdict [] bytes) := by
  induction h with
  | short hshort =>
      rw [residual_short hshort]
      intro hlong
      omega
  | @packet bytes hlong hleast hmost _ ih =>
      by_cases hopen : bytes.length < declaredLength (bufferOf bytes)
      · rw [residual_open hmost hopen]
        intro _
        exact ⟨hopen, hmost⟩
      · rw [residual_packet hleast hmost (by omega)]
        exact ih

theorem WellAnnounced.of_prefix {bytes : List Byte} (h : WellAnnounced bytes) :
    forall {past : List Byte}, past <+: bytes -> WellAnnounced past := by
  induction h with
  | short hshort =>
      intro past hp
      have hle := hp.length_le
      exact .short (by omega)
  | packet hlong hleast hmost _ ih =>
      intro past hp
      by_cases hshort : past.length < 12
      · exact .short hshort
      · have hsame := declaredLength_of_starts hp (by omega)
        refine .packet (by omega) (by omega) (by omega) ?_
        rw [hsame]
        exact ih (hp.drop _)

/-- The induction is on the length of the stream: a packet is cut off in each step. -/
theorem wellAnnounced_of_completable (n : Nat) :
    forall bytes : List Byte, bytes.length <= n ->
      (forall past, past <+: bytes ->
        CompletableBytes (residual HAL_RX_RAW_SIZE halVerdict [] past)) ->
      WellAnnounced bytes := by
  induction n with
  | zero =>
      intro bytes hn _
      exact .short (by omega)
  | succ n ih =>
      intro bytes hn hall
      by_cases hshort : bytes.length < 12
      · exact .short hshort
      · have hhead : (bytes.take 12).length = 12 := by
          rw [List.length_take]
          omega
        have hsame : declaredLength (bufferOf (bytes.take 12)) =
            declaredLength (bufferOf bytes) :=
          declaredLength_of_starts (List.take_prefix ..) (by omega)
        have hrange : 12 <= declaredLength (bufferOf bytes) ∧
            declaredLength (bufferOf bytes) <= HAL_RX_RAW_SIZE := by
          by_cases hwhole : declaredLength (bufferOf bytes) = 12
          · have h256 : HAL_RX_RAW_SIZE = 256 := rfl
            omega
          · -- twelve bytes are waited on, so they must be completable
            have hheld : residual HAL_RX_RAW_SIZE halVerdict [] (bytes.take 12) =
                bytes.take 12 := by
              have h256 : HAL_RX_RAW_SIZE = 256 := rfl
              apply residual_of_wait
              · rw [List.nil_append]
                omega
              · intro p hp
                by_cases hall : p.length < 12
                · exact halVerdict_wait (.inl hall)
                · have hle := hp.length_le
                  have heq : p = bytes.take 12 := hp.eq_of_length (by omega)
                  rw [List.nil_append, heq]
                  apply halVerdict_wait
                  omega
            have hgood := hall (bytes.take 12) (List.take_prefix ..)
            rw [hheld] at hgood
            have hbounds := hgood (by omega)
            omega
        refine .packet (by omega) hrange.left hrange.right (ih _ ?_ ?_)
        · rw [List.length_drop]
          omega
        · intro past hp
          by_cases hthere : declaredLength (bufferOf bytes) <= bytes.length
          · -- what is received after the first packet, received after it
            let whole := bytes.take (declaredLength (bufferOf bytes)) ++ past
            have hwhole : whole <+: bytes := by
              have hparts := List.take_append_drop (declaredLength (bufferOf bytes)) bytes
              conv => rhs; rw [← hparts]
              exact (List.prefix_append_right_inj _).mpr hp
            have htake : (bytes.take (declaredLength (bufferOf bytes))).length =
                declaredLength (bufferOf bytes) := by
              rw [List.length_take]
              omega
            have hlen : declaredLength (bufferOf bytes) <= whole.length := by
              rw [List.length_append, htake]
              omega
            have hsame' := declaredLength_of_starts hwhole (by omega)
            have hgood := hall whole hwhole
            rw [residual_packet (by omega) (by omega) (by omega), hsame'] at hgood
            have hdrop : whole.drop (declaredLength (bufferOf bytes)) = past := by
              rw [List.drop_append, htake, List.drop_of_length_le (Nat.le_of_eq htake),
                Nat.sub_self]
              rfl
            rw [hdrop] at hgood
            exact hgood
          · rw [List.drop_of_length_le (by omega), List.prefix_nil] at hp
            rw [hp]
            intro hlong
            cases hlong

/--
Whatever the bursts and the calls that read the stream: at every return the bytes
held can still become a packet, if and only if the stream is well announced.
-/
theorem receiver_waits_iff (bytes : List Byte) :
    (forall past h, past <+: bytes -> Received past h -> h.processSerial.Completable) <->
      WellAnnounced bytes := by
  constructor
  · intro hall
    apply wellAnnounced_of_completable bytes.length bytes (Nat.le_refl _)
    intro past hp
    have hstart : Received past (Hal.reset.init.arrive past) :=
      @Received.arrive [] _ (.init Hal.reset) past
    rcases exists_not_ready _ past _ hstart (Nat.le_refl _) with ⟨h, hf, hready⟩
    rw [← held_processSerial hf hready]
    exact (completable_iff hready).mp (hall past h hp hf)
  · intro hwell past h hp hf hready hlong
    have hheld := (hwell.of_prefix hp).completable
    rw [← held_processSerial hf hready] at hheld
    exact (completable_iff hready).mpr hheld hready hlong

/-- A header of zeros is kept, though no packet has length zero. -/
theorem zero_header_kept :
    ¬ forall past h, Received past h -> h.processSerial.Completable := by
  intro hall
  have hstart : Received (List.replicate 12 0#8)
      (Hal.reset.init.arrive (List.replicate 12 0#8)) :=
    @Received.arrive [] _ (.init Hal.reset) _
  have hbad := hall _ _ hstart (by decide) (by decide)
  exact absurd hbad.left (by decide)

end ArduOS
