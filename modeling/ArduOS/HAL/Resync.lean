import ArduOS.HAL.Delivery
import ArduOS.Library.Repetition

/-!
# Resynchronisation

After line noise the receiver cuts its input wherever the length fields it
meets tell it to, and only there.  Fed one packet over and over it hands that
packet over if and only if one of these cuts falls where the packet is read.
-/

namespace ArduOS

open Library Hal

/-- The states some bytes and some calls of the two consumers lead to. -/
inductive Fed : Hal -> Prop where
  | init (h : Hal) : Fed h.init
  | arrive {h : Hal} (hf : Fed h) (bytes : List Byte) : Fed (h.arrive bytes)
  | serial {h : Hal} (hf : Fed h) : Fed h.processSerial
  | packet {h : Hal} (hf : Fed h) (cmdOut : BitVec 16) (payloadOut : Buffer) :
      Fed (h.readPacket cmdOut payloadOut RX_BUFFER_SIZE).2
  | byte {h : Hal} (hf : Fed h) : Fed (h.read FD_STDIN).2

theorem Fed.receiving {h : Hal} (hf : Fed h) : Receiving h := by
  induction hf with
  | init h => exact receiving_init h
  | arrive _ bytes ih => exact receiving_arrive ih bytes
  | serial _ ih => exact (processSerial_step ih).left
  | packet _ cmdOut payloadOut ih => exact (readPacket_spec ih cmdOut payloadOut).left
  | byte _ ih => exact (read_spec ih).left

/--
What is left over of the bytes received so far; a full buffer counts as empty,
since the next byte drops it.
-/
def settled (h : Hal) : List Byte :=
  let rest := residual HAL_RX_RAW_SIZE halVerdict h.held h.serial
  if rest.length = HAL_RX_RAW_SIZE then [] else rest

theorem length_settled_lt {h : Hal} (hr : Receiving h) (p : List Byte) :
    (settled h).length < spanOf (after (settled h) (cycle p)) := by
  have h256 : HAL_RX_RAW_SIZE = 256 := rfl
  have hpos := halVerdict_delimits.pos (after (settled h) (cycle p))
  unfold settled at hpos ⊢
  by_cases hfull : (residual HAL_RX_RAW_SIZE halVerdict h.held h.serial).length =
      HAL_RX_RAW_SIZE
  · simp only [if_pos hfull] at hpos ⊢
    exact hpos
  · simp only [if_neg hfull]
    have hheld : h.held.length <= HAL_RX_RAW_SIZE := by
      simpa [Hal.held] using hr.holding.fits
    have hle := length_residual HAL_RX_RAW_SIZE halVerdict (by omega) h.serial h.held
      hheld
    have hwait := residual_waits HAL_RX_RAW_SIZE halVerdict halVerdict_nil h.serial
      h.held hr.holding.waits
    generalize residual HAL_RX_RAW_SIZE halVerdict h.held h.serial = rest at *
    rw [halVerdict_eq_wait_iff] at hwait
    by_cases hshort : rest.length < 12
    · unfold spanOf
      split <;> omega
    · have hhead : declaredLength (bufferOf rest) =
          declaredLength (after rest (cycle p)) := by
        apply declaredLength_congr
        intro i hi
        have hin : i < rest.length := by omega
        simp [bufferOf, after, hin]
      rw [hhead] at hwait
      unfold spanOf
      split <;> omega

theorem pending_settled (h : Hal) (bytes : List Byte) :
    h.pending bytes =
      h.pending [] ++ frames HAL_RX_RAW_SIZE halVerdict (settled h) bytes := by
  have h256 : HAL_RX_RAW_SIZE = 256 := rfl
  have hrest : frames HAL_RX_RAW_SIZE halVerdict (settled h) bytes =
      frames HAL_RX_RAW_SIZE halVerdict
        (residual HAL_RX_RAW_SIZE halVerdict h.held h.serial) bytes := by
    unfold settled
    by_cases hfull : (residual HAL_RX_RAW_SIZE halVerdict h.held h.serial).length =
        HAL_RX_RAW_SIZE
    · simp only [if_pos hfull]
      rw [frames_full HAL_RX_RAW_SIZE halVerdict (Nat.le_of_eq hfull.symm) (by omega)]
    · simp only [if_neg hfull]
  unfold pending queued
  rw [hrest, frames_append, List.append_nil, List.append_assoc]

/-!
## Recovery
-/

/--
Some number of copies of `p`, received in any bursts with the receiver polled
at any moments and often enough after the last byte, yields a copy of `p`
beyond the packets that were pending before.
-/
def Recovers (h : Hal) (p : SentPacket) : Prop :=
  exists copies polls, forall (cmdOut : BitVec 16) (payloadOut : Buffer)
      (events : List SerialEvent),
    arrivals events = (List.replicate copies p.bytes).flatten ->
      p.content ∈ (packetRun cmdOut h payloadOut
        (events ++ List.replicate polls .poll)).1.drop (h.pending []).length

/-- The offset in `p` at which the receiver starts reading after its `k`-th cut. -/
def cutOffset (h : Hal) (p : SentPacket) (k : Nat) : Nat :=
  (nextOffset spanOf p.bytes)^[k] (firstOffset spanOf (settled h) p.bytes)

/--
One of the places where the announced lengths make the receiver start reading
is one where `p` is read: at the bytes it holds now, or at one of the first
`|p|` cuts within the repeated packet.
-/
def Locks (h : Hal) (p : SentPacket) : Prop :=
  frameOf (after (settled h) (cycle p.bytes)) = some p.content ∨
    exists k, k < p.bytes.length ∧
      frameOf (shift (cycle p.bytes) (cutOffset h p k)) = some p.content

theorem length_bytes_pos (p : SentPacket) : 0 < p.bytes.length := by
  rcases packetBytes_of_produces p.produced with ⟨fragFlag, payloadType, _, hbytes⟩
  rw [hbytes, length_packetBytes]
  omega

theorem packetRun_all {h : Hal} (hr : Receiving h) (cmdOut : BitVec 16)
    (payloadOut : Buffer) (events : List SerialEvent) {polls : Nat}
    (hpolls : (h.pending (arrivals events)).length <= polls) :
    (packetRun cmdOut h payloadOut (events ++ List.replicate polls .poll)).1 =
      h.pending (arrivals events) := by
  rcases packetRun_spec cmdOut events h payloadOut hr with ⟨hr', hpending⟩
  rcases packetRun_append cmdOut (List.replicate polls .poll) events h payloadOut with
    ⟨payloadOut', hstate⟩
  have hall := hpending []
  rw [List.append_nil] at hall
  have hleft : ((packetRun cmdOut h payloadOut events).2.pending []).length <=
      polls := by
    rw [hall, List.length_append] at hpolls
    omega
  have hdone := packetRun_polls cmdOut polls _ payloadOut' hr' hleft
  rw [← hstate] at hdone
  rcases packetRun_spec cmdOut (events ++ List.replicate polls .poll) h payloadOut hr
    with ⟨_, hwhole⟩
  have hrun := hwhole []
  rw [arrivals_polls, List.append_nil, hdone, List.append_nil] at hrun
  exact hrun.symm

theorem packetRun_prefix {h : Hal} (hr : Receiving h) (cmdOut : BitVec 16)
    (payloadOut : Buffer) (events : List SerialEvent) :
    (packetRun cmdOut h payloadOut events).1 <+: h.pending (arrivals events) := by
  rcases packetRun_spec cmdOut events h payloadOut hr with ⟨_, hpending⟩
  have hall := hpending []
  rw [List.append_nil] at hall
  exact ⟨_, hall.symm⟩

/-- Recovery is a matter of the packets cut from the copies. -/
theorem recovers_iff_frames {h : Hal} (hr : Receiving h) (p : SentPacket) :
    Recovers h p <-> exists copies, p.content ∈
      frames HAL_RX_RAW_SIZE halVerdict (settled h)
        (List.replicate copies p.bytes).flatten := by
  constructor
  · rintro ⟨copies, polls, hrun⟩
    have harrive : arrivals [.burst (List.replicate copies p.bytes).flatten] =
        (List.replicate copies p.bytes).flatten := by
      simp [arrivals]
    have hmem := hrun 0#16 (fun _ => 0#8) _ harrive
    have hprefix := packetRun_prefix hr 0#16 (fun _ => 0#8)
      ([.burst (List.replicate copies p.bytes).flatten] ++
        List.replicate polls .poll)
    rw [arrivals_polls, harrive, pending_settled] at hprefix
    have hdrop := hprefix.drop (h.pending []).length
    rw [List.drop_left] at hdrop
    exact ⟨copies, hdrop.mem hmem⟩
  · rintro ⟨copies, hmem⟩
    refine ⟨copies, (h.pending (List.replicate copies p.bytes).flatten).length, ?_⟩
    intro cmdOut payloadOut events harrive
    rw [packetRun_all hr cmdOut payloadOut events (by rw [harrive]), harrive,
      pending_settled h (List.replicate copies p.bytes).flatten, List.drop_left]
    exact hmem

theorem recovers_iff_locks {h : Hal} (hr : Receiving h) (p : SentPacket) :
    Recovers h p <-> Locks h p := by
  rw [recovers_iff_frames hr]
  exact halVerdict_delimits.mem_frames_replicate (length_bytes_pos p)
    (length_settled_lt hr p.bytes) p.content

theorem locks_of_cutOffset_zero {h : Hal} {p : SentPacket} {k : Nat}
    (hk : k < p.bytes.length) (hcut : cutOffset h p k = 0) : Locks h p := by
  rcases packetBytes_of_produces p.produced with
    ⟨fragFlag, payloadType, hargs, hbytes⟩
  have hfit := p.fits
  have hstart : StartsWith (cycle p.bytes)
      (packetBytes fragFlag payloadType p.content.1 p.content.2) := by
    rw [← hbytes]
    intro i hi
    simp [cycle, bufferOf, Nat.mod_eq_of_lt hi, hi]
  rw [hbytes, length_packetBytes] at hfit
  right
  refine ⟨k, hk, ?_⟩
  rw [hcut, shift_zero, (spanOf_packet hargs hfit hstart).right]

/-- Whether the receiver ever recovers is decided by where its cuts fall. -/
theorem resynchronisation {h : Hal} (hf : Fed h) (p : SentPacket) :
    Recovers h p <-> Locks h p :=
  recovers_iff_locks hf.receiving p

/-!
## Two kinds of noise
-/

def noisy (noise : List Byte) : Hal := (Hal.reset.init.arrive noise).processSerial

theorem fed_noisy (noise : List Byte) : Fed (noisy noise) :=
  .serial (.arrive (.init _) noise)

def getcwdRequest : SentPacket :=
  sentPacket SP_UNFRAGED 0#8 SYS_GETCWD [] ⟨by decide, by decide, by decide⟩
    (by decide)

def execRequest : SentPacket :=
  sentPacket SP_UNFRAGED PT_STRING SYS_EXEC (text "1 ls")
    execArguments (by decide)

/-- Four bytes of noise cost one buffer, and the buffer ends with a copy. -/
theorem recovers_after_four_bytes :
    Recovers (noisy (List.replicate 4 0xFF#8)) getcwdRequest := by
  apply (resynchronisation (fed_noisy _) getcwdRequest).mpr
  apply locks_of_cutOffset_zero (k := 0)
  · exact length_bytes_pos getcwdRequest
  · decide

theorem cutOffset_execRequest (k : Nat) :
    cutOffset (noisy (List.replicate 15 0xFF#8)) execRequest k = 1 := by
  have hfirst : firstOffset spanOf (settled (noisy (List.replicate 15 0xFF#8)))
      execRequest.bytes = 1 := by decide
  -- the length read at offset 1 is out of range, and 256 is a multiple of 16
  have hnext : nextOffset spanOf execRequest.bytes 1 = 1 := by decide
  unfold cutOffset
  rw [hfirst]
  exact Function.iterate_fixed hnext k

/-- Fifteen bytes of noise leave the receiver out of step for ever. -/
theorem not_recovers_after_fifteen_bytes :
    ¬ forall (h : Hal) (p : SentPacket), Fed h -> Recovers h p := by
  intro hall
  have hfed := fed_noisy (List.replicate 15 0xFF#8)
  rcases (recovers_iff_locks hfed.receiving execRequest).mp (hall _ _ hfed) with
    hheld | ⟨k, _, hcut⟩
  · have hnone : frameOf (after (settled (noisy (List.replicate 15 0xFF#8)))
        (cycle execRequest.bytes)) = none := by decide
    rw [hnone] at hheld
    cases hheld
  · have hnone : frameOf (shift (cycle execRequest.bytes) 1) = none := by decide
    rw [cutOffset_execRequest, hnone] at hcut
    cases hcut

end ArduOS
