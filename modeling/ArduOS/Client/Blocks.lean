import Mathlib.Data.List.ReduceOption
import ArduOS.Client.ReceiveLoop
import ArduOS.HAL.Delivery
import ArduOS.Kernel.CardImage

/-!
# What the host gets

A stream of blocks that carry their own length is cut into these blocks again,
whatever they contain: the host is never out of step with what the device sends.
-/

namespace ArduOS

open Library

namespace ReceiveLoop

theorem unsignedByte_eq (tempBuffer : List Byte) (i : Nat) :
    unsignedByte tempBuffer i = (bufferOf tempBuffer i).setWidth 64 := by
  unfold unsignedByte
  apply BitVec.eq_of_getLsbD_eq
  intro j hj
  by_cases hbyte : j < 8
  · rw [BitVec.getLsbD_and, BitVec.getLsbD_signExtend, BitVec.getLsbD_setWidth]
    have hmask : (0xFF#64).getLsbD j = true := by
      revert j
      decide
    simp [hbyte, hj, hmask]
  · have hmask : (0xFF#64).getLsbD j = false := by
      revert j
      decide
    have hout := BitVec.getLsbD_of_ge (bufferOf tempBuffer i) j (by omega)
    rw [BitVec.getLsbD_and, hmask, BitVec.getLsbD_setWidth]
    simp [hout]

theorem headerValue_eq (tempBuffer : List Byte) :
    headerValue tempBuffer = spReadHeader (bufferOf tempBuffer) := by
  have height : SP_HEADER_SIZE.toNat = 8 := rfl
  unfold headerValue spReadHeader
  rw [height]
  simp only [unsignedByte_eq, forLoop, BitVec.shiftLeft_or_distrib, ← BitVec.shiftLeft_add,
    BitVec.or_assoc, BitVec.zero_or, Nat.zero_mul, BitVec.shiftLeft_zero, Nat.reduceMul,
    Nat.reduceAdd]

/-- The sign that `>>` keeps is masked away. -/
theorem headerLength_eq (tempBuffer : List Byte) :
    headerLength tempBuffer = spPacketLength64 (spReadHeader (bufferOf tempBuffer)) := by
  unfold headerLength spPacketLength64
  rw [headerValue_eq]
  apply BitVec.eq_of_getLsbD_eq
  intro i hi
  rw [BitVec.getLsbD_and, BitVec.getLsbD_and]
  by_cases hfield : i < 45
  · have hin : 4 + i < 64 := by omega
    have hnot : ¬ 64 <= i := by omega
    rw [BitVec.getLsbD_sshiftRight, BitVec.getLsbD_ushiftRight]
    simp [hi, hin, hnot]
  · have hmask : (0x1FFFFFFFFFFF#64).getLsbD i = false := by
      revert i
      decide
    rw [hmask, Bool.and_false, Bool.and_false]

/-- A block of a size the host accepts that declares its own length. -/
structure Block (bytes : List Byte) : Prop where
  long : 12 <= bytes.length
  short : bytes.length <= 1024
  declared : declaredLength (bufferOf bytes) = bytes.length

structure Reading (p block : List Byte) (c : ReceiveLoop) : Prop where
  buffer : c.tempBuffer = p
  started : p <+: block
  header : p.length < 8 -> c.state = .header
  body : 8 <= p.length -> c.state = .body ∧ c.expectedLen.toInt = block.length

theorem reading_initial (block : List Byte) : Reading [] block initial :=
  ⟨rfl, List.nil_prefix, fun _ => rfl, fun h => absurd h (by decide)⟩

theorem headerLength_of_prefix {p block : List Byte} (hblock : Block block)
    (hp : p <+: block) (hlen : 8 <= p.length) :
    (headerLength p).toInt = block.length := by
  have hshort := hblock.short
  have hnat : (headerLength p).toNat = block.length := by
    rw [headerLength_eq, ← hblock.declared]
    exact declaredLength_of_starts hp hlen
  rw [BitVec.toInt_eq_toNat_of_lt (by omega), hnat]

theorem Reading.idle {p block : List Byte} {c : ReceiveLoop} (h : Reading p block c)
    (hmore : p.length < block.length) : c.turn none = (none, c) := by
  rcases c with ⟨tempBuffer, state, expectedLen⟩
  have hbuffer : tempBuffer = p := h.buffer
  unfold turn
  simp only [Option.toList, List.append_nil]
  by_cases hlen : p.length < 8
  · have hstate : state = .header := h.header hlen
    rw [hstate, hbuffer]
    simp only
    rw [if_neg (by omega)]
  · rcases h.body (by omega) with ⟨hbody, hexpected⟩
    have hstate : state = .body := hbody
    rw [hstate, hbuffer, hexpected]
    simp only
    rw [if_neg (by omega)]

theorem Reading.next {p block : List Byte} {c : ReceiveLoop} (h : Reading p block c)
    (hblock : Block block) {b : Byte} (hp : p ++ [b] <+: block)
    (hmore : (p ++ [b]).length < block.length) :
    (c.turn (some b)).1 = none ∧ Reading (p ++ [b]) block (c.turn (some b)).2 := by
  have hlong := hblock.long
  have hshort := hblock.short
  have hlen : (p ++ [b]).length = p.length + 1 := by simp
  unfold turn
  simp only [Option.toList, h.buffer]
  by_cases hheader : p.length < 8
  · rw [h.header hheader]
    simp only
    by_cases hcomplete : (p ++ [b]).length >= 8
    · have hdeclared := headerLength_of_prefix hblock hp hcomplete
      rw [if_pos hcomplete, if_neg (by omega)]
      exact ⟨rfl, rfl, hp, fun hcontra => absurd hcomplete (by omega),
        fun _ => ⟨rfl, hdeclared⟩⟩
    · rw [if_neg hcomplete]
      exact ⟨rfl, rfl, hp, fun _ => rfl, fun hcontra => absurd hcontra hcomplete⟩
  · rcases h.body (by omega) with ⟨hstate, hexpected⟩
    rw [hstate]
    simp only
    rw [if_neg (by omega)]
    exact ⟨rfl, rfl, hp, fun hcontra => absurd hcontra (by omega),
      fun _ => ⟨rfl, hexpected⟩⟩

theorem Reading.complete {p : List Byte} {b : Byte} {c : ReceiveLoop}
    (h : Reading p (p ++ [b]) c) (hblock : Block (p ++ [b])) :
    c.turn (some b) = (some (p ++ [b]), initial) := by
  have hlong := hblock.long
  have hlen : (p ++ [b]).length = p.length + 1 := by simp
  rcases h.body (by omega) with ⟨hstate, hexpected⟩
  unfold turn
  simp only [Option.toList, h.buffer, hstate, hexpected]
  rw [if_pos (Int.le_refl _), Int.toNat_natCast, List.take_length, List.drop_length]
  rfl

inductive Ahead : ReceiveLoop -> List Byte -> List (List Byte) -> Prop where
  | done : Ahead initial [] []
  | within {c : ReceiveLoop} {p block : List Byte} {blocks : List (List Byte)}
      (hreading : Reading p block c) (hmore : p.length < block.length) :
      Ahead c p (block :: blocks)

theorem ahead_initial {blocks : List (List Byte)}
    (hblocks : forall block, block ∈ blocks -> Block block) :
    Ahead initial [] blocks := by
  cases blocks with
  | nil => exact .done
  | cons block rest =>
      have hlong := (hblocks block (List.mem_cons_self ..)).long
      exact .within (reading_initial block) (Nat.lt_of_lt_of_le (by decide) hlong)

theorem Ahead.idle {c : ReceiveLoop} {p : List Byte} {blocks : List (List Byte)}
    (h : Ahead c p blocks) : c.turn none = (none, c) := by
  cases h with
  | done => rfl
  | within hreading hmore => exact hreading.idle hmore

/--
What a stream is cut into, from the middle of its first block on.  The induction
is on the turns; `p` is what was read of the block that is under way.
-/
theorem run_ahead (reads : List (Option Byte)) :
    forall (c : ReceiveLoop) (p : List Byte) (blocks : List (List Byte)),
      (forall block, block ∈ blocks -> Block block) -> Ahead c p blocks ->
      p ++ reads.reduceOption = blocks.flatten -> c.run reads = (blocks, initial) := by
  induction reads with
  | nil =>
      intro c p blocks hblocks hahead hbytes
      cases hahead with
      | done => rfl
      | within hreading hmore =>
          have hlength := congrArg List.length hbytes
          simp only [List.reduceOption_nil, List.append_nil, List.flatten_cons,
            List.length_append] at hlength
          omega
  | cons read reads ih =>
      intro c p blocks hblocks hahead hbytes
      cases read with
      | none =>
          have hrest := ih c p blocks hblocks hahead hbytes
          simp only [run, hahead.idle, hrest, Option.toList, List.nil_append]
      | some b =>
          cases hahead with
          | done => cases hbytes
          | @within _ _ block rest hreading hmore =>
              have hblock := hblocks block (List.mem_cons_self ..)
              have hbytes' : p ++ [b] ++ reads.reduceOption = block ++ rest.flatten := by
                rw [List.append_assoc]
                exact hbytes
              have hlen : (p ++ [b]).length = p.length + 1 := by simp
              have hprefix : p ++ [b] <+: block :=
                List.prefix_of_prefix_length_le ⟨_, hbytes'⟩ (List.prefix_append _ _)
                  (by omega)
              by_cases hless : (p ++ [b]).length < block.length
              · rcases hreading.next hblock hprefix hless with ⟨hquiet, hnext⟩
                have hrest := ih _ (p ++ [b]) (block :: rest) hblocks
                  (.within hnext hless) hbytes'
                simp only [run, hquiet, hrest, Option.toList, List.nil_append]
              · have hall : p ++ [b] = block := hprefix.eq_of_length (by omega)
                subst hall
                have hblocks' : forall block, block ∈ rest -> Block block :=
                  fun block hmem => hblocks block (List.mem_cons_of_mem _ hmem)
                have hrest := ih initial [] rest hblocks' (ahead_initial hblocks')
                  (List.append_cancel_left hbytes')
                simp only [run, hreading.complete hblock, hrest, Option.toList,
                  List.singleton_append]

end ReceiveLoop

/-!
## What the device sends
-/

section Device

variable {sd : SdFat}

theorem block_of_produces {bytes : List Byte} {d : Delivery} (h : Produces bytes d)
    (hfit : bytes.length <= 1024) : ReceiveLoop.Block bytes := by
  rcases packetBytes_of_produces h with ⟨fragFlag, payloadType, hargs, hbytes⟩
  have hlen : bytes.length = d.2.length + 12 := by rw [hbytes, length_packetBytes]
  have hstart : forall i, i < bytes.length -> bufferOf bytes i =
      bufferOf (packetBytes fragFlag payloadType d.1 d.2) i := by
    intro i hi
    rw [hbytes]
  refine ⟨by omega, hfit, ?_⟩
  rw [declaredLength_packet hargs (by omega) (by omega) hstart, hlen]

theorem sendPacket_block (k : Kernel sd) (cmd : BitVec 16) (payload : List Byte) :
    (k.sendPacket cmd payload).serialOut = k.serialOut ∨
      exists block, (k.sendPacket cmd payload).serialOut = k.serialOut ++ [block] ∧
        ReceiveLoop.Block block ∧ block.length <= 512 := by
  let n := BitVec.ofNat 32 payload.length
  let used := payload.take n.toNat
  unfold Kernel.sendPacket
  simp only
  by_cases hok : (spEncodePacketBuffer (some (bufferOf payload)) n SP_UNFRAGED PT_STRING
      cmd (some k.halTxBuffer) 512#32 (some 0#32)).result = .ok
  · right
    rw [if_pos hok]
    rcases arguments_of_ok hok with ⟨hargs, hcap⟩
    have h512 : (512#32).toNat = 512 := rfl
    have hn : n.toNat = payload.length % 2 ^ 32 := BitVec.toNat_ofNat ..
    have hle : n.toNat <= payload.length := by
      rw [hn]
      exact Nat.mod_le ..
    have hused : used.length = n.toNat := by
      rw [List.length_take]
      omega
    have hback : BitVec.ofNat 32 used.length = n := by
      rw [hused, BitVec.ofNat_toNat, BitVec.setWidth_eq]
    have hptr : PointsTo (some (bufferOf payload)) used := by
      have htake : bufferOf payload = bufferOf (used ++ payload.drop n.toNat) := by
        rw [List.take_append_drop]
      change bytesOf (bufferOf payload) used.length = used
      rw [htake]
      have hall := bytesOf_bufferOf used
      conv_rhs => rw [← hall]
      exact bytesOf_congr fun i hi => bufferOf_append_left _ _ hi
    have hroom : used.length + 12 <= (512#32).toNat := by omega
    have henc := spEncodePacketBuffer_ok hargs hptr hroom k.halTxBuffer 0#32
    rw [hback] at henc
    refine ⟨_, rfl, ?_⟩
    have hproduced : Produces (bytesOf (packetImage SP_UNFRAGED PT_STRING cmd used
        k.halTxBuffer) (BitVec.ofNat 32 (used.length + 12)).toNat) (cmd, used) :=
      ⟨_, n, _, _, _, _, _, _, _, hused.symm, hptr, henc, rfl⟩
    have hlength : (BitVec.ofNat 32 (used.length + 12)).toNat = used.length + 12 := by
      rw [BitVec.toNat_ofNat]
      omega
    rw [henc]
    simp only [Option.getD_some]
    have hfit : (bytesOf (packetImage SP_UNFRAGED PT_STRING cmd used k.halTxBuffer)
        (BitVec.ofNat 32 (used.length + 12)).toNat).length <= 512 := by
      rw [length_bytesOf]
      omega
    exact ⟨block_of_produces hproduced (by omega), hfit⟩
  · left
    rw [if_neg hok]

def emitted (k : Kernel sd) (cmd : BitVec 16) (payload : List Byte) : List (List Byte) :=
  (k.sendPacket cmd payload).serialOut.drop k.serialOut.length

theorem emitted_block (k : Kernel sd) (cmd : BitVec 16) (payload : List Byte) :
    forall block, block ∈ emitted k cmd payload ->
      ReceiveLoop.Block block ∧ block.length <= 512 := by
  intro block hmem
  unfold emitted at hmem
  rcases sendPacket_block k cmd payload with hnone | ⟨sent, hone, hblock⟩
  · rw [hnone, List.drop_length] at hmem
    cases hmem
  · rw [hone, List.drop_left, List.mem_singleton] at hmem
    rw [hmem]
    exact hblock

/--
The host cuts a stream of blocks into these blocks, in order, and is left with an
empty buffer; and what `send_packet` sends, call after call and from whatever
states, is such a stream.
-/
theorem client_framing :
    (forall (blocks : List (List Byte)) (reads : List (Option Byte)),
      (forall block, block ∈ blocks -> ReceiveLoop.Block block) ->
      reads.reduceOption = blocks.flatten ->
      ReceiveLoop.initial.run reads = (blocks, ReceiveLoop.initial)) ∧
    (forall (calls : List (Kernel sd × BitVec 16 × List Byte))
        (reads : List (Option Byte)),
      let sent := calls.flatMap fun call => emitted call.1 call.2.1 call.2.2
      (forall block, block ∈ sent -> 12 <= block.length ∧ block.length <= 512) ∧
      (reads.reduceOption = sent.flatten ->
        ReceiveLoop.initial.run reads = (sent, ReceiveLoop.initial))) := by
  have hcut : forall (blocks : List (List Byte)) (reads : List (Option Byte)),
      (forall block, block ∈ blocks -> ReceiveLoop.Block block) ->
      reads.reduceOption = blocks.flatten ->
      ReceiveLoop.initial.run reads = (blocks, ReceiveLoop.initial) :=
    fun blocks reads hblocks hbytes =>
      ReceiveLoop.run_ahead reads ReceiveLoop.initial [] blocks hblocks
        (ReceiveLoop.ahead_initial hblocks) hbytes
  refine ⟨hcut, ?_⟩
  intro calls reads sent
  have hsent : forall block, block ∈ sent -> ReceiveLoop.Block block ∧
      block.length <= 512 := by
    intro block hmem
    rcases List.mem_flatMap.mp hmem with ⟨call, _, hcall⟩
    exact emitted_block call.1 call.2.1 call.2.2 block hcall
  constructor
  · intro block hmem
    rcases hsent block hmem with ⟨hblock, hfit⟩
    exact ⟨hblock.long, hfit⟩
  · exact hcut sent reads fun block hmem => (hsent block hmem).left

/-- The smallest packet and one whose body looks like a header, with a pause. -/
theorem client_framing_two :
    let header : List Byte := [0xC1#8, 0#8, 0#8, 0#8, 0#8, 0#8, 0#8, 0#8]
    let small := header ++ [1#8, 2#8, 3#8, 4#8]
    let large := 0x41#8 :: 0x01#8 :: header.drop 2 ++ header ++ [5#8, 6#8, 7#8, 8#8]
    ReceiveLoop.initial.run (small.map some ++ none :: large.map some) =
      ([small, large], ReceiveLoop.initial) := by
  intro header small large
  apply (@client_framing CardImage.sdFat).left [small, large]
  · intro block hmem
    rcases List.mem_pair.mp hmem with h | h
    · rw [h]
      exact ⟨by decide, by decide, by decide⟩
    · rw [h]
      exact ⟨by decide, by decide, by decide⟩
  · rfl

end Device
end ArduOS
