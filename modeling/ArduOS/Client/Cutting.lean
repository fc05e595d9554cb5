import ArduOS.Client.Blocks

/-!
# What the host makes of any bytes

Noise, a packet that lost a byte, a header in the middle of a block: whatever arrives,
and in whatever portions, the receive loop cuts the stream as a whole is cut from its
start, never holds more than a block, and hands over windows of the stream only.
-/

namespace ArduOS
namespace ReceiveLoop

def announced (bytes : List Byte) : Nat := declaredLength (bufferOf bytes)

def Plausible (bytes : List Byte) : Prop := 8 <= announced bytes ∧ announced bytes <= 1024

instance (bytes : List Byte) : Decidable (Plausible bytes) :=
  inferInstanceAs (Decidable (8 <= announced bytes ∧ announced bytes <= 1024))

/--
A stream cut as a whole: where eight bytes announce no plausible length the first is
skipped, and else a block of that length is cut off.  The blocks, and what is left.
-/
def cut (bytes : List Byte) : List (List Byte) × List Byte :=
  if bytes.length < 8 then ([], bytes)
  else if Plausible bytes then
    if bytes.length < announced bytes then ([], bytes)
    else
      (bytes.take (announced bytes) :: (cut (bytes.drop (announced bytes))).1,
        (cut (bytes.drop (announced bytes))).2)
  else cut bytes.tail
termination_by bytes.length
decreasing_by
  · have hleast := (show Plausible bytes by assumption).left
    rw [List.length_drop]
    omega
  · rw [List.length_tail]
    omega

variable {bytes more : List Byte}

/-!
## Cutting step by step
-/

theorem announced_append (hlong : 8 <= bytes.length) (more : List Byte) :
    announced (bytes ++ more) = announced bytes :=
  (declaredLength_of_starts (List.prefix_append bytes more) hlong).symm

theorem plausible_append (hlong : 8 <= bytes.length) (more : List Byte) :
    Plausible (bytes ++ more) <-> Plausible bytes := by
  unfold Plausible
  rw [announced_append hlong]

theorem cut_short (h : bytes.length < 8) : cut bytes = ([], bytes) := by
  rw [cut, if_pos h]

theorem cut_open (hplaus : Plausible bytes) (h : bytes.length < announced bytes) :
    cut bytes = ([], bytes) := by
  by_cases hshort : bytes.length < 8
  · exact cut_short hshort
  · rw [cut, if_neg hshort, if_pos hplaus, if_pos h]

theorem cut_skip (hlong : 8 <= bytes.length) (h : ¬ Plausible bytes) :
    cut bytes = cut bytes.tail := by
  rw [cut, if_neg (by omega), if_neg h]

theorem cut_block (hlong : 8 <= bytes.length) (hplaus : Plausible bytes)
    (h : announced bytes <= bytes.length) :
    cut bytes = (bytes.take (announced bytes) :: (cut (bytes.drop (announced bytes))).1,
      (cut (bytes.drop (announced bytes))).2) := by
  rw [cut, if_neg (by omega), if_pos hplaus, if_neg (by omega)]

/-!
## The blocks
-/

structure Window (block : List Byte) : Prop where
  least : 8 <= block.length
  most : block.length <= 1024
  size : announced block = block.length

theorem window_take (hplaus : Plausible bytes) (h : announced bytes <= bytes.length) :
    Window (bytes.take (announced bytes)) := by
  rcases hplaus with ⟨hleast, hmost⟩
  have hlength : (bytes.take (announced bytes)).length = announced bytes := by
    rw [List.length_take]
    omega
  refine ⟨by omega, by omega, ?_⟩
  rw [hlength]
  exact declaredLength_of_starts (List.take_prefix _ _) (by omega)

theorem window_of_cut (bytes : List Byte) :
    forall block, block ∈ (cut bytes).1 -> Window block := by
  induction bytes using cut.induct with
  | case1 bytes hshort =>
      intro block hmem
      rw [cut_short hshort] at hmem
      cases hmem
  | case2 bytes hlong hplaus hopen =>
      intro block hmem
      rw [cut_open hplaus hopen] at hmem
      cases hmem
  | case3 bytes hlong hplaus hclosed ih =>
      intro block hmem
      rw [cut_block (by omega) hplaus (by omega), List.mem_cons] at hmem
      rcases hmem with rfl | hrest
      · exact window_take hplaus (by omega)
      · exact ih block hrest
  | case4 bytes hlong hplaus ih =>
      intro block hmem
      rw [cut_skip (by omega) hplaus] at hmem
      exact ih block hmem

/-- Bytes are skipped, but none comes twice or out of order. -/
theorem cut_sublist (bytes : List Byte) :
    ((cut bytes).1.flatten ++ (cut bytes).2).Sublist bytes := by
  induction bytes using cut.induct with
  | case1 bytes hshort =>
      rw [cut_short hshort]
      exact .refl bytes
  | case2 bytes hlong hplaus hopen =>
      rw [cut_open hplaus hopen]
      exact .refl bytes
  | case3 bytes hlong hplaus hclosed ih =>
      rw [cut_block (by omega) hplaus (by omega), List.flatten_cons, List.append_assoc]
      conv => rhs; rw [← List.take_append_drop (announced bytes) bytes]
      exact (List.Sublist.refl _).append ih
  | case4 bytes hlong hplaus ih =>
      rw [cut_skip (by omega) hplaus]
      exact ih.trans (List.tail_sublist bytes)

/-!
## The loop
-/

structure Settled (c : ReceiveLoop) : Prop where
  header : c.state = .header -> c.tempBuffer.length < 8
  body : c.state = .body -> 8 <= c.tempBuffer.length ∧ Plausible c.tempBuffer ∧
    c.expectedLen.toInt = announced c.tempBuffer ∧
    (c.tempBuffer.length < announced c.tempBuffer ∨ c.tempBuffer.length = 8)

theorem settled_initial : Settled initial :=
  ⟨fun _ => by decide, fun h => by cases h⟩

theorem toInt_headerLength (bytes : List Byte) :
    (headerLength bytes).toInt = announced bytes := by
  have hbound : (spPacketLength64 (spReadHeader (bufferOf bytes))).toNat < 2 ^ 45 := by
    unfold spPacketLength64
    rw [BitVec.toNat_and]
    exact Nat.lt_of_le_of_lt Nat.and_le_right (by decide)
  rw [headerLength_eq, BitVec.toInt_eq_toNat_of_lt (by omega)]
  rfl

/-- The blocks so far, and what the loop holds, stand for the bytes so far. -/
def Tracks (bytes : List Byte) (blocks : List (List Byte)) (c : ReceiveLoop) : Prop :=
  forall more, cut (bytes ++ more) =
    (blocks ++ (cut (c.tempBuffer ++ more)).1, (cut (c.tempBuffer ++ more)).2)

theorem Tracks.hold {blocks : List (List Byte)} {c c' : ReceiveLoop} {read : List Byte}
    (h : Tracks bytes blocks c) (hc : c'.tempBuffer = c.tempBuffer ++ read) :
    Tracks (bytes ++ read) blocks c' := by
  intro more
  rw [hc, List.append_assoc, List.append_assoc]
  exact h (read ++ more)

theorem Tracks.skip {blocks : List (List Byte)} {c c' : ReceiveLoop} {read : List Byte}
    (h : Tracks bytes blocks c) (hlong : 8 <= (c.tempBuffer ++ read).length)
    (hbad : ¬ Plausible (c.tempBuffer ++ read))
    (hc : c'.tempBuffer = (c.tempBuffer ++ read).drop 1) :
    Tracks (bytes ++ read) blocks c' := by
  intro more
  have hwhole := h (read ++ more)
  rw [← List.append_assoc, ← List.append_assoc] at hwhole
  rw [hwhole, hc, List.drop_one, cut_skip (by rw [List.length_append]; omega)
    (fun hgood => hbad ((plausible_append hlong more).mp hgood)),
    List.tail_append_of_ne_nil (List.ne_nil_of_length_pos (by omega))]

theorem Tracks.cut {blocks : List (List Byte)} {c c' : ReceiveLoop} {read : List Byte}
    (h : Tracks bytes blocks c) (hlong : 8 <= (c.tempBuffer ++ read).length)
    (hplaus : Plausible (c.tempBuffer ++ read))
    (hfull : announced (c.tempBuffer ++ read) <= (c.tempBuffer ++ read).length)
    (hc : c'.tempBuffer =
      (c.tempBuffer ++ read).drop (announced (c.tempBuffer ++ read))) :
    Tracks (bytes ++ read)
      (blocks ++ [(c.tempBuffer ++ read).take (announced (c.tempBuffer ++ read))]) c' := by
  intro more
  have hwhole := h (read ++ more)
  rw [← List.append_assoc, ← List.append_assoc] at hwhole
  have hsame := announced_append hlong more
  rw [hwhole, cut_block (by rw [List.length_append]; omega)
    ((plausible_append hlong more).mpr hplaus)
    (by rw [hsame, List.length_append]; omega), hsame, hc,
    List.take_append_of_le_length hfull, List.drop_append_of_le_length hfull,
    List.append_assoc]
  rfl

theorem length_read (c : ReceiveLoop) (read : Option Byte) :
    (c.tempBuffer ++ read.toList).length <= c.tempBuffer.length + 1 := by
  cases read <;> simp

theorem turn_header {c : ReceiveLoop} {blocks : List (List Byte)} (read : Option Byte)
    (hstate : c.state = .header) (hsettled : Settled c) (h : Tracks bytes blocks c) :
    Settled (c.turn read).2 ∧ Tracks (bytes ++ read.toList)
      (blocks ++ (c.turn read).1.toList) (c.turn read).2 := by
  have hfew := hsettled.header hstate
  have hone := c.length_read read
  unfold turn
  rw [hstate]
  simp only
  by_cases hlong : (c.tempBuffer ++ read.toList).length >= 8
  · rw [if_pos hlong, toInt_headerLength]
    by_cases hgood : Plausible (c.tempBuffer ++ read.toList)
    · rcases hgood with ⟨hleast, hmost⟩
      rw [if_neg (by omega)]
      refine ⟨⟨fun hcontra => ?_, fun _ => ?_⟩, ?_⟩
      · cases hcontra
      · exact ⟨hlong, ⟨hleast, hmost⟩, toInt_headerLength _, .inr (by simp only; omega)⟩
      · simp only [Option.toList_none, List.append_nil]
        exact h.hold rfl
    · have hbad : ((announced (c.tempBuffer ++ read.toList) : Nat) : Int) > 1024 ∨
          ((announced (c.tempBuffer ++ read.toList) : Nat) : Int) < 8 := by
        unfold Plausible at hgood
        omega
      rw [if_pos hbad]
      refine ⟨⟨fun _ => ?_, fun hcontra => ?_⟩, ?_⟩
      · simp only [List.length_drop]
        omega
      · simp only at hcontra
        cases hcontra
      · simp only [Option.toList_none, List.append_nil]
        exact h.skip hlong hgood rfl
  · rw [if_neg hlong]
    refine ⟨⟨fun _ => by simp only; omega, fun hcontra => ?_⟩, ?_⟩
    · simp only at hcontra
      cases hcontra
    · simp only [Option.toList_none, List.append_nil]
      exact h.hold rfl

theorem turn_body {c : ReceiveLoop} {blocks : List (List Byte)} (read : Option Byte)
    (hstate : c.state = .body) (hsettled : Settled c) (h : Tracks bytes blocks c) :
    Settled (c.turn read).2 ∧ Tracks (bytes ++ read.toList)
      (blocks ++ (c.turn read).1.toList) (c.turn read).2 := by
  rcases hsettled.body hstate with ⟨hlong, hgood, hexpected, hlast⟩
  have hone := c.length_read read
  have hsame := announced_append hlong read.toList
  have hgood' := (plausible_append hlong read.toList).mpr hgood
  have hlong' : 8 <= (c.tempBuffer ++ read.toList).length := by
    rw [List.length_append]
    omega
  unfold turn
  rw [hstate]
  simp only
  rw [hexpected, ← hsame, Int.toNat_natCast]
  by_cases hfull : announced (c.tempBuffer ++ read.toList) <=
      (c.tempBuffer ++ read.toList).length
  · rw [if_pos (by omega)]
    refine ⟨⟨fun _ => ?_, fun hcontra => ?_⟩, ?_⟩
    · have hleast := hgood'.left
      simp only [List.length_drop]
      omega
    · cases hcontra
    · exact h.cut hlong' hgood' hfull rfl
  · rw [if_neg (by omega)]
    refine ⟨⟨fun hcontra => ?_, fun _ => ?_⟩, ?_⟩
    · simp only at hcontra
      cases hcontra
    · exact ⟨hlong', hgood', hexpected.trans (by rw [hsame]), .inl (by simp only; omega)⟩
    · simp only [Option.toList_none, List.append_nil]
      exact h.hold rfl

theorem run_tracks (reads : List (Option Byte)) :
    forall (bytes : List Byte) (blocks : List (List Byte)) (c : ReceiveLoop),
      Settled c -> Tracks bytes blocks c ->
      Settled (c.run reads).2 ∧ Tracks (bytes ++ reads.reduceOption)
        (blocks ++ (c.run reads).1) (c.run reads).2 := by
  induction reads with
  | nil =>
      intro bytes blocks c hsettled h
      simp only [run, List.reduceOption_nil, List.append_nil]
      exact ⟨hsettled, h⟩
  | cons read reads ih =>
      intro bytes blocks c hsettled h
      have hturn : Settled (c.turn read).2 ∧ Tracks (bytes ++ read.toList)
          (blocks ++ (c.turn read).1.toList) (c.turn read).2 := by
        cases hstate : c.state with
        | header => exact turn_header read hstate hsettled h
        | body => exact turn_body read hstate hsettled h
      have hrest := ih _ _ _ hturn.left hturn.right
      have hbytes : (read :: reads).reduceOption = read.toList ++ reads.reduceOption := by
        cases read <;> simp
      rw [hbytes, ← List.append_assoc]
      simp only [run]
      rw [← List.append_assoc]
      exact hrest

theorem Settled.pending {c : ReceiveLoop} (h : Settled c) :
    c.tempBuffer.length < 1024 ∧ (cut c.tempBuffer).1.length <= 1 ∧
      (cut c.tempBuffer).1.flatten ++ (cut c.tempBuffer).2 = c.tempBuffer := by
  cases hstate : c.state with
  | header =>
      have hfew := h.header hstate
      rw [cut_short hfew]
      exact ⟨by omega, Nat.zero_le 1, rfl⟩
  | body =>
      rcases h.body hstate with ⟨hlong, hgood, _, hopen | height⟩
      · rw [cut_open hgood hopen]
        exact ⟨Nat.lt_of_lt_of_le hopen hgood.right, Nat.zero_le 1, rfl⟩
      · refine ⟨by omega, ?_⟩
        by_cases hopen : c.tempBuffer.length < announced c.tempBuffer
        · rw [cut_open hgood hopen]
          exact ⟨Nat.zero_le 1, rfl⟩
        · have hleast := hgood.left
          rw [cut_block hlong hgood (by omega), cut_short (by rw [List.length_drop]; omega)]
          exact ⟨Nat.le_refl 1, by simp⟩

/--
Whatever bytes arrive and in whatever portions: the blocks handed over are those the
stream as a whole begins with when it is cut, all but at most one of those that are
complete; each is a window of 8 to 1024 bytes that announces its own length, they come
in order and share no byte; and the buffer holds less than 1024 bytes.
-/
theorem receive_cuts (reads : List (Option Byte)) :
    let blocks := (initial.run reads).1
    let c := (initial.run reads).2
    (cut reads.reduceOption).1 = blocks ++ (cut c.tempBuffer).1 ∧
      (cut c.tempBuffer).1.length <= 1 ∧ c.tempBuffer.length < 1024 ∧
      (forall block, block ∈ blocks -> Window block) ∧
      (blocks.flatten ++ c.tempBuffer).Sublist reads.reduceOption := by
  intro blocks c
  have hstart : Tracks [] [] initial := fun more => rfl
  rcases run_tracks reads [] [] initial settled_initial hstart with ⟨hsettled, htracks⟩
  rcases hsettled.pending with ⟨hfew, hone, hwhole⟩
  have hcut := htracks []
  rw [List.append_nil, List.append_nil, List.nil_append, List.nil_append] at hcut
  have hblocks : (cut reads.reduceOption).1 = blocks ++ (cut c.tempBuffer).1 := by rw [hcut]
  refine ⟨hblocks, hone, hfew, ?_, ?_⟩
  · intro block hmem
    apply window_of_cut reads.reduceOption
    rw [hblocks]
    exact List.mem_append_left _ hmem
  · have hsublist := cut_sublist reads.reduceOption
    rw [hcut, List.flatten_append, List.append_assoc, hwhole] at hsublist
    exact hsublist

end ReceiveLoop
end ArduOS
