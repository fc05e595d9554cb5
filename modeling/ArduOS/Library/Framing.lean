import Mathlib.Data.List.Range
import Mathlib.Data.List.Flatten

/-!
# Receivers that cut a byte stream into frames

A receiver holds the bytes of an unfinished frame.  Each arriving byte is
appended, dropping what was held once it fills the buffer, and a verdict on the
held bytes says whether they are a frame, may become one, or are given up.
-/

namespace ArduOS
namespace Library

inductive Verdict (β : Type*) where
  | accept (frame : β)
  | wait
  | drop

section Receiver

variable {α β : Type*} (capacity : Nat) (verdict : List α -> Verdict β)

def holdByte (held : List α) (b : α) : List α :=
  (if capacity <= held.length then [] else held) ++ [b]

def receive (held : List α) (b : α) : List α × Option β :=
  match verdict (holdByte capacity held b) with
  | .accept frame => ([], some frame)
  | .wait => (holdByte capacity held b, none)
  | .drop => ([], none)

def frames : List α -> List α -> List β
  | _, [] => []
  | held, b :: bytes =>
      (receive capacity verdict held b).2.toList ++
        frames (receive capacity verdict held b).1 bytes

def residual : List α -> List α -> List α
  | held, [] => held
  | held, b :: bytes => residual (receive capacity verdict held b).1 bytes

@[simp] theorem frames_nil (held : List α) : frames capacity verdict held [] = [] := rfl

@[simp] theorem residual_nil (held : List α) :
    residual capacity verdict held [] = held := rfl

theorem frames_append (held xs ys : List α) :
    frames capacity verdict held (xs ++ ys) =
      frames capacity verdict held xs ++
        frames capacity verdict (residual capacity verdict held xs) ys := by
  induction xs generalizing held with
  | nil => rfl
  | cons b xs ih =>
      simp only [List.cons_append, frames, residual, ih, List.append_assoc]

theorem residual_append (held xs ys : List α) :
    residual capacity verdict held (xs ++ ys) =
      residual capacity verdict (residual capacity verdict held xs) ys := by
  induction xs generalizing held with
  | nil => rfl
  | cons b xs ih =>
      simp only [List.cons_append, residual, ih]

theorem residual_waits (hnil : verdict [] = .wait) :
    forall (bytes held : List α), verdict held = .wait ->
      verdict (residual capacity verdict held bytes) = .wait := by
  intro bytes
  induction bytes with
  | nil =>
      intro held hheld
      exact hheld
  | cons b bytes ih =>
      intro held hheld
      apply ih
      unfold receive
      cases hverdict : verdict (holdByte capacity held b) with
      | accept _ => exact hnil
      | wait => exact hverdict
      | drop => exact hnil

theorem length_residual (hcap : 0 < capacity) :
    forall (bytes held : List α), held.length <= capacity ->
      (residual capacity verdict held bytes).length <= capacity := by
  intro bytes
  induction bytes with
  | nil =>
      intro held hheld
      exact hheld
  | cons b bytes ih =>
      intro held hheld
      apply ih
      unfold receive
      split
      · exact Nat.zero_le _
      · unfold holdByte
        split
        · exact hcap
        · simp only [List.length_append, List.length_cons, List.length_nil]
          omega
      · exact Nat.zero_le _

/-- A full buffer is dropped by the next byte, so it is as good as an empty one. -/
theorem frames_full {held : List α} (hfull : capacity <= held.length)
    (hcap : 0 < capacity) (bytes : List α) :
    frames capacity verdict held bytes = frames capacity verdict [] bytes := by
  cases bytes with
  | nil => rfl
  | cons b bytes =>
      have hhold : holdByte capacity held b = holdByte capacity [] b := by
        have hnot : ¬ capacity <= 0 := by omega
        simp [holdByte, hfull, hnot]
      simp only [frames, receive, hhold]

theorem residual_of_wait (bytes : List α) :
    forall held : List α, (held ++ bytes).length <= capacity ->
      (forall p, p <+: bytes -> verdict (held ++ p) = .wait) ->
      residual capacity verdict held bytes = held ++ bytes := by
  induction bytes with
  | nil =>
      intro held _ _
      exact (List.append_nil held).symm
  | cons b bytes ih =>
      intro held hfit hwait
      have hroom : ¬ capacity <= held.length := by
        simp only [List.length_append, List.length_cons] at hfit
        omega
      have hhold : holdByte capacity held b = held ++ [b] := by
        rw [holdByte, if_neg hroom]
      have hfirst : verdict (held ++ [b]) = .wait :=
        hwait [b] (List.cons_prefix_cons.mpr ⟨rfl, List.nil_prefix⟩)
      have hrest : forall p, p <+: bytes -> verdict (held ++ [b] ++ p) = .wait := by
        intro p hp
        rw [List.append_assoc]
        exact hwait (b :: p) (List.cons_prefix_cons.mpr ⟨rfl, hp⟩)
      have hfit' : (held ++ [b] ++ bytes).length <= capacity := by
        rw [List.append_assoc]
        exact hfit
      rw [residual, receive, hhold, hfirst]
      simp only
      rw [ih (held ++ [b]) hfit' hrest, List.append_assoc]
      rfl

theorem residual_of_decided {bytes : List α} {b : α} (hfit : bytes.length < capacity)
    (hwait : forall p, p <+: bytes -> verdict p = .wait)
    (hdecided : verdict (bytes ++ [b]) ≠ .wait) :
    residual capacity verdict [] (bytes ++ [b]) = [] := by
  have hroom : ¬ capacity <= bytes.length := by omega
  have hhold : holdByte capacity bytes b = bytes ++ [b] := by
    rw [holdByte, if_neg hroom]
  have hbefore : residual capacity verdict [] bytes = bytes :=
    residual_of_wait capacity verdict bytes [] (Nat.le_of_lt hfit) hwait
  rw [residual_append, hbefore, residual, receive, hhold]
  cases hverdict : verdict (bytes ++ [b]) with
  | accept _ => rfl
  | wait => exact absurd hverdict hdecided
  | drop => rfl

end Receiver

/-!
## Streams

The bytes to come as a function of their position.
-/

section Streams

variable {α β : Type*}

def takeFrom (s : Nat -> α) (n : Nat) : List α := (List.range n).map s

def shift (s : Nat -> α) (k : Nat) : Nat -> α := fun i => s (k + i)

@[simp] theorem length_takeFrom (s : Nat -> α) (n : Nat) :
    (takeFrom s n).length = n := by
  simp [takeFrom]

theorem takeFrom_add (s : Nat -> α) (m n : Nat) :
    takeFrom s (m + n) = takeFrom s m ++ takeFrom (shift s m) n := by
  unfold takeFrom
  rw [List.range_add, List.map_append, List.map_map]
  rfl

theorem takeFrom_succ (s : Nat -> α) (n : Nat) :
    takeFrom s (n + 1) = takeFrom s n ++ [s n] := by
  rw [takeFrom_add]
  rfl

theorem takeFrom_cons (s : Nat -> α) (n : Nat) :
    takeFrom s (n + 1) = s 0 :: takeFrom (shift s 1) n := by
  rw [Nat.add_comm, takeFrom_add]
  rfl

@[simp] theorem shift_zero (s : Nat -> α) : shift s 0 = s := by
  funext i
  simp [shift]

theorem shift_shift (s : Nat -> α) (j k : Nat) :
    shift (shift s j) k = shift s (j + k) := by
  funext i
  simp [shift, Nat.add_assoc]

variable (capacity : Nat) (verdict : List α -> Verdict β)

/--
The receiver decides by a header: for every stream the verdict waits up to the
span the stream announces, and there accepts, drops, or waits on a full buffer.
-/
structure Delimits (span : (Nat -> α) -> Nat) (frame : (Nat -> α) -> Option β) :
    Prop where
  pos : forall s, 0 < span s
  le : forall s, span s <= capacity
  wait : forall s n, n < span s -> verdict (takeFrom s n) = .wait
  cut : forall s, (exists p, verdict (takeFrom s (span s)) = .accept p ∧
      frame s = some p) ∨
    (verdict (takeFrom s (span s)) = .drop ∧ frame s = none) ∨
    (verdict (takeFrom s (span s)) = .wait ∧ frame s = none ∧ span s = capacity)

variable {capacity verdict} {span : (Nat -> α) -> Nat}
  {frame : (Nat -> α) -> Option β}

theorem Delimits.residual_of_lt (h : Delimits capacity verdict span frame)
    (s : Nat -> α) (r : Nat) :
    forall n, r + n < span s ->
      frames capacity verdict (takeFrom s r) (takeFrom (shift s r) n) = [] ∧
        residual capacity verdict (takeFrom s r) (takeFrom (shift s r) n) =
          takeFrom s (r + n) := by
  intro n
  induction n with
  | zero =>
      intro _
      exact ⟨rfl, rfl⟩
  | succ n ih =>
      intro hn
      rcases ih (by omega) with ⟨hframes, hresidual⟩
      have hle := h.le s
      have hroom : ¬ capacity <= r + n := by omega
      have hbyte : shift s r n = s (r + n) := rfl
      have hhold : holdByte capacity (takeFrom s (r + n)) (s (r + n)) =
          takeFrom s (r + n + 1) := by
        simp [holdByte, hroom, takeFrom_succ]
      have hwait := h.wait s (r + n + 1) (by omega)
      rw [takeFrom_succ, frames_append, residual_append, hframes, hresidual, hbyte]
      simp only [frames, residual, receive, hhold, hwait]
      exact ⟨rfl, rfl⟩

theorem Delimits.frames_span (h : Delimits capacity verdict span frame)
    (s : Nat -> α) {r n : Nat} (hr : r < span s) (hn : span s <= r + n) :
    frames capacity verdict (takeFrom s r) (takeFrom (shift s r) n) =
      (frame s).toList ++
        frames capacity verdict []
          (takeFrom (shift s (span s)) (r + n - span s)) := by
  have hle := h.le s
  have hpos := h.pos s
  obtain ⟨m, hm⟩ : exists m, r + m + 1 = span s := ⟨span s - r - 1, by omega⟩
  have hsplit : n = m + (1 + (r + n - span s)) := by omega
  have hshift : shift (shift (shift s r) m) 1 = shift s (span s) := by
    rw [shift_shift, shift_shift, ← hm, Nat.add_assoc]
  rcases h.residual_of_lt s r m (by omega) with ⟨hframes, hresidual⟩
  have hroom : ¬ capacity <= r + m := by omega
  have hhold : holdByte capacity (takeFrom s (r + m)) (s (r + m)) =
      takeFrom s (span s) := by
    rw [← hm, takeFrom_succ]
    simp [holdByte, hroom]
  have hbyte : shift (shift s r) m 0 = s (r + m) := rfl
  conv => lhs; rw [hsplit]
  rw [takeFrom_add, frames_append, hframes, hresidual, Nat.add_comm 1,
    takeFrom_cons, hshift, hbyte]
  simp only [frames, receive, hhold, List.nil_append]
  rcases h.cut s with ⟨p, hverdict, hframe⟩ | ⟨hverdict, hframe⟩ |
    ⟨hverdict, hframe, hfull⟩
  · rw [hverdict, hframe]
  · rw [hverdict, hframe]
  · -- the header announced nothing: the full buffer is dropped by the next byte
    rw [hverdict, hframe]
    simp only
    rw [frames_full]
    · simp [hfull]
    · omega

def frameStart (span : (Nat -> α) -> Nat) (s : Nat -> α) : Nat -> Nat
  | 0 => 0
  | k + 1 => frameStart span s k + span (shift s (frameStart span s k))

theorem frameStart_shift (s : Nat -> α) (k : Nat) :
    frameStart span s (k + 1) =
      span s + frameStart span (shift s (span s)) k := by
  induction k with
  | zero =>
      simp [frameStart]
  | succ k ih =>
      rw [frameStart, ih, frameStart, shift_shift, Nat.add_assoc]

/--
The frames cut from the first `r + n` bytes of a stream, the first `r` of them
already held, are the announced frames that end within these bytes.
-/
theorem Delimits.mem_frames (h : Delimits capacity verdict span frame) (p : β) :
    forall (m : Nat) (s : Nat -> α) (r n : Nat), r + n <= m -> r < span s ->
      (p ∈ frames capacity verdict (takeFrom s r) (takeFrom (shift s r) n) <->
        exists k, frameStart span s (k + 1) <= r + n ∧
          frame (shift s (frameStart span s k)) = some p) := by
  intro m
  -- on the number of bytes, since every frame is at least one byte long
  induction m with
  | zero =>
      intro s r n hm hr
      have hn : n = 0 := by omega
      subst hn
      constructor
      · intro hp
        simp [takeFrom] at hp
      · rintro ⟨k, hk, _⟩
        rw [frameStart_shift] at hk
        have hpos := h.pos s
        omega
  | succ m ih =>
      intro s r n hm hr
      by_cases hn : r + n < span s
      · rw [(h.residual_of_lt s r n hn).left]
        constructor
        · intro hp
          cases hp
        · rintro ⟨k, hk, _⟩
          rw [frameStart_shift] at hk
          omega
      · have hpos := h.pos s
        rw [h.frames_span s hr (by omega), List.mem_append]
        have hrest := ih (shift s (span s)) 0 (r + n - span s) (by omega)
          (h.pos _)
        rw [shift_zero] at hrest
        have hrest' : p ∈ frames capacity verdict []
              (takeFrom (shift s (span s)) (r + n - span s)) <->
            exists k, frameStart span (shift s (span s)) (k + 1) <=
                r + n - span s ∧
              frame (shift (shift s (span s))
                (frameStart span (shift s (span s)) k)) = some p := by
          simpa [takeFrom] using hrest
        rw [hrest']
        constructor
        · rintro (hp | ⟨k, hk, hp⟩)
          · refine ⟨0, ?_, ?_⟩
            · rw [frameStart_shift, frameStart]
              omega
            · rw [frameStart, shift_zero]
              exact Option.mem_toList.mp hp
          · refine ⟨k + 1, ?_, ?_⟩
            · rw [frameStart_shift]
              omega
            · rw [frameStart_shift, ← shift_shift]
              exact hp
        · rintro ⟨k, hk, hp⟩
          cases k with
          | zero =>
              left
              rw [frameStart, shift_zero] at hp
              exact Option.mem_toList.mpr hp
          | succ k =>
              right
              rw [frameStart_shift] at hk
              rw [frameStart_shift, ← shift_shift] at hp
              exact ⟨k, by omega, hp⟩

end Streams

end Library
end ArduOS
