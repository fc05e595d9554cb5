import ArduOS.Kernel.Footprint

/-!
# Strings read from the heap

The loop that copies a string out of the heap gives the characters up to the
first cell that stops it; where the heap holds the bytes of a string and its
NUL, these are the bytes of the string up to the first one that stops it.
-/

namespace ArduOS

open Library

theorem toChar_ofByte (b : Byte) : toChar (ofByte b) = b := by
  apply BitVec.eq_of_toNat_eq
  have hlt := b.isLt
  unfold toChar ofByte
  rw [BitVec.toNat_ofInt]
  omega

theorem takeWhile_range_eq {bytes : List Byte} {n : Nat} {go : Nat -> Bool}
    {char : Nat -> Byte} {keep : Byte -> Bool}
    (hbyte : forall i (hi : i < bytes.length), i < n ->
      char i = bytes.get ⟨i, hi⟩ ∧ go i = keep (bytes.get ⟨i, hi⟩))
    (hend : bytes.length < n -> go bytes.length = false) :
    ((List.range n).takeWhile go).map char = (bytes.take n).takeWhile keep := by
  induction n generalizing bytes go char with
  | zero => simp
  | succ n ih =>
      rw [List.range_succ_eq_map]
      cases bytes with
      | nil =>
          have hstop : go 0 = false := hend (Nat.succ_pos n)
          simp [hstop]
      | cons b bytes =>
          have hhead := hbyte 0 (Nat.succ_pos _) (Nat.succ_pos n)
          simp only [List.get_eq_getElem, List.getElem_cons_zero] at hhead
          rw [List.take_succ_cons, List.takeWhile_cons, List.takeWhile_cons, hhead.right]
          cases hkeep : keep b with
          | false => simp
          | true =>
              simp only [if_true, List.map_cons, hhead.left, List.takeWhile_map,
                List.map_map]
              congr 1
              apply ih
              · intro i hi hin
                exact hbyte (i + 1) (Nat.succ_lt_succ hi) (Nat.succ_lt_succ hin)
              · intro hlt
                exact hend (Nat.succ_lt_succ hlt)

theorem cString_cString (bytes : List Byte) : cString (cString bytes) = cString bytes := by
  unfold cString
  induction bytes with
  | nil => rfl
  | cons c rest ih =>
      rw [List.takeWhile_cons]
      cases hc : c != 0#8 with
      | false => rfl
      | true =>
          simp only [if_true]
          rw [List.takeWhile_cons, hc, ih]
          simp

theorem takeWhile_word {word : List Byte} (h : ascii ' ' ∉ word) :
    word.takeWhile (fun b => ! decide (b = 0#8 ∨ b = ascii ' ')) = cString word := by
  unfold cString
  induction word with
  | nil => rfl
  | cons c rest ih =>
      rw [List.mem_cons, not_or] at h
      have hc : c ≠ ascii ' ' := fun heq => h.left heq.symm
      rw [List.takeWhile_cons, List.takeWhile_cons, ih h.right]
      cases hzero : c != 0#8 with
      | false =>
          rw [bne_eq_false_iff_eq] at hzero
          simp [hzero]
      | true =>
          rw [bne_iff_ne] at hzero
          simp [hzero, hc]

namespace Kernel

variable {sd : SdFat}

theorem isNull_ofByte (b : Byte) : isNull (ofByte b) = decide (b = 0#8) := by
  unfold isNull ofByte
  rw [decide_eq_decide]
  constructor
  · intro hzero
    apply BitVec.eq_of_toNat_eq
    simpa using hzero
  · intro hzero
    rw [hzero]
    rfl

theorem isNullOrSpace_ofByte (b : Byte) :
    isNullOrSpace (ofByte b) = decide (b = 0#8 ∨ b = ascii ' ') := by
  have hspace : ofByte b = 32 <-> b = ascii ' ' := by
    constructor
    · intro h
      apply BitVec.eq_of_toNat_eq
      have hnat : (b.toNat : Int) = 32 := h
      have hvalue : (ascii ' ').toNat = 32 := by decide
      omega
    · intro h
      rw [h]
      decide
  have hnull := isNull_ofByte b
  unfold isNull at hnull
  unfold isNullOrSpace
  rw [decide_eq_decide] at hnull ⊢
  rw [hnull, hspace]

theorem readString_fst (k : Kernel sd) (n : Nat) (inRange stop : Int -> Bool)
    (addr : Int) :
    (k.readString n inRange stop addr).1 =
      ((List.range n).takeWhile fun (i : Nat) => inRange (int16 (addr + i)) &&
        ! stop (k.globalHeap (int16 (addr + i)))).map fun (i : Nat) =>
          toChar (k.globalHeap (int16 (addr + i))) := by
  let go : Nat -> Bool := fun i => inRange (int16 (addr + i)) &&
    ! stop (k.globalHeap (int16 (addr + i)))
  let char : Nat -> Byte := fun i => toChar (k.globalHeap (int16 (addr + i)))
  have hprefix : forall i, i <= n -> (forall j, j < i -> go j = true) ->
      (i = n ∨ go i = false) -> (List.range n).takeWhile go = List.range i := by
    intro i hi hbefore hat
    have hsplit : List.range n = List.range i ++ (List.range (n - i)).map (i + ·) := by
      rw [← List.range_add]
      congr 1
      omega
    have hall : forall j, j ∈ List.range i -> go j = true := by
      intro j hj
      exact hbefore j (List.mem_range.mp hj)
    rw [hsplit, List.takeWhile_append_of_pos hall]
    rcases hat with heq | hstop
    · have hzero : n - i = 0 := by omega
      simp [hzero]
    · cases hrest : n - i with
      | zero => simp
      | succ m =>
          rw [List.range_succ_eq_map, List.map_cons, List.takeWhile_cons, Nat.add_zero,
            hstop]
          simp
  let inv : Nat -> List Byte × Kernel sd -> Prop := fun i s =>
    s.2.globalHeap = k.globalHeap ∧ s.1 = (List.range i).map char ∧
      forall j, j < i -> go j = true
  have hloop := forExit_ends (n := n) (f := readStringTurn inRange stop addr)
    (s := ([], k)) inv
    (fun s => s.1 = ((List.range n).takeWhile go).map char)
    ⟨rfl, rfl, by intro j hj; omega⟩ (by
      rintro i ⟨chars, k'⟩ hi ⟨hheap, hchars, hseen⟩
      simp only at hheap hchars
      simp only [readStringTurn]
      cases hrange : inRange (int16 (addr + i)) with
      | false =>
          have hstop : go i = false := by simp [go, hrange]
          simp only [Bool.false_eq_true, not_false_eq_true, if_true, Flow.Ends]
          rw [hchars, hprefix i (by omega) hseen (Or.inr hstop)]
      | true =>
          simp only [not_true_eq_false, if_false, heapGet, hheap]
          cases hcell : stop (k.globalHeap (int16 (addr + i))) with
          | true =>
              have hstop : go i = false := by simp [go, hcell]
              simp only [if_true, Flow.Ends]
              rw [hchars, hprefix i (by omega) hseen (Or.inr hstop)]
          | false =>
              simp only [Bool.false_eq_true, if_false]
              refine ⟨hheap, ?_, ?_⟩
              · simp [hchars, List.range_succ, char]
              · intro j hj
                by_cases hji : j = i
                · simp [hji, go, hrange, hcell]
                · exact hseen j (by omega))
  rw [readString_eq]
  generalize forExit n _ _ = flow at hloop ⊢
  cases flow with
  | next s =>
      rcases hloop with ⟨_, hchars, hseen⟩
      have hwhole := hprefix n (Nat.le_refl n) hseen (Or.inl rfl)
      have hread : s.1 = ((List.range n).takeWhile go).map char := by
        rw [hwhole]
        exact hchars
      exact hread
  | exit s => exact hloop

structure HoldsString (heap : Int -> Int) (addr : Int) (bytes : List Byte) (n : Nat) :
    Prop where
  cell : forall i, i < n -> i < bytes.length -> heap (addr + i) = ofByte (bufferOf bytes i)
  terminator : bytes.length < n -> heap (addr + bytes.length) = 0

theorem readString_holds (k : Kernel sd) (stop : Int -> Bool) (keep : Byte -> Bool)
    {n : Nat} {addr : Int} {bytes : List Byte}
    (h : HoldsString k.globalHeap addr bytes n) (hlo : 0 <= addr)
    (hhi : addr + n <= GLOBAL_HEAP_SIZE) (hzero : stop 0 = true)
    (hkeep : forall b : Byte, keep b = ! stop (ofByte b)) :
    (k.readString n belowHeapSize stop addr).1 = (bytes.take n).takeWhile keep := by
  have hsize : (GLOBAL_HEAP_SIZE : Int) = 1024 := rfl
  have hcell : forall i : Nat, i < n -> int16 (addr + i) = addr + i ∧
      belowHeapSize (addr + i) = true := by
    intro i hi
    refine ⟨int16_eq_self (by omega) (by omega), ?_⟩
    unfold belowHeapSize
    rw [decide_eq_true_eq]
    omega
  rw [readString_fst]
  apply takeWhile_range_eq
  · intro i hi hin
    have hbyte : bufferOf bytes i = bytes.get ⟨i, hi⟩ := by
      simp [bufferOf, List.getD, hi]
    rw [(hcell i hin).left, (hcell i hin).right, h.cell i hin hi, hbyte]
    exact ⟨toChar_ofByte _, by rw [hkeep, Bool.true_and]⟩
  · intro hlt
    rw [(hcell _ hlt).left, h.terminator hlt, hzero]
    simp

theorem readString_cString (k : Kernel sd) {n : Nat} {addr : Int} {bytes : List Byte}
    (h : HoldsString k.globalHeap addr bytes n) (hlo : 0 <= addr)
    (hhi : addr + n <= GLOBAL_HEAP_SIZE) :
    (k.readString n belowHeapSize isNull addr).1 = cString (bytes.take n) := by
  apply k.readString_holds isNull (fun c => c != 0#8) h hlo hhi rfl
  intro b
  rw [isNull_ofByte]
  rfl

theorem readString_word (k : Kernel sd) {n : Nat} {addr : Int} {bytes : List Byte}
    (hword : ascii ' ' ∉ bytes.take n) (h : HoldsString k.globalHeap addr bytes n)
    (hlo : 0 <= addr) (hhi : addr + n <= GLOBAL_HEAP_SIZE) :
    (k.readString n belowHeapSize isNullOrSpace addr).1 = cString (bytes.take n) := by
  rw [← takeWhile_word hword]
  apply k.readString_holds isNullOrSpace _ h hlo hhi rfl
  intro b
  rw [isNullOrSpace_ofByte]

end Kernel
end ArduOS
