import ArduOS.Kernel.CardImage
import ArduOS.Kernel.Footprint
import ArduOS.Library.Cells

/-!
# What a listing looks like

`Syscall_ls` writes the names of a directory character by character under one
write position.  With a buffer inside the heap the cells end up with the text of
the whole directory, cut one short of the size of the buffer, and zeros.
-/

namespace ArduOS

open Library

/-- The name as `getName` returns it, in an array of 32 characters. -/
def entryName (entry : List Byte × Bool) : List Byte := (cString entry.1).take 31

def renderEntry (entry : List Byte × Bool) : List Byte :=
  entryName entry ++
    (if entry.2 = true ∧ (entryName entry).length < 30 then text "/" else []) ++ text "\n"

def render (entries : List (List Byte × Bool)) : List Byte :=
  entries.flatMap renderEntry

namespace Kernel

variable {sd : SdFat}

theorem heapSet_globalHeap (k : Kernel sd) (c val : Int) :
    (k.heapSet c val).globalHeap = Function.update k.globalHeap c val := rfl

section Buffer

variable {b s : Int}

/-- Between two characters: of `out` the buffer holds what there is room for. -/
structure Written (heap : Int -> Int) (b s : Int) (out : List Int) (st : Int × Kernel sd) :
    Prop where
  len : st.1 = (out.take (s - 1).toNat).length
  heap : st.2.globalHeap = stored heap b (out.take (s - 1).toNat)

theorem Written.put (hlo : 0 <= b) (hsize : 1 <= s) (hfit : b + s <= GLOBAL_HEAP_SIZE)
    {heap : Int -> Int} {out : List Int} {st : Int × Kernel sd}
    (h : Written heap b s out st) (val : Int) :
    Written heap b s (out ++ [val]) (lsPut b s st val) := by
  have h1024 : GLOBAL_HEAP_SIZE = 1024 := rfl
  rcases st with ⟨writtenLen, k⟩
  rcases h with ⟨hlen, hheap⟩
  simp only at hlen hheap
  rw [List.length_take] at hlen
  have hroom : int16 (s - 1) = s - 1 := int16_eq_self (by omega) (by omega)
  have hcell : int16 (b + writtenLen) = b + writtenLen :=
    int16_eq_self (by omega) (by omega)
  unfold lsPut
  simp only [hroom, hcell]
  by_cases hfull : writtenLen < s - 1
  · -- everything so far is in the buffer, and one more fits
    have hall : out.take (s - 1).toNat = out := List.take_of_length_le (by omega)
    have hmore : (out ++ [val]).take (s - 1).toNat = out ++ [val] := by
      apply List.take_of_length_le
      simp only [List.length_append, List.length_singleton]
      omega
    rw [if_pos hfull, if_pos (by omega)]
    rw [hall] at hheap
    constructor
    · rw [hmore]
      simp only [List.length_append, List.length_singleton]
      omega
    · have hend : writtenLen = out.length := by omega
      rw [hmore, heapSet_globalHeap, hheap, hend]
      exact stored_snoc heap b out val
  · have hcut : (out ++ [val]).take (s - 1).toNat = out.take (s - 1).toNat :=
      List.take_append_of_le_length (by omega)
    rw [if_neg hfull]
    constructor
    · rw [hcut, List.length_take]
      exact hlen
    · rw [hcut]
      exact hheap

theorem Written.puts (hlo : 0 <= b) (hsize : 1 <= s) (hfit : b + s <= GLOBAL_HEAP_SIZE)
    {heap : Int -> Int} (vals : List Int) :
    forall {out : List Int} {st : Int × Kernel sd}, Written heap b s out st ->
      Written heap b s (out ++ vals) (vals.foldl (lsPut b s) st) := by
  induction vals with
  | nil =>
      intro out st h
      rw [List.append_nil]
      exact h
  | cons val vals ih =>
      intro out st h
      have hput := ih (h.put hlo hsize hfit val)
      rw [List.append_assoc] at hput
      exact hput

theorem lsEntry_eq (b s : Int) (st : Int × Kernel sd) (entry : List Byte × Bool) :
    lsEntry b s st entry = ((renderEntry entry).map ofChar).foldl (lsPut b s) st := by
  have hname : lsName entry = entryName entry ++
      (if entry.2 = true ∧ (entryName entry).length < 30 then text "/" else []) := by
    unfold lsName entryName
    simp only
    split
    · rfl
    · rw [List.append_nil]
  have hnewline : (text "\n").map ofChar = [ofChar (ascii '\n')] := by decide
  unfold lsEntry renderEntry
  rw [← hname, List.map_append, List.foldl_append, hnewline, List.foldl_map]
  rfl

theorem lsEntries_eq (b s : Int) (entries : List (List Byte × Bool)) :
    forall st : Int × Kernel sd, entries.foldl (lsEntry b s) st =
      ((render entries).map ofChar).foldl (lsPut b s) st := by
  induction entries with
  | nil =>
      intro st
      rfl
  | cons entry entries ih =>
      intro st
      rw [List.foldl_cons, ih, lsEntry_eq]
      unfold render
      rw [List.flatMap_cons, List.map_append, List.foldl_append]

theorem clear_globalHeap (k : Kernel sd) (hlo : 0 <= b)
    (hfit : b + s <= GLOBAL_HEAP_SIZE) :
    (forLoop s.toNat (fun i k => k.heapSetBelow (int16 (b + i)) 0) k).globalHeap =
      stored k.globalHeap b (List.replicate s.toNat 0) := by
  have h1024 : GLOBAL_HEAP_SIZE = 1024 := rfl
  apply forLoop_invariant (fun i (k' : Kernel sd) =>
    k'.globalHeap = stored k.globalHeap b (List.replicate i 0))
  · simp
  · intro i k' hi hk'
    have hcell : int16 (b + (i : Int)) = b + i := int16_eq_self (by omega) (by omega)
    unfold heapSetBelow
    rw [hcell, if_pos (by omega), heapSet_globalHeap, hk', List.replicate_succ',
      ← stored_snoc, List.length_replicate]

theorem lsList_cells (k : Kernel sd) (dir : sd.File) (hlo : 0 <= b) (hsize : 1 <= s)
    (hfit : b + s <= GLOBAL_HEAP_SIZE) :
    (forall i : Nat, i < s -> (k.lsList dir b s).globalHeap (b + i) =
        ((((render (sd.entries k.card dir).1).take (s - 1).toNat)[i]?).map ofChar).getD 0) ∧
      forall c, c < b ∨ b + s <= c -> (k.lsList dir b s).globalHeap c = k.globalHeap c := by
  have h1024 : GLOBAL_HEAP_SIZE = 1024 := rfl
  have hcleared := k.clear_globalHeap (b := b) (s := s) hlo hfit
  have hcard : (forLoop s.toNat (fun i k => k.heapSetBelow (int16 (b + i)) 0) k).card =
      k.card := by
    apply forLoop_preserves (fun k' : Kernel sd => k'.card = k.card) rfl
    intro i k' _ hk'
    unfold heapSetBelow
    split
    · exact hk'
    · exact hk'
  unfold lsList
  simp only
  generalize forLoop s.toNat (fun i k => k.heapSetBelow (int16 (b + i)) 0) k = k₁
    at hcleared hcard ⊢
  rw [hcard, lsEntries_eq]
  generalize (render (sd.entries k.card dir).1) = out
  have hstart : Written k₁.globalHeap b s []
      ((0, k₁.withCard (sd.entries k.card dir).2) : Int × Kernel sd) := by
    constructor
    · simp
    · simp [withCard]
  have hwritten := hstart.puts hlo hsize hfit (out.map ofChar)
  generalize (out.map ofChar).foldl (lsPut b s) (0, _) = st at hwritten ⊢
  rcases st with ⟨writtenLen, k₂⟩
  rcases hwritten with ⟨hlen, hheap⟩
  simp only [List.nil_append] at hlen hheap ⊢
  have hcell : int16 (b + writtenLen) = b + writtenLen := by
    rw [List.length_take] at hlen
    exact int16_eq_self (by omega) (by omega)
  have hroom : writtenLen <= s - 1 := by
    rw [List.length_take] at hlen
    omega
  have hfinal : (k₂.heapSetBelow (int16 (b + writtenLen)) 0).globalHeap =
      stored k₁.globalHeap b ((out.map ofChar).take (s - 1).toNat ++ [0]) := by
    unfold heapSetBelow
    rw [hcell, if_pos (by omega), heapSet_globalHeap, hheap, hlen]
    exact stored_snoc _ _ _ _
  rw [hfinal, hcleared]
  constructor
  · intro i hi
    rw [stored_at, stored_at, ← List.map_take, List.getElem?_replicate, if_pos (by omega)]
    by_cases hin : i < (out.take (s - 1).toNat).length
    · rw [List.getElem?_append_left (by simpa using hin), List.getElem?_map,
        List.getElem?_eq_getElem hin]
      rfl
    · rw [List.getElem?_eq_none (l := out.take (s - 1).toNat) (by omega)]
      by_cases hat : i = (out.take (s - 1).toNat).length
      · rw [hat, ← List.length_map ofChar, List.getElem?_concat_length]
        rfl
      · rw [List.getElem?_eq_none]
        · rfl
        · simp only [List.length_append, List.length_map, List.length_singleton]
          omega
  · intro c hc
    have hlength : ((out.map ofChar).take (s - 1).toNat ++ [(0 : Int)]).length <= s := by
      simp only [List.length_append, List.length_singleton, List.length_take]
      omega
    rcases hc with hbelow | habove
    · rw [stored_below _ _ hbelow, stored_below _ _ hbelow]
    · rw [stored_above _ (by omega), stored_above]
      rw [List.length_replicate]
      omega

end Buffer

theorem lsReopen_globalHeap (k : Kernel sd) (t : TaskId) (pos : BitVec 32) :
    (k.lsReopen t pos).globalHeap = k.globalHeap := by
  have hopened := k.openFile_quiet t (k.tasks t).filename
  unfold lsReopen
  simp only
  split
  · exact (hopened.trans (seekFile_quiet _ t pos)).heap
  · exact hopened.heap

theorem lsWith_globalHeap {k : Kernel sd} {t : TaskId} {selector : Int} {dir : sd.File}
    {card : sd.Card} (s bufAddr : Int)
    (hopen : sd.openPath k.card (k.lsTargetPath t selector) = (some dir, card)) :
    (k.lsWith t selector s bufAddr).globalHeap =
      (((k.closeFile t).withCard card).lsList dir (k.getPhysAddr t bufAddr) s).globalHeap := by
  have hcard : (k.closeFile t).card = k.card := rfl
  unfold lsWith
  simp only [hcard, hopen]
  split
  · exact lsReopen_globalHeap _ t _
  · rfl

/--
A listing whose directory opens leaves the first `s - 1` characters of the text
of the directory in its buffer of `s` cells, zeros behind them, and every other
cell of the heap as it was.
-/
theorem listing_rendered {k : Kernel sd} {t : TaskId} {dir : sd.File} {b s : Int}
    (hbuffer : k.getPhysAddr t (k.operand t 2) = b) (hcells : k.operand t 1 = s)
    (hlo : 0 <= b) (hsize : 1 <= s) (hfit : b + s <= GLOBAL_HEAP_SIZE)
    (hopen : (sd.openPath k.card (k.lsTargetPath t (k.operand t 0))).1 = some dir) :
    let entries :=
      (sd.entries (sd.openPath k.card (k.lsTargetPath t (k.operand t 0))).2 dir).1
    (forall i : Nat, i < s -> (k.syscallLs t).globalHeap (b + i) =
        ((((render entries).take (s - 1).toNat)[i]?).map ofChar).getD 0) ∧
      forall c, c < b ∨ b + s <= c -> (k.syscallLs t).globalHeap c = k.globalHeap c := by
  have htask := k.stackPops_task t
  rw [syscallLs_eq, hcells]
  generalize hk₁ : (((k.stackPop t).2.stackPop t).2.stackPop t).2 = k₁ at htask ⊢
  have hcard : k₁.card = k.card := by rw [← hk₁]; rfl
  have hheap : k₁.globalHeap = k.globalHeap := by rw [← hk₁]; rfl
  have hpath : k₁.lsTargetPath t (k.operand t 0) = k.lsTargetPath t (k.operand t 0) := by
    simp [lsTargetPath, resolvePath, htask]
  have hphys : k₁.getPhysAddr t (k.operand t 2) = b := by
    rw [← hbuffer]
    apply getPhysAddr_congr
    · rw [htask]
    · rw [htask]
  cases hopened : sd.openPath k.card (k.lsTargetPath t (k.operand t 0)) with
  | mk found card =>
      rw [hopened] at hopen
      simp only at hopen
      subst hopen
      rw [← hpath, ← hcard] at hopened
      have hlisted := ((k₁.closeFile t).withCard card).lsList_cells dir hlo hsize hfit
      have hkept : ((k₁.closeFile t).withCard card).globalHeap = k.globalHeap := hheap
      rw [hkept] at hlisted
      rw [lsWith_globalHeap s (k.operand t 2) hopened, hphys]
      exact hlisted

def showingRoot : Kernel CardImage.sdFat :=
  let k : Kernel CardImage.sdFat :=
    boot
      { files := []
        directories := [(text "/", [(text "a.txt", false), (text "bin", true)])]
        opensLeft := 1 }
  ((k.stackPush 0 200).stackPush 0 8).stackPush 0 0

set_option maxRecDepth 4000 in
/-- The listing is cut in the middle of a name. -/
theorem listing_rendered_root :
    (showingRoot.syscallLs 0).globalHeap 206 = ofChar (ascii 'b') ∧
      (showingRoot.syscallLs 0).globalHeap 207 = 0 ∧
      (showingRoot.syscallLs 0).globalHeap 208 = showingRoot.globalHeap 208 := by
  have hfacts : showingRoot.getPhysAddr 0 (showingRoot.operand 0 2) = 200 ∧
      showingRoot.operand 0 1 = 8 ∧
      (CardImage.sdFat.openPath showingRoot.card
        (showingRoot.lsTargetPath 0 (showingRoot.operand 0 0))).1.map ImageFile.listing =
          some (some [(text "a.txt", false), (text "bin", true)]) := by decide +kernel
  rcases hfacts with ⟨hbuffer, hcells, hdir⟩
  rcases Option.map_eq_some_iff.mp hdir with ⟨dir, hopen, hlisting⟩
  rcases listing_rendered hbuffer hcells (by decide) (by decide) (by decide) hopen with
    ⟨hinside, houtside⟩
  have hentries : forall card, (CardImage.sdFat.entries card dir).1 =
      [(text "a.txt", false), (text "bin", true)] := by
    intro card
    simp [CardImage.sdFat, hlisting]
  simp only [hentries] at hinside
  have hchar := hinside 6 (by decide)
  have hzero := hinside 7 (by decide)
  have hcells : (200 : Int) + (6 : Nat) = 206 ∧ (200 : Int) + (7 : Nat) = 207 := by decide
  rw [hcells.left] at hchar
  rw [hcells.right] at hzero
  refine ⟨hchar.trans ?_, hzero.trans ?_, houtside 208 (.inr (by decide))⟩
  · decide
  · decide

end Kernel
end ArduOS
