import ArduOS.Kernel.Communication
import ArduOS.Kernel.Records

/-!
# Code that only touches the heap

The code that copies strings and listings into and out of the heap, or writes
to the serial line, changes the heap, the output and the log, and nothing else.
`Touches` says so, with the cells it may read and write.
-/

namespace ArduOS

open Library

namespace Kernel

variable {sd : SdFat}

inductive HeapAccess (R W : Int -> Prop) : Access -> Prop where
  | read (c : Int) (h : R c) : HeapAccess R W (.heapRead c)
  | write (c : Int) (h : W c) : HeapAccess R W (.heapWrite c)

structure Touches (R W : Int -> Prop) (k k' : Kernel sd) : Prop where
  changed : exists heap new tx out,
    k' = { k with
      globalHeap := heap, log := k.log ++ new, halTxBuffer := tx, serialOut := out } ∧
    forall a, a ∈ new -> HeapAccess R W a
  kept : forall c, ¬ W c -> k'.globalHeap c = k.globalHeap c

variable {R W R' W' : Int -> Prop} {k k' k'' : Kernel sd}

theorem Touches.refl (k : Kernel sd) : Touches R W k k :=
  ⟨⟨k.globalHeap, [], k.halTxBuffer, k.serialOut, by simp, by simp⟩, fun _ _ => rfl⟩

theorem Touches.trans (h : Touches R W k k') (h' : Touches R W k' k'') :
    Touches R W k k'' := by
  rcases h with ⟨⟨heap, new, tx, out, rfl, hnew⟩, hkept⟩
  rcases h' with ⟨⟨heap', new', tx', out', rfl, hnew'⟩, hkept'⟩
  constructor
  · refine ⟨heap', new ++ new', tx', out', by simp, ?_⟩
    intro a ha
    rcases List.mem_append.mp ha with hin | hin
    · exact hnew a hin
    · exact hnew' a hin
  · intro c hc
    exact (hkept' c hc).trans (hkept c hc)

theorem Touches.tasks (h : Touches R W k k') : k'.tasks = k.tasks := by
  rcases h.changed with ⟨heap, new, tx, out, rfl, _⟩
  rfl

theorem Touches.card (h : Touches R W k k') : k'.card = k.card := by
  rcases h.changed with ⟨heap, new, tx, out, rfl, _⟩
  rfl

theorem Touches.hal (h : Touches R W k k') : k'.hal = k.hal := by
  rcases h.changed with ⟨heap, new, tx, out, rfl, _⟩
  rfl

theorem Touches.records (h : Touches R W k k') : k'.records = k.records := by
  rcases h.changed with ⟨heap, new, tx, out, rfl, hnew⟩
  apply Records.ext
  · rfl
  · rfl
  · apply startedIn_append
    intro a ha parent child waitOpt heq
    subst heq
    cases hnew _ ha

/-!
## Single cells and output
-/

theorem stdWrite_touches (k : Kernel sd) (fd : Int) (str : List Byte) :
    Touches R W k (k.stdWrite fd str) := by
  rcases stdWrite_eq k fd str with ⟨tx, out, h⟩
  rw [h]
  exact ⟨⟨k.globalHeap, [], tx, out, by simp, by simp⟩, fun _ _ => rfl⟩

theorem heapGet_touches (k : Kernel sd) {c : Int} (h : R c) :
    Touches R W k (k.heapGet c).2 := by
  constructor
  · refine ⟨k.globalHeap, [.heapRead c], k.halTxBuffer, k.serialOut, rfl, ?_⟩
    intro a ha
    rw [List.mem_singleton.mp ha]
    exact .read c h
  · intro _ _
    rfl

theorem heapSet_touches (k : Kernel sd) {c : Int} (val : Int) (h : W c) :
    Touches R W k (k.heapSet c val) := by
  constructor
  · refine ⟨_, [.heapWrite c], k.halTxBuffer, k.serialOut, rfl, ?_⟩
    intro a ha
    rw [List.mem_singleton.mp ha]
    exact .write c h
  · intro c' hc'
    have hne : c' ≠ c := by
      intro heq
      exact hc' (heq ▸ h)
    simp [heapSet, note, hne]

theorem heapSetBelow_touches (k : Kernel sd) {c : Int} (val : Int)
    (h : c < GLOBAL_HEAP_SIZE -> W c) : Touches R W k (k.heapSetBelow c val) := by
  unfold heapSetBelow
  split
  · rename_i hc
    exact heapSet_touches k val (h hc)
  · exact Touches.refl k

/-!
## Strings
-/

def readStringTurn (inRange stop : Int -> Bool) (addr : Int) (i : Nat)
    (s : List Byte × Kernel sd) : Flow (List Byte × Kernel sd) (List Byte × Kernel sd) :=
  let (chars, k) := s
  if ¬ inRange (int16 (addr + i)) then .exit (chars, k)
  else
    let (val, k) := k.heapGet (int16 (addr + i))
    if stop val then .exit (chars, k) else .next (chars ++ [toChar val], k)

theorem readString_eq (k : Kernel sd) (n : Nat) (inRange stop : Int -> Bool)
    (addr : Int) :
    k.readString n inRange stop addr =
      (forExit n (readStringTurn inRange stop addr) ([], k)).value := rfl

theorem readString_touches (k : Kernel sd) (n : Nat) (inRange stop : Int -> Bool)
    (addr : Int)
    (h : forall i : Nat, i < n -> inRange (int16 (addr + i)) = true ->
      (forall j : Nat, j < i -> stop (k.globalHeap (int16 (addr + j))) = false) ->
      R (int16 (addr + i))) :
    Touches R W k (k.readString n inRange stop addr).2 := by
  let inv : Nat -> List Byte × Kernel sd -> Prop := fun i s =>
    Touches R W k s.2 ∧ s.2.globalHeap = k.globalHeap ∧
      forall j : Nat, j < i -> stop (k.globalHeap (int16 (addr + j))) = false
  have hloop := forExit_ends (n := n) (f := readStringTurn inRange stop addr)
    (s := ([], k)) inv
    (fun s => Touches R W k s.2) ⟨Touches.refl k, rfl, by intro j hj; omega⟩ (by
      rintro i ⟨chars, k'⟩ hi ⟨htouches, hheap, hseen⟩
      simp only at htouches hheap
      simp only [readStringTurn]
      cases hrange : inRange (int16 (addr + i)) with
      | false =>
          simp only [Bool.false_eq_true, not_false_eq_true, if_true]
          exact htouches
      | true =>
          have hcell := htouches.trans
            (heapGet_touches k' (W := W) (h i hi hrange hseen))
          simp only [not_true_eq_false, if_false, heapGet, hheap]
          cases hstop : stop (k.globalHeap (int16 (addr + i))) with
          | true =>
              simp only [if_true]
              exact hcell
          | false =>
              simp only [Bool.false_eq_true, if_false]
              refine ⟨hcell, hheap, ?_⟩
              intro j hj
              by_cases hji : j = i
              · rw [hji]
                exact hstop
              · exact hseen j (by omega))
  rw [readString_eq]
  generalize forExit n _ _ = flow at hloop ⊢
  cases flow with
  | next s => exact hloop.left
  | exit s => exact hloop

theorem writeString_touches (k : Kernel sd) (addr : Int) (str : List Byte)
    (h : forall i : Nat, i <= str.length -> int16 (addr + i) < GLOBAL_HEAP_SIZE ->
      W (int16 (addr + i))) : Touches R W k (k.writeString addr str) := by
  unfold writeString
  have hloop : Touches R W k (forLoop str.length (fun i k =>
      Kernel.heapSetBelow k (int16 (addr + i)) (ofChar (bufferOf str i))) k) := by
    apply forLoop_preserves (fun k' => Touches R W k k') (Touches.refl k)
    intro i k' hi hk'
    exact hk'.trans (heapSetBelow_touches k' _ (h i (by omega)))
  exact hloop.trans (heapSetBelow_touches _ _ (h str.length (Nat.le_refl _)))

/-!
## Listings
-/

section Listing

variable {bufAddr bufSize : Int}

/-- How many cells a listing may write; `buf_size - 1` is computed in `int`. -/
def lsSpan (bufSize : Int) : Int := max 1 (max bufSize (int16 (bufSize - 1) + 1))

def InBuffer (bufAddr bufSize c : Int) : Prop :=
  exists i : Int, 0 <= i ∧ i < lsSpan bufSize ∧ c = int16 (bufAddr + i) ∧
    c < GLOBAL_HEAP_SIZE

structure Listed (bufAddr bufSize : Int) (k : Kernel sd) (s : Int × Kernel sd) :
    Prop where
  touches : Touches (fun _ => False) (InBuffer bufAddr bufSize) k s.2
  nonneg : 0 <= s.1
  room : s.1 < lsSpan bufSize

theorem Listed.put {s : Int × Kernel sd} (h : Listed bufAddr bufSize k s) (val : Int) :
    Listed bufAddr bufSize k (lsPut bufAddr bufSize s val) := by
  rcases s with ⟨writtenLen, k'⟩
  have hnonneg : 0 <= writtenLen := h.nonneg
  have hroom : writtenLen < lsSpan bufSize := h.room
  unfold lsPut
  simp only
  by_cases hless : writtenLen < int16 (bufSize - 1)
  · rw [if_pos hless]
    by_cases hcell : int16 (bufAddr + writtenLen) < GLOBAL_HEAP_SIZE
    · rw [if_pos hcell]
      constructor
      · apply h.touches.trans
        apply heapSet_touches
        exact ⟨writtenLen, hnonneg, hroom, rfl, hcell⟩
      · simp only
        omega
      · simp only [lsSpan]
        omega
    · rw [if_neg hcell]
      exact h
  · rw [if_neg hless]
    exact h

theorem Listed.entry {s : Int × Kernel sd} (h : Listed bufAddr bufSize k s)
    (entry : List Byte × Bool) :
    Listed bufAddr bufSize k (lsEntry bufAddr bufSize s entry) := by
  unfold lsEntry
  apply Listed.put
  induction lsName entry generalizing s with
  | nil => exact h
  | cons c name ih => exact ih (h.put (ofChar c))

theorem lsList_touches (k : Kernel sd) (dir : sd.File) (bufAddr bufSize : Int) :
    Touches (fun _ => False) (InBuffer bufAddr bufSize)
      (k.withCard (sd.entries k.card dir).2) (k.lsList dir bufAddr bufSize) := by
  have hclear : Touches (fun _ => False) (InBuffer bufAddr bufSize) k
      (forLoop bufSize.toNat (fun i k =>
        Kernel.heapSetBelow k (int16 (bufAddr + i)) 0) k) := by
    apply forLoop_preserves
      (fun k' => Touches (fun _ => False) (InBuffer bufAddr bufSize) k k')
      (Touches.refl k)
    intro i k' hi hk'
    apply hk'.trans
    apply heapSetBelow_touches
    intro hcell
    refine ⟨i, by omega, ?_, rfl, hcell⟩
    unfold lsSpan
    omega
  have hentries : forall (entries : List (List Byte × Bool)) (s : Int × Kernel sd),
      Listed bufAddr bufSize (k.withCard (sd.entries k.card dir).2) s ->
      Listed bufAddr bufSize (k.withCard (sd.entries k.card dir).2)
        (entries.foldl (lsEntry bufAddr bufSize) s) := by
    intro entries
    induction entries with
    | nil =>
        intro s hs
        exact hs
    | cons entry entries ih =>
        intro s hs
        exact ih _ (hs.entry entry)
  unfold lsList
  simp only
  have hcard := hclear.card
  rcases hclear with ⟨⟨heap, new, tx, out, hk', hnew⟩, hkept⟩
  rw [hk'] at hkept ⊢
  simp only
  have hstart : Touches (fun _ => False) (InBuffer bufAddr bufSize)
      (k.withCard (sd.entries k.card dir).2)
      { k with
        card := (sd.entries k.card dir).2, globalHeap := heap, log := k.log ++ new
        halTxBuffer := tx, serialOut := out } :=
    ⟨⟨heap, new, tx, out, rfl, hnew⟩, hkept⟩
  have hspan : 0 < lsSpan bufSize := by
    unfold lsSpan
    omega
  have hlisted := hentries (sd.entries k.card dir).1
    (0, { k with
      card := (sd.entries k.card dir).2, globalHeap := heap, log := k.log ++ new
      halTxBuffer := tx, serialOut := out })
    ⟨hstart, Int.le_refl 0, hspan⟩
  apply hlisted.touches.trans
  apply heapSetBelow_touches
  intro hcell
  exact ⟨_, hlisted.nonneg, hlisted.room, rfl, hcell⟩

end Listing

/-!
## The daemon's copies
-/

abbrev TouchesHeap (k k' : Kernel sd) : Prop :=
  Touches (fun _ => True) (fun _ => True) k k'

theorem copyLoop_touches (k : Kernel sd) (physBase : Int) (data : Buffer) (n : Nat)
    {overflow : Kernel sd -> Kernel sd} (h : forall k, TouchesHeap k (overflow k)) :
    TouchesHeap k (k.copyLoop physBase data n overflow) := by
  unfold copyLoop
  apply forExit_value_preserves (fun k' => TouchesHeap k k') (Touches.refl k)
  intro i k' _ hk'
  by_cases hend : physBase + i >= GLOBAL_HEAP_SIZE
  · rw [if_pos hend]
    exact hk'.trans (h k')
  · rw [if_neg hend]
    exact hk'.trans (heapSet_touches k' _ trivial)

theorem commCopyToHeap_touches (k : Kernel sd) (t : TaskId) (data : Buffer)
    (len : Nat) : TouchesHeap k (k.commCopyToHeap t data len).2 := by
  unfold commCopyToHeap
  split
  · exact Touches.refl k
  · apply (copyLoop_touches k _ data _ fun k => stdWrite_touches k _ _).trans
    exact heapSetBelow_touches _ _ fun _ => trivial

theorem commStorePayload_touches (k : Kernel sd) (t : TaskId) (payload : List Byte) :
    TouchesHeap k (k.commStorePayload t payload).2 := by
  unfold commStorePayload
  split
  · exact commCopyToHeap_touches k t _ _
  · simp only
    split
    · exact heapSet_touches k _ trivial
    · exact Touches.refl k

theorem commStorePart_touches (k : Kernel sd) (t : TaskId) (offset : Int)
    (part : List Byte) : TouchesHeap k (k.commStorePart t offset part) := by
  unfold commStorePart
  split
  · apply (copyLoop_touches k _ _ _ Touches.refl).trans
    exact heapSetBelow_touches _ _ fun _ => trivial
  · exact Touches.refl k

theorem commParseExec_touches (k : Kernel sd) (t : TaskId) (payload : List Byte) :
    TouchesHeap k (k.commParseExec t payload).2 := by
  unfold commParseExec
  split
  · simp only
    split
    · exact commStorePart_touches k t _ _
    · exact (commStorePart_touches k t _ _).trans (commStorePart_touches _ t _ _)
  · exact commCopyToHeap_touches k t _ _

theorem reportsError_touches (k : Kernel sd) (t : TaskId) (offset : Int) :
    TouchesHeap k (k.reportsError t offset).2 := by
  unfold reportsError
  split
  · exact heapGet_touches k trivial
  · exact Touches.refl k

theorem commSendHeapString_touches (k : Kernel sd) (t : TaskId) (offset : Int)
    (maxLen : Nat) : TouchesHeap k (k.commSendHeapString t offset maxLen) := by
  unfold commSendHeapString
  split
  · exact Touches.refl k
  · have hread : TouchesHeap k (k.readString (min maxLen 127) belowHeapSize isNull
        ((k.tasks t).heapBase + offset)).2 :=
      readString_touches k _ _ _ _ fun _ _ _ _ => trivial
    simp only
    split
    · exact hread.trans (stdWrite_touches _ _ _)
    · exact hread

end Kernel
end ArduOS
