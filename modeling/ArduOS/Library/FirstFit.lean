import ArduOS.Library.Loops

/-!
# First fit

The search for a run of free cells that counts the free cells seen in a row and
stops as soon as there are enough of them.  It finds the first run there is.
-/

namespace ArduOS
namespace Library

variable {ρ : Type*}

/-- The cells `start`, ..., `start + size - 1` of the first `n` cells are free. -/
structure FreeRun (taken : Int -> Bool) (n : Nat) (start size : Int) : Prop where
  nonneg : 0 <= start
  pos : 0 < size
  fits : start + size <= n
  free : forall c, start <= c -> c < start + size -> taken c = false

def firstFitTurn (taken : Int -> Bool) (size : Int) (found : Int -> ρ) (i : Nat)
    (run : Int × Int) : Flow (Int × Int) ρ :=
  let (count, start) := run
  if ¬ taken i then
    let start := if count = 0 then (i : Int) else start
    let count := count + 1
    if count = size then .exit (found start) else .next (count, start)
  else .next (0, start)

/-- The search before turn `i`: the free run that ends there, and none found. -/
structure Searching (taken : Int -> Bool) (size : Int) (i : Nat) (run : Int × Int) :
    Prop where
  nonneg : 0 <= run.1
  start : run.1 ≠ 0 -> run.2 + run.1 = i ∧ 0 <= run.2
  free : forall c, (i : Int) - run.1 <= c -> c < i -> taken c = false
  longest : forall s : Int, (forall c : Int, s <= c -> c < i -> taken c = false) ->
    0 <= s -> i - s <= run.1
  short : 0 < size -> run.1 < size
  none : forall s, ¬ FreeRun taken i s size

theorem searching_start (taken : Int -> Bool) (size : Int) :
    Searching taken size 0 (0, -1) := by
  constructor
  · exact Int.le_refl 0
  · intro hcontra
    exact absurd rfl hcontra
  · intro c hlo hhi
    simp only at hlo
    omega
  · intro s _ hs
    simp only
    omega
  · exact id
  · intro s hrun
    have hnonneg := hrun.nonneg
    have hpos := hrun.pos
    have hfits := hrun.fits
    omega

theorem Searching.reset {taken : Int -> Bool} {size : Int} {i : Nat}
    {run : Int × Int} (h : Searching taken size i run) (htaken : taken i = true) :
    Searching taken size (i + 1) (0, run.2) := by
  have hcell : forall s : Int, s <= i ->
      ¬ forall c, s <= c -> c < (i + 1 : Nat) -> taken c = false := by
    intro s hs hfree
    rw [hfree i hs (by omega)] at htaken
    cases htaken
  constructor
  · exact Int.le_refl 0
  · intro hcontra
    exact absurd rfl hcontra
  · intro c hlo hhi
    simp only at hlo
    omega
  · intro s hfree hs
    simp only
    by_contra hlong
    exact hcell s (by omega) hfree
  · exact id
  · intro s hrun
    have hfits := hrun.fits
    have hpos := hrun.pos
    by_cases hend : s + size = (i + 1 : Nat)
    · exact hcell s (by omega) fun c hlo hhi => hrun.free c hlo (by omega)
    · exact h.none s ⟨hrun.nonneg, hpos, by omega, hrun.free⟩

theorem Searching.extend {taken : Int -> Bool} {size : Int} {i : Nat}
    {count start : Int} (h : Searching taken size i (count, start))
    (htaken : taken i = false) :
    let start' := if count = 0 then (i : Int) else start
    start' + (count + 1) = (i + 1 : Nat) ∧ 0 <= start' ∧
      (forall c, start' <= c -> c < (i + 1 : Nat) -> taken c = false) ∧
      forall s : Int, (forall c : Int, s <= c -> c < (i + 1 : Nat) ->
        taken c = false) -> 0 <= s -> (i + 1 : Nat) - s <= count + 1 := by
  have hnonneg : 0 <= count := h.nonneg
  have hstart := h.start
  have hfree := h.free
  have hlongest := h.longest
  simp only at hstart hfree hlongest
  intro start'
  have hwhere : start' + (count + 1) = (i + 1 : Nat) ∧ 0 <= start' := by
    simp only [start']
    split <;> omega
  refine ⟨hwhere.left, hwhere.right, ?_, ?_⟩
  · intro c hlo hhi
    by_cases hc : c = i
    · rw [hc]
      exact htaken
    · exact hfree c (by omega) (by omega)
  · intro s hs hnonneg
    have hbound := hlongest s (fun c hlo hhi => hs c hlo (by omega)) hnonneg
    omega

/--
The search stops at the first free run of the wanted size, and goes through to
the end only if there is none.
-/
theorem firstFit_ends (taken : Int -> Bool) (size : Int) (found : Int -> ρ) (n : Nat) :
    (forExit n (firstFitTurn taken size found) (0, -1)).Ends
      (Searching taken size n)
      fun r => exists start, r = found start ∧ FreeRun taken n start size ∧
        forall s, FreeRun taken n s size -> start <= s := by
  apply forExit_ends _ _ (searching_start taken size)
  rintro i ⟨count, start⟩ hi hrun
  unfold firstFitTurn
  cases htaken : taken i with
  | true =>
      simp only [not_true_eq_false, if_false, Flow.Ends]
      exact hrun.reset htaken
  | false =>
      simp only [Bool.false_eq_true, not_false_eq_true, if_true]
      have hnonneg : 0 <= count := hrun.nonneg
      have hshort := hrun.short
      simp only at hshort
      rcases hrun.extend htaken with ⟨hends, hstart, hfree, hlongest⟩
      split
      · rename_i hsize
        refine ⟨_, rfl, ?_, ?_⟩
        · constructor
          · exact hstart
          · omega
          · omega
          · intro c hlo hhi
            exact hfree c hlo (by omega)
        · -- a run further to the left would have ended before this turn
          intro s hs
          by_contra hless
          exact hrun.none s ⟨hs.nonneg, hs.pos, by omega, hs.free⟩
      · rename_i hsize
        constructor
        · simp only
          omega
        · intro _
          exact ⟨hends, hstart⟩
        · intro c hlo hhi
          exact hfree c (by simp only at hlo; omega) hhi
        · exact hlongest
        · intro hpos
          have hlt := hshort hpos
          simp only
          omega
        · intro s hs
          by_cases hend : s + size = (i + 1 : Nat)
          · have hbound := hlongest s
              (fun c hlo hhi => hs.free c hlo (by omega)) hs.nonneg
            have hlt := hshort hs.pos
            omega
          · have hfits := hs.fits
            exact hrun.none s ⟨hs.nonneg, hs.pos, by omega, hs.free⟩

/-- The first of the free runs. -/
structure LeastRun (taken : Int -> Bool) (n : Nat) (start size : Int) : Prop where
  run : FreeRun taken n start size
  least : forall s, FreeRun taken n s size -> start <= s

theorem LeastRun.unique {taken : Int -> Bool} {n : Nat} {start start' size : Int}
    (h : LeastRun taken n start size) (h' : LeastRun taken n start' size) :
    start = start' := by
  have hle := h.least start' h'.run
  have hge := h'.least start h.run
  omega

/-- The search in one go: the first free run, or none because there is none. -/
theorem firstFit_cases (taken : Int -> Bool) (size : Int) (found : Int -> ρ) (n : Nat) :
    (exists run, forExit n (firstFitTurn taken size found) (0, -1) = .next run ∧
        forall s, ¬ FreeRun taken n s size) ∨
      exists start, forExit n (firstFitTurn taken size found) (0, -1) =
        .exit (found start) ∧ LeastRun taken n start size := by
  have hends := firstFit_ends taken size found n
  cases hscan : forExit n (firstFitTurn taken size found) (0, -1) with
  | next run =>
      rw [hscan] at hends
      exact Or.inl ⟨run, rfl, hends.none⟩
  | exit r =>
      rw [hscan] at hends
      rcases hends with ⟨start, rfl, hrun, hleast⟩
      exact Or.inr ⟨start, rfl, hrun, hleast⟩

theorem firstFit_empty {taken : Int -> Bool} (htaken : forall c, taken c = false)
    {size : Int} (found : Int -> ρ) {n : Nat} (hpos : 0 < size) (hfits : size <= n) :
    forExit n (firstFitTurn taken size found) (0, -1) = .exit (found 0) := by
  have hzero : FreeRun taken n 0 size :=
    ⟨Int.le_refl 0, hpos, by omega, fun c _ _ => htaken c⟩
  rcases firstFit_cases taken size found n with ⟨run, _, hnone⟩ | ⟨start, hscan, hrun⟩
  · exact absurd hzero (hnone 0)
  · have hle := hrun.least 0 hzero
    have hge := hrun.run.nonneg
    have hstart : start = 0 := by omega
    rw [hscan, hstart]

end Library
end ArduOS
