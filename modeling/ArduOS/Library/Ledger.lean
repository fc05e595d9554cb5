import Mathlib.Data.Set.Lattice
import Mathlib.Order.CompletePartialOrder

/-!
# Ledgers

Who owns which cells, and which cells are marked as used.  Granting unmarked
cells and releasing what some owners hold keep the ledger sound; granting to
owners that hold nothing keeps it exact.
-/

namespace ArduOS
namespace Library

structure Ledger (Owner Cell : Type*) where
  owns : Owner -> Set Cell
  used : Set Cell

namespace Ledger

variable {Owner Cell : Type*}

def grant [DecidableEq Owner] (l : Ledger Owner Cell) (o : Owner) (cells : Set Cell) :
    Ledger Owner Cell :=
  { owns := Function.update l.owns o cells, used := l.used ∪ cells }

def release (l : Ledger Owner Cell) (group : Set Owner) : Ledger Owner Cell :=
  { owns := fun o => { c | o ∉ group ∧ c ∈ l.owns o }
    used := { c | c ∈ l.used ∧ ¬ exists o, o ∈ group ∧ c ∈ l.owns o } }

/--
Everything owned is marked, and two owners share a cell only if they are
`twins`, two names of one block.
-/
structure Sound (twins : Owner -> Owner -> Prop) (l : Ledger Owner Cell) : Prop where
  marked : forall o, l.owns o ⊆ l.used
  apart : forall o o', o ≠ o' -> Disjoint (l.owns o) (l.owns o') ∨
    (twins o o' ∧ l.owns o = l.owns o')

def Exact (l : Ledger Owner Cell) : Prop := l.used ⊆ ⋃ o, l.owns o

variable {l : Ledger Owner Cell} {twins : Owner -> Owner -> Prop} {o : Owner}
  {cells : Set Cell} {group : Set Owner}

theorem Sound.disjoint_of_fresh (h : Sound twins l) (hfresh : Disjoint l.used cells)
    (o' : Owner) : Disjoint (l.owns o') cells :=
  hfresh.mono_left (h.marked o')

theorem Sound.grant [DecidableEq Owner] (h : Sound twins l) (hfresh : Disjoint l.used cells) :
    Sound twins (l.grant o cells) := by
  constructor
  · intro o'
    by_cases ho : o' = o
    · subst ho
      simp [Ledger.grant]
    · simp only [Ledger.grant, Function.update_of_ne ho]
      exact (h.marked o').trans Set.subset_union_left
  · intro o₁ o₂ hne
    by_cases h₁ : o₁ = o
    · subst h₁
      left
      simp only [Ledger.grant, Function.update_self, Function.update_of_ne hne.symm]
      exact (h.disjoint_of_fresh hfresh o₂).symm
    · by_cases h₂ : o₂ = o
      · subst h₂
        left
        simp only [Ledger.grant, Function.update_self, Function.update_of_ne hne]
        exact h.disjoint_of_fresh hfresh o₁
      · simp only [Ledger.grant, Function.update_of_ne h₁, Function.update_of_ne h₂]
        exact h.apart o₁ o₂ hne

theorem Sound.release (h : Sound twins l)
    (halone : forall o o', o ∈ group -> o' ∉ group -> ¬ twins o' o) :
    Sound twins (l.release group) := by
  constructor
  · intro o c hc
    rcases hc with ⟨hout, hown⟩
    refine ⟨h.marked o hown, ?_⟩
    rintro ⟨o', hin, hown'⟩
    have hne : o ≠ o' := by
      intro heq
      exact hout (heq ▸ hin)
    rcases h.apart o o' hne with hdisjoint | ⟨htwins, _⟩
    · exact Set.disjoint_left.mp hdisjoint hown hown'
    · exact halone o' o hin hout htwins
  · intro o₁ o₂ hne
    by_cases h₁ : o₁ ∈ group
    · left
      rw [Set.disjoint_left]
      intro c hc _
      exact hc.left h₁
    · by_cases h₂ : o₂ ∈ group
      · left
        rw [Set.disjoint_left]
        intro c _ hc
        exact hc.left h₂
      · rcases h.apart o₁ o₂ hne with hdisjoint | ⟨htwins, hsame⟩
        · left
          rw [Set.disjoint_left]
          intro c hc hc'
          exact Set.disjoint_left.mp hdisjoint hc.right hc'.right
        · right
          refine ⟨htwins, ?_⟩
          ext c
          simp [Ledger.release, h₁, h₂, hsame]

theorem Exact.grant [DecidableEq Owner] (h : Exact l) (hempty : l.owns o = ∅) :
    Exact (l.grant o cells) := by
  rintro c (hc | hc)
  · rcases Set.mem_iUnion.mp (h hc) with ⟨o', ho'⟩
    apply Set.mem_iUnion.mpr
    refine ⟨o', ?_⟩
    have hne : o' ≠ o := by
      intro heq
      rw [heq, hempty] at ho'
      exact ho'
    simpa [Ledger.grant, Function.update_of_ne hne] using ho'
  · apply Set.mem_iUnion.mpr
    refine ⟨o, ?_⟩
    simpa [Ledger.grant] using hc

theorem Exact.release (h : Exact l) : Exact (l.release group) := by
  rintro c ⟨hused, hnot⟩
  rcases Set.mem_iUnion.mp (h hused) with ⟨o, ho⟩
  refine Set.mem_iUnion.mpr ⟨o, ?_, ho⟩
  intro hin
  exact hnot ⟨o, hin, ho⟩

end Ledger

end Library
end ArduOS
