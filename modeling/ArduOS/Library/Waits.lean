import Mathlib.Data.Fintype.Card
import Mathlib.Logic.Relation
import Mathlib.Order.WellFounded

/-!
# Waiting

A relation that says who waits for whom.  Without a cycle, and with finitely
many parties, every chain of waits ends at somebody who waits for nobody; and
to wait for somebody who waits for nobody closes no cycle.
-/

namespace ArduOS
namespace Library

open Relation

variable {α : Type*}

def NoCycle (W : α -> α -> Prop) : Prop := forall a, ¬ TransGen W a a

variable {W W' : α -> α -> Prop}

theorem NoCycle.mono (h : NoCycle W) (hle : forall a b, W' a b -> W a b) :
    NoCycle W' :=
  fun a hcycle => h a (TransGen.mono hle a a hcycle)

/-- A wait for `y`, who waits for nobody, is the last one of every chain. -/
theorem transGen_of_sink {x y : α}
    (hle : forall a b, W' a b -> W a b ∨ (a = x ∧ b = y)) (hsink : forall c, ¬ W' y c)
    {a b : α} (h : TransGen W' a b) : b = y ∨ TransGen W a b := by
  induction h with
  | single hab =>
      rcases hle _ _ hab with hold | ⟨_, hy⟩
      · exact Or.inr (TransGen.single hold)
      · exact Or.inl hy
  | tail hpath hbc ih =>
      rcases ih with hy | hold
      · subst hy
        exact absurd hbc (hsink _)
      · rcases hle _ _ hbc with hlast | ⟨_, hy⟩
        · exact Or.inr (TransGen.tail hold hlast)
        · exact Or.inl hy

theorem NoCycle.add_sink (h : NoCycle W) {x y : α}
    (hle : forall a b, W' a b -> W a b ∨ (a = x ∧ b = y))
    (hsink : forall c, ¬ W' y c) : NoCycle W' := by
  intro a hcycle
  rcases transGen_of_sink hle hsink hcycle with hy | hold
  · subst hy
    rcases TransGen.head'_iff.mp hcycle with ⟨c, hc, _⟩
    exact hsink c hc
  · exact h a hold

/-- From everybody a chain of waits leads to one who waits for nobody. -/
theorem NoCycle.exists_sink [Finite α] (h : NoCycle W) (a : α) :
    exists b, ReflTransGen W a b ∧ forall c, ¬ W b c := by
  have hirrefl : Std.Irrefl (fun b c => TransGen W c b) := ⟨h⟩
  have htrans : IsTrans α (fun b c => TransGen W c b) :=
    ⟨fun _ _ _ hba hcb => TransGen.trans hcb hba⟩
  have hwf := Finite.wellFounded_of_trans_of_irrefl (fun b c => TransGen W c b)
  rcases hwf.has_min { b | ReflTransGen W a b } ⟨a, ReflTransGen.refl⟩ with
    ⟨b, hreach, hlast⟩
  refine ⟨b, hreach, ?_⟩
  intro c hc
  exact hlast c (ReflTransGen.tail hreach hc) (TransGen.single hc)

end Library
end ArduOS
