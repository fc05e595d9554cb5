import ArduOS.Library.Loops

/-!
# Computations with a trace

A computation together with the list of what it did on the way, and the rules for
a property that everything on the list has.
-/

namespace ArduOS
namespace Library

universe u v

variable {ε : Type u} {σ α β : Type v}

structure Traced (ε : Type u) (α : Type v) where
  value : α
  events : List ε

namespace Traced

instance : Monad (Traced ε) where
  pure a := { value := a, events := [] }
  bind m f :=
    { value := (f m.value).value
      events := m.events ++ (f m.value).events }

def emit (e : ε) (a : α) : Traced ε α := { value := a, events := [e] }

def loop : Nat -> (Nat -> σ -> Traced ε σ) -> σ -> Traced ε σ
  | 0, _, s => pure s
  | n + 1, body, s => loop n body s >>= body n

@[simp] theorem value_pure (a : α) : (pure a : Traced ε α).value = a := rfl

@[simp] theorem value_bind (m : Traced ε α) (f : α -> Traced ε β) :
    (m >>= f).value = (f m.value).value := rfl

@[simp] theorem value_emit (e : ε) (a : α) : (emit e a).value = a := rfl

theorem value_ite (c : Prop) [Decidable c] (m m' : Traced ε α) :
    (if c then m else m').value = if c then m.value else m'.value :=
  apply_ite Traced.value c m m'

theorem value_loop {n : Nat} {body : Nat -> σ -> Traced ε σ} {s : σ} :
    (loop n body s).value = forLoop n (fun i s => (body i s).value) s := by
  induction n with
  | zero => rfl
  | succ n ih => rw [loop, value_bind, ih, forLoop_succ]

def Every (P : ε -> Prop) (m : Traced ε α) : Prop := forall e, e ∈ m.events -> P e

variable {P : ε -> Prop}

@[simp] theorem every_pure (a : α) : (pure a : Traced ε α).Every P <-> True :=
  ⟨fun _ => trivial, fun _ _ h => by cases h⟩

@[simp] theorem every_emit (e : ε) (a : α) : (emit e a).Every P <-> P e :=
  List.forall_mem_singleton

@[simp] theorem every_bind (m : Traced ε α) (f : α -> Traced ε β) :
    (m >>= f).Every P <-> m.Every P ∧ (f m.value).Every P :=
  List.forall_mem_append

theorem every_ite {c : Prop} [Decidable c] {m m' : Traced ε α}
    (hthen : c -> m.Every P) (helse : ¬ c -> m'.Every P) :
    (if c then m else m').Every P := by
  by_cases hc : c
  · rw [if_pos hc]
    exact hthen hc
  · rw [if_neg hc]
    exact helse hc

theorem Every.mono {Q : ε -> Prop} {m : Traced ε α} (h : m.Every P)
    (hPQ : forall e, P e -> Q e) : m.Every Q :=
  fun e he => hPQ e (h e he)

theorem every_loop {n : Nat} {body : Nat -> σ -> Traced ε σ} {s : σ}
    (h : forall i s, i < n -> (body i s).Every P) : (loop n body s).Every P := by
  induction n with
  | zero => exact (every_pure s).mpr trivial
  | succ n ih =>
      have hbefore := ih fun i s hi => h i s (Nat.lt_succ_of_lt hi)
      exact (every_bind ..).mpr ⟨hbefore, h n _ (Nat.lt_succ_self n)⟩

end Traced
end Library
end ArduOS
