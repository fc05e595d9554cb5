import Mathlib.Data.List.Basic
import Mathlib.Data.List.Induction

/-!
# Paths

Names under a separator, as the strings `/`, `/a/`, `/a/b/` and so on, and what
string operations do to these: a missing separator is added, one at the end is
taken away, the last one is looked for.
-/

namespace ArduOS
namespace Library

variable {α : Type*}

/-- The directory under these names, with a separator at its end. -/
def pathOf (sep : α) (names : List (List α)) : List α :=
  sep :: names.flatMap (· ++ [sep])

theorem pathOf_concat (sep : α) (names : List (List α)) (name : List α) :
    pathOf sep (names ++ [name]) = pathOf sep names ++ name ++ [sep] := by
  simp [pathOf]

theorem head?_pathOf (sep : α) (names : List (List α)) :
    (pathOf sep names).head? = some sep := rfl

theorem pathOf_eq_concat (sep : α) (names : List (List α)) :
    pathOf sep names = (pathOf sep names).dropLast ++ [sep] := by
  cases names using List.reverseRecOn with
  | nil => rfl
  | append_singleton names name => rw [pathOf_concat, List.dropLast_concat]

theorem getLast?_pathOf (sep : α) (names : List (List α)) :
    (pathOf sep names).getLast? = some sep := by
  rw [pathOf_eq_concat, List.getLast?_concat]

theorem length_pathOf_append (sep : α) (names more : List (List α)) :
    (pathOf sep names).length <= (pathOf sep (names ++ more)).length := by
  simp [pathOf]

/-- The path without the separator at its end; there is only one for the root. -/
def dirPath (sep : α) (names : List (List α)) : List α :=
  if names = [] then [sep] else (pathOf sep names).dropLast

theorem dirPath_concat (sep : α) (names : List (List α)) (name : List α) :
    dirPath sep (names ++ [name]) = pathOf sep names ++ name := by
  unfold dirPath
  rw [if_neg (by simp), pathOf_concat, List.dropLast_concat]

section Strings

variable [DecidableEq α] {sep : α} {path : List α}

/-!
## Adding and taking away
-/

def withSep (sep : α) (path : List α) : List α :=
  if path.length > 1 ∧ path.getLast? ≠ some sep then path ++ [sep] else path

/-- The path without the separator at its end, unless this is all of it. -/
def withoutSep (sep : α) (path : List α) : List α :=
  if path.length > 1 ∧ path.getLast? = some sep then path.dropLast else path

theorem withSep_of_ended (h : path.getLast? = some sep) : withSep sep path = path :=
  if_neg fun hboth => hboth.right h

theorem withSep_of_open (hlen : 1 < path.length) (h : path.getLast? ≠ some sep) :
    withSep sep path = path ++ [sep] :=
  if_pos ⟨hlen, h⟩

theorem length_le_withSep (sep : α) (path : List α) :
    path.length <= (withSep sep path).length := by
  unfold withSep
  split
  · simp
  · exact Nat.le_refl _

theorem head?_withSep (h : path.head? = some sep) :
    (withSep sep path).head? = some sep := by
  unfold withSep
  split
  · rw [List.head?_append, h]
    rfl
  · exact h

omit [DecidableEq α] in
theorem one_lt_length (h : path.head? = some sep) (hopen : path.getLast? ≠ some sep) :
    1 < path.length := by
  cases path with
  | nil => cases h
  | cons c rest =>
      cases rest with
      | nil => exact absurd h hopen
      | cons c' rest => simp

theorem getLast?_withSep (h : path.head? = some sep) :
    (withSep sep path).getLast? = some sep := by
  by_cases hended : path.getLast? = some sep
  · rw [withSep_of_ended hended, hended]
  · rw [withSep_of_open (one_lt_length h hended) hended, List.getLast?_concat]

theorem length_withSep (h : path.head? = some sep) :
    (withSep sep path).length =
      path.length + if path.getLast? = some sep then 0 else 1 := by
  by_cases hended : path.getLast? = some sep
  · rw [withSep_of_ended hended, if_pos hended]
    rfl
  · rw [withSep_of_open (one_lt_length h hended) hended, if_neg hended]
    simp

theorem withSep_dirPath {names : List (List α)}
    (hnames : forall name, name ∈ names -> name ≠ [] ∧ sep ∉ name) :
    withSep sep (dirPath sep names) = pathOf sep names := by
  cases names using List.reverseRecOn with
  | nil => exact withSep_of_ended rfl
  | append_singleton names name =>
      rcases hnames name (by simp) with ⟨hsome, hsep⟩
      have hlen : 0 < name.length := List.length_pos_iff.mpr hsome
      rw [dirPath_concat, pathOf_concat]
      apply withSep_of_open
      · rw [pathOf_eq_concat]
        simp only [List.length_append, List.length_singleton]
        omega
      · rw [List.getLast?_append_of_ne_nil _ hsome]
        intro hlast
        exact hsep (List.mem_of_getLast? hlast)

theorem withoutSep_concat (hne : path ≠ []) : withoutSep sep (path ++ [sep]) = path := by
  have hlen : 0 < path.length := List.length_pos_iff.mpr hne
  unfold withoutSep
  rw [if_pos ⟨by simpa using hlen, List.getLast?_concat⟩, List.dropLast_concat]

theorem withoutSep_length (sep : α) (path : List α) :
    (withoutSep sep path).length <= path.length := by
  unfold withoutSep
  split
  · simp
  · exact Nat.le_refl _

theorem head?_withoutSep (h : path.head? = some sep) :
    (withoutSep sep path).head? = some sep := by
  unfold withoutSep
  split
  · rename_i hlong
    cases path with
    | nil => cases h
    | cons c rest =>
        cases rest with
        | nil => simp at hlong
        | cons c' rest' => exact h
  · exact h

/-!
## The last separator
-/

omit [DecidableEq α] in
theorem split_last (h : sep ∈ path) :
    exists front rest, path = front ++ sep :: rest ∧ sep ∉ rest := by
  rcases List.eq_append_cons_of_mem (List.mem_reverse.mpr h) with
    ⟨rest, front, hsplit, hrest⟩
  refine ⟨front.reverse, rest.reverse, ?_, ?_⟩
  · rw [← List.reverse_reverse path, hsplit]
    simp
  · rw [List.mem_reverse]
    exact hrest

theorem findIdx?_reverse_last {front rest : List α} (h : sep ∉ rest) :
    (front ++ sep :: rest).reverse.findIdx? (fun c => decide (c = sep)) =
      some rest.length := by
  have hnone : rest.reverse.findIdx? (fun c => decide (c = sep)) = none := by
    rw [List.findIdx?_eq_none_iff]
    intro c hc
    rw [decide_eq_false_iff_not]
    intro heq
    rw [heq, List.mem_reverse] at hc
    exact h hc
  rw [List.reverse_append, List.reverse_cons, List.append_assoc, List.findIdx?_append, hnone]
  simp [List.findIdx?_cons]

end Strings

end Library
end ArduOS
