import Mathlib

/-!
# Tables of rows

A table of a relational store is the list of its rows.  A column is a unique key when no two
rows agree in it (`Keyed`); a row is then the one that a search for its key finds, and the
updates that leave the key alone commute with the search.
-/

namespace OwnMesh.Foundations

variable {ρ κ : Type} {key : ρ → κ} {rows : List ρ}

/-- No two rows agree in the column. -/
def Keyed (key : ρ → κ) (rows : List ρ) : Prop := rows.Pairwise fun a b => key a ≠ key b

namespace Keyed

theorem eq_of_key_eq (keyed : Keyed key rows) {a b : ρ} (left : a ∈ rows) (right : b ∈ rows)
    (agree : key a = key b) : a = b := by
  have symmetric : Std.Symm fun a b : ρ => key a ≠ key b := ⟨fun _ _ => Ne.symm⟩
  by_contra apart
  exact keyed.forall left right apart agree

theorem map (keyed : Keyed key rows) {edit : ρ → ρ} (keeps : ∀ row, key (edit row) = key row) :
    Keyed key (rows.map edit) := by
  rw [Keyed, List.pairwise_map]
  refine keyed.imp ?_
  intro a b apart
  rwa [keeps a, keeps b]

theorem concat (keyed : Keyed key rows) {row : ρ} (new : ∀ other ∈ rows, key other ≠ key row) :
    Keyed key (rows ++ [row]) := by
  rw [Keyed, List.pairwise_append]
  refine ⟨keyed, List.pairwise_singleton _ _, ?_⟩
  intro other stored added isRow
  obtain rfl := List.mem_singleton.mp isRow
  exact new other stored

theorem filter (keyed : Keyed key rows) (keep : ρ → Bool) : Keyed key (rows.filter keep) :=
  List.Pairwise.filter keep keyed

end Keyed

variable [DecidableEq κ]

theorem mem_of_find?_key {k : κ} {row : ρ}
    (found : (rows.find? fun other => key other = k) = some row) : row ∈ rows ∧ key row = k := by
  have selected := List.find?_some found
  exact ⟨List.mem_of_find?_eq_some found, decide_eq_true_eq.mp selected⟩

/-- A row is the one found by its key. -/
theorem Keyed.find?_key (keyed : Keyed key rows) {row : ρ} (stored : row ∈ rows) :
    (rows.find? fun other => key other = key row) = some row := by
  have found : (rows.find? fun other => key other = key row).isSome := by
    rw [List.find?_isSome]
    exact ⟨row, stored, decide_eq_true rfl⟩
  obtain ⟨other, isOther⟩ := Option.isSome_iff_exists.mp found
  obtain ⟨otherStored, agree⟩ := mem_of_find?_key isOther
  rw [isOther, keyed.eq_of_key_eq otherStored stored agree]

theorem Keyed.find?_eq_some_iff (keyed : Keyed key rows) {k : κ} {row : ρ} :
    (rows.find? fun other => key other = k) = some row ↔ row ∈ rows ∧ key row = k := by
  refine ⟨mem_of_find?_key, ?_⟩
  rintro ⟨stored, rfl⟩
  exact keyed.find?_key stored

/-- An update that leaves the key alone finds the updated row. -/
theorem find?_key_map {edit : ρ → ρ} (keeps : ∀ row, key (edit row) = key row) (k : κ) :
    ((rows.map edit).find? fun row => key row = k) =
      (rows.find? fun row => key row = k).map edit := by
  have same : ((fun row : ρ => decide (key row = k)) ∘ edit) = fun row => decide (key row = k) := by
    funext row
    rw [Function.comp_apply, keeps row]
  rw [List.find?_map, same]

end OwnMesh.Foundations
