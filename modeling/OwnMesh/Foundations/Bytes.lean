import Mathlib

/-!
# Bytes and pages

A number is written in a fixed width, the least byte first.  A sequence is read in pages, each
of which names where the next one starts.
-/

namespace OwnMesh.Foundations

/-- The number in `width` bytes, the least first. -/
def leBytes : Nat → Nat → List UInt8
  | 0, _ => []
  | width + 1, n => UInt8.ofNat n :: leBytes width (n / 256)

/-- The number that the bytes are, the least first. -/
def ofLeBytes : List UInt8 → Nat
  | [] => 0
  | byte :: rest => byte.toNat + 256 * ofLeBytes rest

@[simp]
theorem length_leBytes (width n : Nat) : (leBytes width n).length = width := by
  induction width generalizing n with
  | zero => rfl
  | succ width ih => rw [leBytes, List.length_cons, ih]

theorem ofLeBytes_leBytes {width n : Nat} (fits : n < 256 ^ width) :
    ofLeBytes (leBytes width n) = n := by
  induction width generalizing n with
  | zero => exact (Nat.lt_one_iff.mp fits).symm
  | succ width ih =>
    rw [leBytes, ofLeBytes, ih (Nat.div_lt_of_lt_mul (by rwa [← Nat.pow_succ'])),
      UInt8.toNat_ofNat']
    exact Nat.mod_add_div n 256

section Pages

variable {κ α : Type} {page : κ → List α → Option κ → Prop}

/-- Reading page after page comes to an end; `items` is all that was on the pages. -/
inductive Pages (page : κ → List α → Option κ → Prop) : κ → List α → Prop where
  | last {n : κ} {items : List α} (read : page n items none) : Pages page n items
  | more {n next : κ} {items rest : List α} (read : page n items (some next))
      (later : Pages page next rest) : Pages page n (items ++ rest)

/-- Pages that are not empty show all that is ahead. -/
theorem Pages.all (ahead : κ → List α) (P : κ → Prop)
    (one : ∀ n, P n → page n (ahead n) none ∨ ∃ items next, page n items (some next) ∧
      items ≠ [] ∧ ahead n = items ++ ahead next ∧ P next) {n : κ} (start : P n) :
    Pages page n (ahead n) := by
  generalize size : (ahead n).length = k
  induction k using Nat.strong_induction_on generalizing n with
  | _ k ih =>
    obtain read | ⟨items, next, read, nonempty, split, later⟩ := one n start
    · exact .last read
    · rw [split] at size ⊢
      refine .more read (ih _ ?_ later rfl)
      have := List.length_pos_iff.mpr nonempty
      rw [← size, List.length_append]
      omega

end Pages

end OwnMesh.Foundations
