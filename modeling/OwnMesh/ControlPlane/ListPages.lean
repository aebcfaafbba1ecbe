import OwnMesh.Foundations.Bytes
import OwnMesh.Ipc.Value

/-!
# Lists in pages

Lists are answered in pages of at most so many items and so many characters.  When a page is
too long, a binary search looks for the most items that fit; the first item is shown in any
case, so that a client that follows the cursors gets to the end (`listPages_complete`).
-/

namespace OwnMesh.ControlPlane

open Foundations List

/-- The leading decimal number of a text. -/
def parseInt (text : List Char) : Option Int :=
  let number := fun digits : List Char =>
    match digits.takeWhile Char.isDigit with
    | [] => none
    | digits => some (Nat.ofDigitChars 10 digits 0 : Int)
  match text.dropWhile Ipc.isWhitespace with
  | '-' :: rest => (number rest).map Neg.neg
  | '+' :: rest => number rest
  | rest => number rest

def cursorOf (start : Nat) : String := s!"cur_{start}"

/-- Where a page starts; whatever is no cursor is the beginning. -/
def cursorStart : Option String → Nat
  | none => 0
  | some cursor =>
    match parseInt (if "cur_".toList <+: cursor.toList then cursor.toList.drop 4
      else cursor.toList) with
    | some n => n.toNat
    | none => 0

/-- The length of a list as JSON, given those of its items. -/
def jsonLength {α : Type} (size : α → Nat) : List α → Nat
  | [] => 2
  | items => 1 + (items.map fun item => size item + 1).sum

/-- The loop that looks for the longest beginning that fits. -/
def shrink (fits : Nat → Bool) (lo hi : Int) (best : Nat) : Nat :=
  if lo ≤ hi then
    let mid := (lo + hi) / 2
    if fits mid.toNat then shrink fits (mid + 1) hi mid.toNat else shrink fits lo (mid - 1) best
  else best
termination_by (hi + 1 - lo).toNat

structure ListPage (α : Type) where
  page : List α
  nextCursor : Option String
  truncated : Bool

def paginateList {α : Type} (size : α → Nat) (items : List α) (cursor : Option String)
    (limit maxBytes : Option Nat) : ListPage α :=
  let limit := min (max (limit.getD 50) 1) 500
  let start := cursorStart cursor
  let slice := (items.drop start).take limit
  let maxBytes := maxBytes.getD 64000
  if maxBytes < jsonLength size slice then
    let best := shrink (fun n => decide (jsonLength size (slice.take n) ≤ maxBytes)) 1
      slice.length 1
    ⟨slice.take best, some (cursorOf (start + best)), true⟩
  else
    ⟨slice, if start + limit < items.length then some (cursorOf (start + limit)) else none, false⟩

theorem parseInt_toDigits (n : Nat) : parseInt (Nat.toDigits 10 n) = some (n : Int) := by
  have digits : ∀ c ∈ Nat.toDigits 10 n, c.isDigit = true := fun c member =>
    Nat.isDigit_of_mem_toDigits (by decide) (by decide) member
  have value := Nat.ofDigitChars_ten_toDigits (n := n)
  obtain ⟨first, rest, shape⟩ := exists_cons_of_ne_nil (Nat.toDigits_ne_nil (b := 10) (n := n))
  rw [shape] at digits value ⊢
  have digit := digits first mem_cons_self
  have visible : Ipc.isWhitespace first = false := by
    have range : 48 ≤ first.toNat ∧ first.toNat ≤ 57 := Char.isDigit_iff_toNat.mp digit
    simp [Ipc.isWhitespace]
    omega
  rw [parseInt, dropWhile_cons_of_neg (by simp [visible])]
  split
  next same => simp_all
  next same => simp_all
  next => simp [takeWhile_eq_self_iff.mpr digits, value]

theorem cursorStart_cursorOf (start : Nat) : cursorStart (some (cursorOf start)) = start := by
  have text : (cursorOf start).toList = "cur_".toList ++ Nat.toDigits 10 start := by
    simp [cursorOf, String.toList_append, Nat.repr_eq_ofList_toDigits]
    rfl
  have number : ("cur_".toList ++ Nat.toDigits 10 start).drop 4 = Nat.toDigits 10 start := rfl
  rw [cursorStart, text, if_pos (prefix_append _ _), number, parseInt_toDigits]
  rfl

theorem shrink_bounds {fits : Nat → Bool} {lo hi : Int} {best bound : Nat} (low : 1 ≤ lo)
    (high : hi ≤ bound) (first : 1 ≤ best) (last : best ≤ bound) :
    1 ≤ shrink fits lo hi best ∧ shrink fits lo hi best ≤ bound := by
  fun_induction shrink fits lo hi best with
  | case1 lo hi best range mid _ ih => exact ih (by omega) high (by omega) (by omega)
  | case2 lo hi best range mid _ ih => exact ih low (by omega) first last
  | case3 => exact ⟨first, last⟩

/-- What a request for a page shows, and the request for the next one. -/
def Shows {α : Type} (size : α → Nat) (items : List α) (limit maxBytes : Option Nat)
    (cursor : Option String) (page : List α) (next : Option (Option String)) : Prop :=
  let shown := paginateList size items cursor limit maxBytes
  shown.page = page ∧ shown.nextCursor.map some = next

/-- **Following the cursors shows the whole list.**  Whatever the size of the items, reading
page after page comes to an end, and what was on the pages is the list. -/
theorem listPages_complete {α : Type} (size : α → Nat) (items : List α) (limit : Option Nat)
    {maxBytes : Option Nat} (room : 2 ≤ maxBytes.getD 64000) :
    Pages (Shows size items limit maxBytes) none items := by
  refine Pages.all (fun cursor => items.drop (cursorStart cursor)) (fun _ => True)
    (fun cursor _ => ?_) trivial
  generalize start : cursorStart cursor = n
  simp only [Shows, paginateList, start]
  generalize clamped : min (max (limit.getD 50) 1) 500 = limit
  split_ifs with long more
  · -- a page that is too long is cut after at least one item
    generalize sliced : (items.drop n).take limit = slice at long ⊢
    have nonempty : 1 ≤ slice.length := by
      cases slice with
      | nil => exact absurd long (not_lt.mpr room)
      | cons => simp
    generalize cut : shrink _ 1 slice.length 1 = best
    obtain ⟨first, last⟩ := cut ▸ shrink_bounds le_rfl le_rfl le_rfl nonempty
    refine .inr ⟨_, _, ⟨rfl, rfl⟩, ?_, ?_, trivial⟩
    · rw [← length_pos_iff, length_take]
      omega
    · have short : best ≤ limit := by
        rw [← sliced, length_take] at last
        omega
      rw [cursorStart_cursorOf, ← sliced, take_take, min_eq_left short, ← drop_drop,
        take_append_drop]
  · refine .inr ⟨_, _, ⟨rfl, rfl⟩, ?_, ?_, trivial⟩
    · rw [← length_pos_iff, length_take, length_drop]
      omega
    · rw [cursorStart_cursorOf, ← drop_drop, take_append_drop]
  · refine .inl ⟨take_of_length_le ?_, rfl⟩
    rw [length_drop]
    omega

theorem listPages_complete_wide :
    Pages (Shows (fun n : Nat => n) [1, 9] none (some 2)) none [1, 9] :=
  listPages_complete _ _ _ (by decide)

end OwnMesh.ControlPlane
