import OwnMesh.Foundations.CanonicalJson

/-!
# Canonical JSON on both sides of an operation

The control plane binds an action by the hash of its canonical text and the device recomputes
the text from the request.  The control plane's `stableStringify` sorts keys by their UTF-16
code units, the device's `stable_stringify` by the bytes of their UTF-8; the rest is the same.
A character beyond U+FFFF is written with surrogates, which come before the characters from
U+E000 to U+FFFF, while its UTF-8 comes after theirs.  The texts agree exactly on the values
without an object whose keys the two orders tell apart (`stableStringify_eq_iff`), and on each
side only values that are equal up to the order of keys have one text.
-/

namespace OwnMesh.Canonical

open Foundations List

/-! ## The two encodings -/

def utf16Units (s : String) : List Nat :=
  s.toList.flatMap fun c =>
    let n := c.toNat
    if n < 0x10000 then [n]
    else [0xD800 + (n - 0x10000) / 0x400, 0xDC00 + (n - 0x10000) % 0x400]

def utf8Bytes (s : String) : List Nat :=
  s.toList.flatMap fun c =>
    let n := c.toNat
    if n < 0x80 then [n]
    else if n < 0x800 then [0xC0 + n / 0x40, 0x80 + n % 0x40]
    else if n < 0x10000 then [0xE0 + n / 0x1000, 0x80 + n / 0x40 % 0x40, 0x80 + n % 0x40]
    else
      [0xF0 + n / 0x40000, 0x80 + n / 0x1000 % 0x40, 0x80 + n / 0x40 % 0x40, 0x80 + n % 0x40]

def unitsLe (a b : String) : Bool := utf16Units a ≤ utf16Units b

def bytesLe (a b : String) : Bool := utf8Bytes a ≤ utf8Bytes b

/-- The control plane's encoding. -/
def stableStringify (value : JsonValue) : String := .ofList (canonical unitsLe value)

/-- The device's encoding. -/
def deviceStableStringify (value : JsonValue) : String := .ofList (canonical bytesLe value)

/-! ## Objects inside a value -/

/-- The first value is the second or inside it. -/
inductive Inside (w : JsonValue) : JsonValue → Prop where
  | self : Inside w w
  | item {items : List JsonValue} {v : JsonValue} (member : v ∈ items) (inner : Inside w v) :
      Inside w (.array items)
  | member {members : Members} {m : String × JsonValue} (member : m ∈ members)
      (inner : Inside w m.2) : Inside w (.object members)

/-- No object has a key twice. -/
def Keyed (v : JsonValue) : Prop :=
  ∀ members, Inside (.object members) v → (members.map Prod.fst).Nodup

/-- Both orders sort the members of every object alike. -/
def SortsAlike (v : JsonValue) : Prop :=
  ∀ members, Inside (.object members) v → sortKeys unitsLe members = sortKeys bytesLe members

/-- The values are equal up to the order of the keys of their objects. -/
inductive UpToOrder : JsonValue → JsonValue → Prop where
  | same (v : JsonValue) : UpToOrder v v
  | array {xs ys : List JsonValue} (items : Forall₂ UpToOrder xs ys) :
      UpToOrder (.array xs) (.array ys)
  | object {xs ys zs ws : Members} (left : xs.Perm zs) (right : ws.Perm ys)
      (keys : zs.map Prod.fst = ws.map Prod.fst)
      (values : Forall₂ UpToOrder (zs.map Prod.snd) (ws.map Prod.snd)) :
      UpToOrder (.object xs) (.object ys)

theorem upToOrder_closed (le : String → String → Bool) : Closed le le UpToOrder where
  null := .same _
  bool := fun _ => .same _
  integer := fun _ => .same _
  text := fun _ => .same _
  array := fun _ _ => .array
  object := by
    intro xs ys all
    refine .object (sortKeys_perm le xs).symm (sortKeys_perm le ys) ?_ ?_
    · rw [← forall₂_eq_eq_eq, forall₂_map_left_iff, forall₂_map_right_iff]
      exact all.imp fun _ _ => And.left
    · rw [forall₂_map_left_iff, forall₂_map_right_iff]
      exact all.imp fun _ _ => And.right

/-! ## Where the orders agree -/

/-- Two orderings of members with distinct keys are the same if their keys are. -/
theorem eq_of_keys {xs ys members : Members} (keyed : (members.map Prod.fst).Nodup)
    (left : xs ⊆ members) (right : ys ⊆ members)
    (keys : Forall₂ (fun a b : String × JsonValue => a.1 = b.1) xs ys) : xs = ys := by
  induction keys with
  | nil => rfl
  | @cons a b xs ys same _ ih =>
    have here := inj_on_of_nodup_map keyed (left mem_cons_self) (right mem_cons_self) same
    rw [here, ih (subset_of_cons_subset left) (subset_of_cons_subset right)]

/-- Equal texts of a value show that its objects are sorted alike. -/
theorem sortsAlike_closed : Closed unitsLe bytesLe fun v w => v = w → Keyed v → SortsAlike v where
  null := fun _ _ _ inside => nomatch inside
  bool := fun _ _ _ _ inside => nomatch inside
  integer := fun _ _ _ _ inside => nomatch inside
  text := fun _ _ _ _ inside => nomatch inside
  array := by
    rintro xs _ all ⟨⟩ keyed members inside
    cases inside with
    | item member inner =>
      exact forall₂_same.mp all _ member rfl (fun _ deeper => keyed _ (.item member deeper)) _ inner
  object := by
    rintro xs _ all ⟨⟩ keyed members inside
    have alike : sortKeys unitsLe xs = sortKeys bytesLe xs :=
      eq_of_keys (keyed xs .self) (sortKeys_perm _ xs).subset (sortKeys_perm _ xs).subset
        (all.imp fun _ _ => And.left)
    cases inside with
    | self => exact alike
    | member member inner =>
      rw [alike] at all
      exact (forall₂_same.mp all _ ((sortKeys_perm _ xs).symm.subset member)).2 rfl
        (fun _ deeper => keyed _ (.member member deeper)) _ inner

theorem canonical_eq_of_sortsAlike (v : JsonValue) (alike : SortsAlike v) :
    canonical unitsLe v = canonical bytesLe v := by
  induction v using JsonValue.induct with
  | step v itemsEq membersEq =>
    cases v with
    | array items =>
      rw [canonical, canonical, canonicalItems_eq, canonicalItems_eq]
      congr 2
      exact map_congr_left fun item member =>
        itemsEq items rfl item member fun _ inside => alike _ (.item member inside)
    | object members =>
      rw [canonical_object, canonical_object, alike members .self]
      congr 2
      refine map_congr_left fun m sorted => ?_
      have member := (sortKeys_perm _ members).subset sorted
      rw [memberText, memberText, membersEq members rfl m member fun _ inside =>
        alike _ (.member member inside)]
    | _ => rfl

/-- **The two encodings of a value agree exactly when both orders sort the members of each of
its objects alike; and on either side, values with the same encoding are equal up to the order
of keys.** -/
theorem stableStringify_eq_iff (v : JsonValue) (keyed : Keyed v) :
    (stableStringify v = deviceStableStringify v ↔ SortsAlike v) ∧
      ∀ w, (stableStringify v = stableStringify w → UpToOrder v w) ∧
        (deviceStableStringify v = deviceStableStringify w → UpToOrder v w) := by
  refine ⟨⟨fun same => ?_, fun alike => ?_⟩, fun w => ⟨fun same => ?_, fun same => ?_⟩⟩
  · exact canonical_closed sortsAlike_closed (String.ofList_inj.mp same) rfl keyed
  · rw [stableStringify, canonical_eq_of_sortsAlike v alike, deviceStableStringify]
  · exact canonical_closed (upToOrder_closed unitsLe) (String.ofList_inj.mp same)
  · exact canonical_closed (upToOrder_closed bytesLe) (String.ofList_inj.mp same)

/-- An object whose keys are U+FF5E and U+1D11E. -/
def clefs : JsonValue := .object [("～", .null), ("𝄞", .null)]

theorem clefs_keyed : Keyed clefs := by
  intro members inside
  cases inside with
  | self => decide
  | member member inner =>
    rcases mem_pair.mp member with rfl | rfl <;> cases inner

theorem stableStringify_eq_iff_clefs :
    Keyed clefs ∧ (stableStringify clefs = deviceStableStringify clefs ↔ SortsAlike clefs) :=
  ⟨clefs_keyed, (stableStringify_eq_iff clefs clefs_keyed).1⟩

/-- The control plane puts the clef first, the device the tilde. -/
theorem stableStringify_differs : stableStringify clefs = "\x7b\"𝄞\":null,\"～\":null\x7d" ∧
      deviceStableStringify clefs = "\x7b\"～\":null,\"𝄞\":null\x7d" := by
  decide

end OwnMesh.Canonical
