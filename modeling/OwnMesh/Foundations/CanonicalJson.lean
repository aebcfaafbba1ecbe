import Mathlib

/-!
# Canonical texts of JSON values

The canonical text of a JSON value is its compact JSON text with the members of every object
sorted by their keys.  The order of the keys is a parameter, and two orders give two encodings.

A text can be read in only one way, also when the two encodings sort differently: if a value
in one encoding and a value in the other have the same text, then they have the same shape,
with the keys of each pair of objects in the same sequence.  This is stated as a rule
(`canonical_closed`): equal texts give every relation that is closed under the constructors,
read through the sorted members (`Closed`).

Numbers are integers and strings are sequences of Unicode characters.
-/

namespace OwnMesh.Foundations

open List

/-- The integers that a double holds exactly, with their neighbours. -/
@[ext]
structure SafeInteger where
  value : Int
  safe : value.natAbs ≤ 9007199254740991

inductive JsonValue where
  | null
  | bool (b : Bool)
  | integer (n : SafeInteger)
  | text (s : String)
  | array (items : List JsonValue)
  | object (members : List (String × JsonValue))

abbrev Members : Type := List (String × JsonValue)

/-- Induction over the items of arrays and the members of objects. -/
theorem JsonValue.induct {P : JsonValue → Prop}
    (step : ∀ v, (∀ items, v = .array items → ∀ item ∈ items, P item) →
      (∀ members, v = .object members → ∀ m ∈ members, P m.2) → P v) (v : JsonValue) : P v := by
  induction size : sizeOf v using Nat.strong_induction_on generalizing v with
  | _ n ih =>
    subst size
    refine step v ?_ ?_
    · rintro items rfl item member
      refine ih _ ?_ item rfl
      have := sizeOf_lt_of_mem member
      simp only [JsonValue.array.sizeOf_spec]
      omega
    · rintro members rfl ⟨key, value⟩ member
      refine ih _ ?_ value rfl
      have := sizeOf_lt_of_mem member
      simp only [JsonValue.object.sizeOf_spec, Prod.mk.sizeOf_spec] at *
      omega

/-! ## Texts -/

def hexDigit (n : Nat) : Char := "0123456789abcdef".toList.getD n '0'

/-- A character inside a string.  `JSON.stringify` and `serde_json` escape the same ones. -/
def escape (c : Char) : List Char :=
  if c = '"' then ['\\', '"']
  else if c = '\\' then ['\\', '\\']
  else if c = '\x08' then ['\\', 'b']
  else if c = '\t' then ['\\', 't']
  else if c = '\n' then ['\\', 'n']
  else if c = '\x0c' then ['\\', 'f']
  else if c = '\r' then ['\\', 'r']
  else if c.toNat < 0x20 then
    ['\\', 'u', '0', '0', hexDigit (c.toNat / 16), hexDigit (c.toNat % 16)]
  else [c]

def quoteRest : List Char → List Char
  | [] => ['"']
  | c :: rest => escape c ++ quoteRest rest

def quote (s : String) : List Char := '"' :: quoteRest s.toList

/-- The parts after the first, each with a comma before it, and what closes them. -/
def moreParts (close : Char) : List (List Char) → List Char
  | [] => [close]
  | part :: rest => ',' :: (part ++ moreParts close rest)

def parts (close : Char) : List (List Char) → List Char
  | [] => [close]
  | part :: rest => part ++ moreParts close rest

def sortKeys {α : Type} (le : String → String → Bool) (members : List (String × α)) :
    List (String × α) :=
  members.insertionSort fun a b => le a.1 b.1

theorem sortKeys_perm {α : Type} (le : String → String → Bool) (members : List (String × α)) :
    (sortKeys le members).Perm members :=
  perm_insertionSort _ members

mutual
/-- The compact text of a value with its keys in order. -/
def canonical (le : String → String → Bool) : JsonValue → List Char
  | .null => "null".toList
  | .bool b => (if b then "true" else "false").toList
  | .integer n => n.value.repr.toList
  | .text s => quote s
  | .array items => '[' :: parts ']' (canonicalItems le items)
  | .object members => '{' :: parts '}'
      ((sortKeys le (canonicalMembers le members)).map fun member =>
        quote member.1 ++ ':' :: member.2)

def canonicalItems (le : String → String → Bool) : List JsonValue → List (List Char)
  | [] => []
  | item :: rest => canonical le item :: canonicalItems le rest

def canonicalMembers (le : String → String → Bool) : Members → List (String × List Char)
  | [] => []
  | (key, value) :: rest => (key, canonical le value) :: canonicalMembers le rest
end

variable {le le' : String → String → Bool} {r r' : List Char}

theorem canonicalItems_eq (items : List JsonValue) :
    canonicalItems le items = items.map (canonical le) := by
  induction items with
  | nil => rfl
  | cons item rest ih => rw [canonicalItems, ih, map_cons]

theorem canonicalMembers_eq (members : Members) :
    canonicalMembers le members = members.map fun member => (member.1, canonical le member.2) := by
  induction members with
  | nil => rfl
  | cons member rest ih => rw [canonicalMembers, ih, map_cons]

/-- The text of one member. -/
def memberText (le : String → String → Bool) (member : String × JsonValue) : List Char :=
  quote member.1 ++ ':' :: canonical le member.2

theorem canonical_object (members : Members) : canonical le (.object members) =
      '{' :: parts '}' ((sortKeys le members).map (memberText le)) := by
  have sorted : sortKeys le (canonicalMembers le members) =
      (sortKeys le members).map fun member => (member.1, canonical le member.2) := by
    rw [canonicalMembers_eq]
    exact (map_insertionSort (fun a b : String × JsonValue => le a.1 b.1)
      (fun a b : String × List Char => le a.1 b.1) _ members fun _ _ _ _ => Iff.rfl).symm
  rw [canonical, sorted, map_map]
  rfl

/-! ## Reading a text -/

/-- Read one character of a string back. -/
def unescape : List Char → Option (Char × List Char)
  | '\\' :: 'u' :: '0' :: '0' :: high :: low :: rest =>
    some (Char.ofNat (16 * "0123456789abcdef".toList.idxOf high +
      "0123456789abcdef".toList.idxOf low), rest)
  | '\\' :: 'b' :: rest => some ('\x08', rest)
  | '\\' :: 't' :: rest => some ('\t', rest)
  | '\\' :: 'n' :: rest => some ('\n', rest)
  | '\\' :: 'f' :: rest => some ('\x0c', rest)
  | '\\' :: 'r' :: rest => some ('\r', rest)
  | '\\' :: c :: rest => some (c, rest)
  | c :: rest => some (c, rest)
  | [] => none

theorem idxOf_hexDigit : ∀ n < 16, "0123456789abcdef".toList.idxOf (hexDigit n) = n := by
  decide

theorem unescape_escape (c : Char) (rest : List Char) :
    unescape (escape c ++ rest) = some (c, rest) := by
  unfold escape
  split_ifs with h h h h h h h control
  iterate 7
    · rw [h]
      rfl
  · have high := idxOf_hexDigit (c.toNat / 16) (by omega)
    have low := idxOf_hexDigit (c.toNat % 16) (by omega)
    simp only [cons_append, nil_append, unescape, high, low, Nat.div_add_mod, Char.ofNat_toNat]
  · simp only [cons_append, nil_append]
    rw [unescape.eq_def]
    split <;> simp_all

theorem escape_head (c : Char) (rest left : List Char) : escape c ++ rest ≠ '"' :: left := by
  unfold escape
  split_ifs with isQuote <;> simp [isQuote]

/-- A string ends at its quotation mark. -/
theorem quoteRest_inj {s t : List Char}
    (same : quoteRest s ++ r = quoteRest t ++ r') : s = t ∧ r = r' := by
  induction s generalizing t with
  | nil =>
    cases t with
    | nil => exact ⟨rfl, (cons.inj same).2⟩
    | cons d =>
      rw [quoteRest, quoteRest, append_assoc] at same
      exact absurd same.symm (escape_head d _ _)
  | cons c s ih =>
    rw [quoteRest, append_assoc] at same
    cases t with
    | nil => exact absurd same (escape_head c _ _)
    | cons =>
      rw [quoteRest, append_assoc] at same
      have read := congrArg unescape same
      rw [unescape_escape, unescape_escape, Option.some.injEq, Prod.mk.injEq] at read
      obtain ⟨rfl, rest⟩ := ih read.2
      exact ⟨by rw [read.1], rest⟩

theorem quote_inj {s t : String} (same : quote s ++ r = quote t ++ r') : s = t ∧ r = r' := by
  obtain ⟨texts, rest⟩ := quoteRest_inj (cons.inj same).2
  exact ⟨String.toList_inj.mp texts, rest⟩

/-- The characters of numbers. -/
def isNumeral (c : Char) : Bool := c.isDigit || c = '-'

theorem repr_numeral (n : Int) : ∀ c ∈ n.repr.toList, isNumeral c = true := by
  have digits : ∀ m : Nat, ∀ c ∈ m.repr.toList, isNumeral c = true := by
    intro m c member
    rw [Nat.repr_eq_ofList_toDigits, String.toList_ofList] at member
    simp [isNumeral, Nat.isDigit_of_mem_toDigits (by decide) (by decide) member]
  rw [Int.repr_eq_if]
  split
  · exact digits _
  · intro c member
    rw [String.toList_append, mem_append] at member
    rcases member with sign | digit
    · obtain rfl : c = '-' := by simpa using sign
      rfl
    · exact digits _ c digit

theorem repr_ne_nil (n : Int) : n.repr.toList ≠ [] := by
  rw [Int.repr_eq_if]
  split <;> simp [Nat.repr_eq_ofList_toDigits, Nat.toDigits_ne_nil]

/-- What may follow a value: the end, a comma or a closing bracket. -/
def Ends (rest : List Char) : Prop := ∀ c ∈ rest.head?, c = ',' ∨ c = ']' ∨ c = '}'

theorem repr_inj {m n : Int} (ends : Ends r) (ends' : Ends r')
    (same : m.repr.toList ++ r = n.repr.toList ++ r') : m = n ∧ r = r' := by
  have taken : ∀ {n : Int} {r : List Char}, Ends r →
      (n.repr.toList ++ r).takeWhile isNumeral = n.repr.toList := by
    intro n r ends
    rw [takeWhile_append_of_pos (repr_numeral n)]
    cases r with
    | nil => simp
    | cons c =>
      rcases ends c rfl with rfl | rfl | rfl <;> simp [isNumeral]
  have texts : m.repr.toList = n.repr.toList := by rw [← taken ends, same, taken ends']
  rw [texts] at same
  exact ⟨Int.repr_inj.mp (String.toList_inj.mp texts), append_cancel_left same⟩

/-! ### Values -/

inductive Kind where
  | null | bool | number | text | array | object | mark
deriving DecidableEq

def JsonValue.kind : JsonValue → Kind
  | .null => .null
  | .bool _ => .bool
  | .integer _ => .number
  | .text _ => .text
  | .array _ => .array
  | .object _ => .object

/-- The kind of the value that starts with a character. -/
def kindOf (c : Char) : Kind :=
  if isNumeral c then .number
  else if c = 'n' then .null
  else if c = 't' ∨ c = 'f' then .bool
  else if c = '"' then .text
  else if c = '[' then .array
  else if c = '{' then .object
  else .mark

variable (le) in
theorem canonical_head (v : JsonValue) :
    ∃ c rest, canonical le v = c :: rest ∧ kindOf c = v.kind := by
  cases v with
  | null => exact ⟨_, _, rfl, by decide⟩
  | bool b => cases b <;> exact ⟨_, _, rfl, by decide⟩
  | text => exact ⟨_, _, rfl, rfl⟩
  | array | object => exact ⟨_, _, by rw [canonical], rfl⟩
  | integer n =>
    obtain ⟨c, rest, isText⟩ := exists_cons_of_ne_nil (repr_ne_nil n.value)
    refine ⟨c, rest, by rw [canonical, isText], if_pos ?_⟩
    exact repr_numeral n.value c (isText ▸ mem_cons_self)

theorem kind_eq {v w : JsonValue}
    (same : canonical le v ++ r = canonical le' w ++ r') : v.kind = w.kind := by
  obtain ⟨c, rest, isText, isKind⟩ := canonical_head le v
  obtain ⟨d, rest', isText', isKind'⟩ := canonical_head le' w
  rw [isText, isText'] at same
  rw [← isKind, ← isKind', (cons.inj same).1]

theorem canonical_starts (v : JsonValue) {c : Char} (mark : kindOf c = .mark)
    (rest left : List Char) : canonical le v ++ rest ≠ c :: left := by
  obtain ⟨d, more, isText, isKind⟩ := canonical_head le v
  rw [isText]
  rintro same
  rw [(cons.inj same).1, mark] at isKind
  cases v <;> cases isKind

/-! ### Parts -/

section Parts

variable {α β : Type} {f : α → List Char} {g : β → List Char} {R : α → β → Prop} {close : Char}
  {xs : List α} {ys : List β} {r r' : List Char}

/-- The text of a part tells the part, whatever follows. -/
def Parted (f : α → List Char) (g : β → List Char) (R : α → β → Prop) (x : α) : Prop :=
  ∀ y r r', Ends r → Ends r' → f x ++ r = g y ++ r' → R x y ∧ r = r'

theorem ends_moreParts (closes : close = ']' ∨ close = '}') (texts : List (List Char))
    (r : List Char) : Ends (moreParts close texts ++ r) := by
  cases texts <;> rcases closes with rfl | rfl <;> simp [Ends, moreParts]

theorem moreParts_inj (closes : close = ']' ∨ close = '}') (parted : ∀ x ∈ xs, Parted f g R x)
    (same : moreParts close (xs.map f) ++ r = moreParts close (ys.map g) ++ r') :
    Forall₂ R xs ys ∧ r = r' := by
  have comma : close ≠ ',' := by rcases closes with rfl | rfl <;> decide
  induction xs generalizing ys with
  | nil =>
    cases ys with
    | nil => exact ⟨.nil, (cons.inj same).2⟩
    | cons => exact absurd (cons.inj same).1 comma
  | cons x xs ih =>
    cases ys with
    | nil => exact absurd (cons.inj same).1.symm comma
    | cons y =>
      rw [map_cons, map_cons, moreParts, moreParts, cons_append, cons_append, append_assoc,
        append_assoc] at same
      obtain ⟨first, rest⟩ := parted x mem_cons_self y _ _ (ends_moreParts closes _ _)
        (ends_moreParts closes _ _) (cons.inj same).2
      obtain ⟨others, rest⟩ := ih (fun x member => parted x (mem_cons_of_mem _ member)) rest
      exact ⟨.cons first others, rest⟩

theorem parts_inj (closes : close = ']' ∨ close = '}')
    (starts : ∀ x rest left, f x ++ rest ≠ close :: left)
    (starts' : ∀ y rest left, g y ++ rest ≠ close :: left) (parted : ∀ x ∈ xs, Parted f g R x)
    (same : parts close (xs.map f) ++ r = parts close (ys.map g) ++ r') :
    Forall₂ R xs ys ∧ r = r' := by
  cases xs with
  | nil =>
    cases ys with
    | nil => exact ⟨.nil, (cons.inj same).2⟩
    | cons y =>
      rw [map_cons, parts, append_assoc] at same
      exact absurd same.symm (starts' y _ _)
  | cons x =>
    cases ys with
    | nil =>
      rw [map_cons, parts, append_assoc] at same
      exact absurd same (starts x _ _)
    | cons => exact moreParts_inj closes parted (congrArg (cons ',') same)

end Parts

/-! ## What equal texts give -/

/-- The relation is closed under the constructors, with the members of objects as either
encoding sorts them. -/
structure Closed (le le' : String → String → Bool) (R : JsonValue → JsonValue → Prop) : Prop where
  null : R .null .null
  bool : ∀ b, R (.bool b) (.bool b)
  integer : ∀ n, R (.integer n) (.integer n)
  text : ∀ s, R (.text s) (.text s)
  array : ∀ xs ys, Forall₂ R xs ys → R (.array xs) (.array ys)
  object : ∀ xs ys, Forall₂ (fun a b => a.1 = b.1 ∧ R a.2 b.2) (sortKeys le xs)
    (sortKeys le' ys) → R (.object xs) (.object ys)

variable {R : JsonValue → JsonValue → Prop}

theorem member_parted {member : String × JsonValue}
    (parted : Parted (canonical le) (canonical le') R member.2) :
    Parted (memberText le) (memberText le') (fun a b => a.1 = b.1 ∧ R a.2 b.2) member := by
  intro other r r' ends ends' same
  rw [memberText, memberText, append_assoc, append_assoc] at same
  obtain ⟨keys, values⟩ := quote_inj same
  obtain ⟨related, rest⟩ := parted other.2 r r' ends ends' (cons.inj values).2
  exact ⟨⟨keys, related⟩, rest⟩

/-- Equal texts give every closed relation. -/
theorem canonical_parted (closed : Closed le le' R) (v : JsonValue) :
    Parted (canonical le) (canonical le') R v := by
  induction v using JsonValue.induct with
  | step v itemsParted membersParted =>
    intro w r r' ends ends' same
    have kinds := kind_eq same
    cases v with
    | null =>
      cases w with
      | null => exact ⟨closed.null, append_cancel_left same⟩
      | _ => cases kinds
    | bool b =>
      cases w with
      | bool d =>
        cases b <;> cases d <;> simp [canonical] at same
        · exact ⟨closed.bool false, same⟩
        · exact ⟨closed.bool true, same⟩
      | _ => cases kinds
    | integer n =>
      cases w with
      | integer =>
        obtain ⟨values, rest⟩ := repr_inj ends ends' same
        exact ⟨SafeInteger.ext values ▸ closed.integer n, rest⟩
      | _ => cases kinds
    | text s =>
      cases w with
      | text =>
        obtain ⟨rfl, rest⟩ := quote_inj same
        exact ⟨closed.text s, rest⟩
      | _ => cases kinds
    | array items =>
      cases w with
      | array =>
        rw [canonical, canonical, canonicalItems_eq, canonicalItems_eq] at same
        obtain ⟨all, rest⟩ := parts_inj (.inl rfl) (fun v => canonical_starts v (by decide))
          (fun v => canonical_starts v (by decide)) (itemsParted items rfl) (cons.inj same).2
        exact ⟨closed.array _ _ all, rest⟩
      | _ => cases kinds
    | object members =>
      cases w with
      | object =>
        rw [canonical_object, canonical_object] at same
        obtain ⟨all, rest⟩ := parts_inj (.inr rfl) (by simp [memberText, quote])
          (by simp [memberText, quote]) (fun member sorted => member_parted
            (membersParted members rfl member ((sortKeys_perm le members).subset sorted)))
          (cons.inj same).2
        exact ⟨closed.object _ _ all, rest⟩
      | _ => cases kinds

theorem canonical_closed (closed : Closed le le' R) {v w : JsonValue}
    (same : canonical le v = canonical le' w) : R v w := by
  have ends : Ends [] := by simp [Ends]
  refine (canonical_parted closed v w [] [] ends ends ?_).1
  rw [same]

end OwnMesh.Foundations
