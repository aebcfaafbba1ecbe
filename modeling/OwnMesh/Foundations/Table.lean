import Mathlib

/-!
# Finite tables

A keyed collection with at most one value per key: an association list without
duplicate keys.  Lookup, insertion and erasure are those of `AList`; this module
adds what a program does to a whole table at once (`mapValues`, `retain`, `ofPairs`)
and to one entry in place (`adjust`), each with its lookup lemma.  Two tables with the
same lookups have the same entries up to their order (`perm_of_lookup_eq`).
-/

namespace OwnMesh.Foundations

/-- A finite table from keys `κ` to values `ν`. -/
abbrev Table (κ ν : Type) : Type := AList (fun _ : κ => ν)

namespace Table

variable {κ ν μ : Type}

/-- The key and value of every entry. -/
def toList (t : Table κ ν) : List (κ × ν) := t.entries.map fun entry => (entry.1, entry.2)

/-- Apply a function to every value. -/
def mapValues (f : κ → ν → μ) (t : Table κ ν) : Table κ μ where
  entries := t.entries.map fun entry => ⟨entry.1, f entry.1 entry.2⟩
  nodupKeys := by
    have keys : (t.entries.map fun entry => (⟨entry.1, f entry.1 entry.2⟩ :
        Sigma fun _ : κ => μ)).keys = t.entries.keys := by
      simp only [List.keys, List.map_map]
      rfl
    show (List.keys _).Nodup
    rw [keys]
    exact t.nodupKeys

/-- Keep the entries that pass a test. -/
def retain (p : κ → ν → Bool) (t : Table κ ν) : Table κ ν where
  entries := t.entries.filter fun entry => p entry.1 entry.2
  nodupKeys := t.nodupKeys.sublist List.filter_sublist

@[simp]
theorem length_mapValues (f : κ → ν → μ) (t : Table κ ν) :
    (t.mapValues f).entries.length = t.entries.length :=
  List.length_map _

/-- A table that loses no entry is unchanged. -/
theorem retain_eq_self (p : κ → ν → Bool) (t : Table κ ν)
    (none_lost : t.entries.length - (t.retain p).entries.length = 0) : t.retain p = t := by
  apply AList.ext
  have shorter : (t.entries.filter fun entry => p entry.1 entry.2).length ≤ t.entries.length :=
    List.length_filter_le _ _
  have same : (t.entries.filter fun entry => p entry.1 entry.2).length = t.entries.length := by
    have lost : t.entries.length - (t.entries.filter fun entry => p entry.1 entry.2).length = 0 :=
      none_lost
    omega
  exact List.filter_eq_self.mpr (List.length_filter_eq_length_iff.mp same)

theorem keys_toList_nodup (t : Table κ ν) : (t.toList.map Prod.fst).Nodup := by
  have keys : t.toList.map Prod.fst = t.keys := by
    simp only [toList, List.map_map]
    rfl
  rw [keys]
  exact t.keys_nodup

variable [DecidableEq κ]

/-- Apply a function to the value at one key, if there is one. -/
def adjust (k : κ) (f : ν → ν) (t : Table κ ν) : Table κ ν :=
  t.mapValues fun key value => if key = k then f value else value

variable {t : Table κ ν} {k : κ}

theorem mem_toList_iff {v : ν} : (k, v) ∈ t.toList ↔ t.lookup k = some v := by
  rw [← Option.mem_def, AList.mem_lookup_iff, toList, List.mem_map]
  constructor
  · rintro ⟨⟨key, value⟩, member, same⟩
    cases same
    exact member
  · intro member
    exact ⟨⟨k, v⟩, member, rfl⟩

theorem lookup_isSome_of_mem {entry : κ × ν} (member : entry ∈ t.toList) :
    t.lookup entry.1 = some entry.2 :=
  mem_toList_iff.mp member

@[simp]
theorem lookup_mapValues (f : κ → ν → μ) (t : Table κ ν) (k : κ) :
    (t.mapValues f).lookup k = (t.lookup k).map (f k) := by
  show List.dlookup k (t.entries.map fun entry =>
      (⟨entry.1, f entry.1 entry.2⟩ : Sigma fun _ : κ => μ)) =
    (List.dlookup k t.entries).map (f k)
  induction t.entries with
  | nil => rfl
  | cons entry rest ih =>
    obtain ⟨key, value⟩ := entry
    by_cases same : k = key
    · subst same
      simp
    · rw [List.map_cons, List.dlookup_cons_ne _ _ same, List.dlookup_cons_ne _ _ same]
      exact ih

@[simp]
theorem lookup_retain (p : κ → ν → Bool) (t : Table κ ν) (k : κ) :
    (t.retain p).lookup k = (t.lookup k).filter (p k) := by
  refine Option.ext fun v => ?_
  rw [← Option.mem_def, AList.mem_lookup_iff, Option.filter_eq_some_iff, ← Option.mem_def,
    AList.mem_lookup_iff]
  exact List.mem_filter

/-- An entry after one was put in is that one, or was there before. -/
theorem lookup_insert_some {v w : ν} {key : κ} (found : (t.insert k v).lookup key = some w) :
    key = k ∧ w = v ∨ t.lookup key = some w := by
  by_cases here : key = k
  · rw [here, AList.lookup_insert] at found
    exact .inl ⟨here, (Option.some.inj found).symm⟩
  · exact .inr ((AList.lookup_insert_ne here).symm.trans found)

theorem lookup_erase_some {w : ν} {key : κ} (found : (t.erase k).lookup key = some w) :
    t.lookup key = some w := by
  by_cases here : key = k
  · rw [here, AList.lookup_erase] at found
    cases found
  · exact (AList.lookup_erase_ne here).symm.trans found

theorem lookup_adjust_self (k : κ) (f : ν → ν) (t : Table κ ν) :
    (t.adjust k f).lookup k = (t.lookup k).map f := by
  rw [adjust, lookup_mapValues]
  simp only [if_true]

theorem lookup_adjust_ne {key : κ} (other : key ≠ k) (f : ν → ν) (t : Table κ ν) :
    (t.adjust k f).lookup key = t.lookup key := by
  rw [adjust, lookup_mapValues]
  simp [other]

/-- Two changes of one entry are one. -/
theorem adjust_adjust (k : κ) (f g : ν → ν) (t : Table κ ν) :
    (t.adjust k f).adjust k g = t.adjust k (g ∘ f) := by
  apply AList.ext
  simp only [adjust, mapValues, List.map_map]
  refine List.map_congr_left fun entry _ => ?_
  by_cases here : entry.1 = k <;> simp [here]

theorem adjust_eq_self {f : ν → ν} (same : ∀ v, t.lookup k = some v → f v = v) :
    t.adjust k f = t := by
  refine AList.ext ((List.map_congr_left fun entry member => ?_).trans (List.map_id _))
  by_cases here : entry.1 = k
  · subst here
    simp [same entry.2 (AList.mem_lookup_iff.mpr member)]
  · simp [here]

/-- An entry that was just put in leaves no trace when it is removed. -/
theorem erase_insert (k : κ) (v : ν) (t : Table κ ν) : (t.insert k v).erase k = t.erase k := by
  apply AList.ext
  simp [AList.erase, AList.insert, List.kinsert]

/-! ## Entries and lookups -/

/-- Tables with the same lookups differ only in the order of their entries. -/
theorem perm_of_lookup_eq {u : Table κ ν} (same : ∀ k, t.lookup k = u.lookup k) :
    t.entries.Perm u.entries := by
  apply List.lookup_ext t.nodupKeys u.nodupKeys
  intro k v
  show v ∈ t.lookup k ↔ v ∈ u.lookup k
  rw [same k]

theorem toList_perm {u : Table κ ν} (same : ∀ k, t.lookup k = u.lookup k) :
    t.toList.Perm u.toList :=
  (perm_of_lookup_eq same).map _

theorem length_insert_of_absent (absent : t.lookup k = none) (v : ν) :
    (t.insert k v).entries.length = t.entries.length + 1 := by
  rw [AList.entries_insert_of_notMem (AList.lookup_eq_none.mp absent)]
  rfl

theorem length_insert_of_present {old : ν} (present : t.lookup k = some old) (v : ν) :
    (t.insert k v).entries.length = t.entries.length := by
  have member : k ∈ t.keys := AList.lookup_isSome.mp (by rw [present]; rfl)
  have positive : 0 < t.keys.length := List.length_pos_of_mem member
  have lengths : (t.insert k v).keys.length = t.keys.length := by
    rw [AList.keys_insert, List.length_cons, List.length_erase_of_mem member]
    omega
  simpa [AList.keys, List.keys] using lengths

theorem length_erase_of_present {old : ν} (present : t.lookup k = some old) :
    (t.erase k).entries.length + 1 = t.entries.length := by
  have member : k ∈ t.keys := AList.lookup_isSome.mp (by rw [present]; rfl)
  have positive : 0 < t.keys.length := List.length_pos_of_mem member
  have lengths : (t.erase k).keys.length + 1 = t.keys.length := by
    rw [AList.keys_erase, List.length_erase_of_mem member]
    omega
  simpa [AList.keys, List.keys] using lengths

theorem length_erase_le (k : κ) (t : Table κ ν) :
    (t.erase k).entries.length ≤ t.entries.length := by
  have shorter : (t.erase k).keys.length ≤ t.keys.length := by
    rw [AList.keys_erase]
    exact List.length_erase_le
  simpa [AList.keys, List.keys] using shorter

/-- The table of a list of pairs; of two with the same key the later one stays. -/
def ofPairs (pairs : List (κ × ν)) : Table κ ν :=
  pairs.foldl (fun t pair => t.insert pair.1 pair.2) ∅

theorem lookup_foldl_insert {pairs : List (κ × ν)} (distinct : (pairs.map Prod.fst).Nodup)
    (start : Table κ ν) (k : κ) (v : ν) :
    (pairs.foldl (fun t pair => t.insert pair.1 pair.2) start).lookup k = some v ↔
      (k, v) ∈ pairs ∨ (k ∉ pairs.map Prod.fst ∧ start.lookup k = some v) := by
  induction pairs generalizing start with
  | nil => simp
  | cons pair rest ih =>
    obtain ⟨key, value⟩ := pair
    rw [List.map_cons, List.nodup_cons] at distinct
    rw [List.foldl_cons, ih distinct.2]
    have fresh : ∀ other, (key, other) ∉ rest := by
      intro other member
      exact distinct.1 (List.mem_map.mpr ⟨(key, other), member, rfl⟩)
    by_cases same : k = key
    · subst same
      simp [distinct.1, fresh, eq_comm]
    · simp [same, AList.lookup_insert_ne same]

theorem lookup_ofPairs_iff {pairs : List (κ × ν)} (distinct : (pairs.map Prod.fst).Nodup)
    {v : ν} : (ofPairs pairs).lookup k = some v ↔ (k, v) ∈ pairs := by
  rw [ofPairs, lookup_foldl_insert distinct]
  simp

end Table

end OwnMesh.Foundations
