import OwnMesh.Foundations.Rows

/-!
# Maps that keep the order of insertion

A finite map whose entries are iterated in the order in which their keys were first set.
Setting a key that is present changes its value in place.
-/

namespace OwnMesh.Foundations

/-- Entries in order, at most one for a key. -/
@[ext]
structure OrderedMap (κ ν : Type) where
  entries : List (κ × ν)
  distinct : Keyed Prod.fst entries

namespace OrderedMap

variable {κ ν : Type}

def empty : OrderedMap κ ν := ⟨[], List.Pairwise.nil⟩

def size (m : OrderedMap κ ν) : Nat := m.entries.length

def values (m : OrderedMap κ ν) : List ν := m.entries.map Prod.snd

/-- Apply a function to every value. -/
def mapValues (m : OrderedMap κ ν) (f : ν → ν) : OrderedMap κ ν where
  entries := m.entries.map fun entry => (entry.1, f entry.2)
  distinct := m.distinct.map fun _ => rfl

/-- Keep the entries that pass a test. -/
def retain (m : OrderedMap κ ν) (keep : κ × ν → Bool) : OrderedMap κ ν where
  entries := m.entries.filter keep
  distinct := m.distinct.filter keep

variable {m : OrderedMap κ ν}

theorem retain_eq_self {keep : κ × ν → Bool}
    (all : ∀ entry ∈ m.entries, keep entry = true) : m.retain keep = m :=
  OrderedMap.ext (List.filter_eq_self.mpr all)

variable [DecidableEq κ]

/-- The entries that stay when some are taken out by their keys, and those. -/
theorem retain_perm {taken rest : List (κ × ν)} (split : (taken ++ rest).Perm m.entries) :
    ((m.retain fun entry => !taken.any fun other => other.1 = entry.1).entries ++ taken).Perm
      m.entries := by
  have apart : (taken ++ rest).Pairwise fun a b => a.1 ≠ b.1 :=
    (split.pairwise_iff Ne.symm).mpr m.distinct
  obtain ⟨-, -, apart⟩ := List.pairwise_append.mp apart
  have gone : taken.filter (fun entry => !taken.any fun other => other.1 = entry.1) = [] := by
    refine List.filter_eq_nil_iff.mpr fun entry here => ?_
    simpa using ⟨entry.2, here⟩
  have kept : rest.filter (fun entry => !taken.any fun other => other.1 = entry.1) = rest := by
    refine List.filter_eq_self.mpr fun entry here => ?_
    simpa using fun key value there same => apart (key, value) there entry here same
  have stays := split.filter fun entry => !taken.any fun other => other.1 = entry.1
  rw [List.filter_append, gone, kept, List.nil_append] at stays
  exact (stays.symm.append_right taken).trans (List.perm_append_comm.trans split)

def get (m : OrderedMap κ ν) (k : κ) : Option ν :=
  (m.entries.find? fun entry => entry.1 = k).map Prod.snd

def has (m : OrderedMap κ ν) (k : κ) : Bool := (m.get k).isSome

/-- Replace the value at a key, if it is there. -/
def replace (m : OrderedMap κ ν) (k : κ) (v : ν) : OrderedMap κ ν where
  entries := m.entries.map fun entry => if entry.1 = k then (k, v) else entry
  distinct := by
    refine m.distinct.map ?_
    intro entry
    split
    next same => exact same.symm
    next => rfl

variable {k : κ}

theorem get_eq_none_iff : m.get k = none ↔ ∀ entry ∈ m.entries, entry.1 ≠ k := by
  simp [get]

def set (m : OrderedMap κ ν) (k : κ) (v : ν) : OrderedMap κ ν :=
  match absent : m.get k with
  | some _ => m.replace k v
  | none =>
    { entries := m.entries ++ [(k, v)]
      distinct := m.distinct.concat fun entry stored =>
        get_eq_none_iff.mp absent entry stored }

end OrderedMap

end OwnMesh.Foundations
