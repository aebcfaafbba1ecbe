import Mathlib

/-!
# Paths of policy rules and grants

Paths are compared in three ways.  Grants compare whole components
(`pathScopeContains`).  Rules compare texts: as they were sent when neither side has a
`..`, and after resolving `..` otherwise (`rulePathPrefixMatches`).  What a path means is
its `location`: the components that are left after dropping `.` and empty components and
resolving `..` against what stands before it.

Texts are lists of characters.  The separator is the slash: these are the paths of the
host systems on which a backslash is an ordinary character.
-/

namespace OwnMesh.Policy

/-! ## Components -/

inductive Component where
  | rootDir
  | curDir
  | parentDir
  | normal (name : List Char)
deriving DecidableEq, Repr

/-- The component of a piece between separators; empty pieces and `.` are none. -/
def Component.ofPiece : List Char → Option Component
  | [] => none
  | ['.'] => none
  | ['.', '.'] => some .parentDir
  | name => some (.normal name)

def isRooted (value : List Char) : Bool := value.head? == some '/'

/-- The components after the root. -/
def pieces (value : List Char) : List Component :=
  (value.splitOn '/').filterMap Component.ofPiece

/-- What stands before the other components: the root, or a `.` a relative path begins
with. -/
def leading (value : List Char) : List Component :=
  if isRooted value then [.rootDir]
  else if (value.splitOn '/').head? = some ['.'] then [.curDir]
  else []

/-- The components of a path, as the host system's path library lists them. -/
def components (value : List Char) : List Component := leading value ++ pieces value

def hasParent (value : List Char) : Bool := (components value).contains .parentDir

/-- The components of a scope; `none` for an empty value or one that climbs. -/
def pathComponents (value : List Char) : Option (List Component) :=
  if value = [] then none
  else if hasParent value then none
  else
    let kept := (components value).filter fun component => component ≠ .curDir
    if kept = [] then none else some kept

/-- Whether the candidate is the scope or lies inside it. -/
def pathScopeContains (scope candidate : List Char) : Bool :=
  match pathComponents scope, pathComponents candidate with
  | some scope, some candidate =>
    decide (scope.length ≤ candidate.length) &&
      (scope.zip candidate).all fun pair => pair.1 == pair.2
  | _, _ => false

/-! ## Resolving `..` -/

/-- An owned path: whether it has a root, and its names, the innermost first. -/
structure PathBuf where
  root : Bool
  names : List (List Char)
deriving DecidableEq, Repr

/-- Drop the innermost name; there may be none. -/
def PathBuf.pop (buf : PathBuf) : Option PathBuf :=
  match buf.names with
  | [] => none
  | _ :: names => some { buf with names := names }

def PathBuf.text (buf : PathBuf) : List Char :=
  (if buf.root then ['/'] else []) ++ ['/'].intercalate buf.names.reverse

/-- One component more. -/
def PathBuf.step (buf : PathBuf) : Component → Option PathBuf
  | .curDir => some buf
  | .parentDir => buf.pop
  | .rootDir => some { root := true, names := [] }
  | .normal name => some { buf with names := name :: buf.names }

/-- The text of a path with `..` resolved; `none` if there is nothing to climb out of.
A separator at the end is kept. -/
def normalize (value : List Char) : Option (List Char) :=
  ((components value).foldlM PathBuf.step { root := false, names := [] }).map fun buf =>
    if value.getLast? = some '/' ∧ buf.text.getLast? ≠ some '/' then buf.text ++ ['/']
    else buf.text

/-- The path condition of a rule. -/
def rulePathPrefixMatches (scope candidate : List Char) : Bool :=
  if hasParent scope = false ∧ hasParent candidate = false then scope.isPrefixOf candidate
  else
    match normalize scope, normalize candidate with
    | some scope, some candidate => scope.isPrefixOf candidate
    | _, _ => false

/-! ## Locations -/

/-- Where a path leads: from the root or from the directory it is resolved in, up some
levels, then down the names, the innermost first. -/
structure Location where
  root : Bool
  ups : Nat
  names : List (List Char)
deriving DecidableEq, Repr

/-- One component more.  There is nothing above the root. -/
def Location.step (location : Location) : Component → Location
  | .curDir => location
  | .rootDir => { root := true, ups := 0, names := [] }
  | .normal name => { location with names := name :: location.names }
  | .parentDir =>
    match location.names with
    | _ :: names => { location with names := names }
    | [] => if location.root then location else { location with ups := location.ups + 1 }

/-- The location a path denotes. -/
def location (value : List Char) : Location :=
  (components value).foldl Location.step { root := false, ups := 0, names := [] }

/-- Two spellings of one location. -/
def SameLocation (candidate candidate' : List Char) : Prop :=
  location candidate = location candidate'

instance (candidate candidate' : List Char) : Decidable (SameLocation candidate candidate') :=
  inferInstanceAs (Decidable (_ = _))

example : SameLocation "./secrets//key".toList "secrets/x/../key".toList := by decide

example : location "/../etc".toList = location "/etc".toList := by decide

/-! ## Reading texts piece by piece -/

theorem ofPiece_ne_rootDir (piece : List Char) : Component.ofPiece piece ≠ some .rootDir := by
  unfold Component.ofPiece
  split <;> simp

theorem rootDir_not_mem_pieces (value : List Char) : Component.rootDir ∉ pieces value := by
  intro there
  obtain ⟨piece, -, made⟩ := List.mem_filterMap.mp there
  exact ofPiece_ne_rootDir piece made

@[simp]
theorem splitOn_slash_cons (value : List Char) :
    ('/' :: value).splitOn '/' = [] :: value.splitOn '/' := by
  rfl

theorem splitOn_cons_of_ne {c : Char} (other : c ≠ '/') (value : List Char) :
    (c :: value).splitOn '/' = (value.splitOn '/').modifyHead (List.cons c) := by
  rw [List.splitOn, List.splitOnP_cons_eq_if_modifyHead, if_neg (by simpa using other)]
  rfl

theorem splitOn_append_slash (value rest : List Char) :
    (value ++ '/' :: rest).splitOn '/' = value.splitOn '/' ++ rest.splitOn '/' := by
  induction value with
  | nil => exact splitOn_slash_cons rest
  | cons c value ih =>
    by_cases slash : c = '/'
    · subst slash
      rw [List.cons_append, splitOn_slash_cons, splitOn_slash_cons, ih]
      rfl
    · rw [List.cons_append, splitOn_cons_of_ne slash, splitOn_cons_of_ne slash, ih]
      cases split : value.splitOn '/' with
      | nil => exact absurd split (List.splitOn_ne_nil _ _)
      | cons => rfl

/-- A separator separates. -/
theorem pieces_append_slash (value rest : List Char) :
    pieces (value ++ '/' :: rest) = pieces value ++ pieces rest := by
  rw [pieces, splitOn_append_slash, List.filterMap_append]
  rfl

end OwnMesh.Policy
