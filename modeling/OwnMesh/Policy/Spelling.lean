import OwnMesh.Policy.Document

/-!
# Rules and the spelling of a path

A rule should treat all spellings of one location alike.  It does so exactly when its own
path has a `..` and, once that is resolved, either leads out of where it starts or is a
relative path without a separator at the end (`Settles`); for every other path condition
two spellings of one location get different answers, and a document that denies what lies
under it can be passed by (`spelling_independent_iff`).

The reason is that texts are compared as they were sent when neither side has a `..`:
`./secrets` does not begin with `secrets`.  When one side has a `..` both are resolved,
but a separator at the end is kept, and a path that climbs above the root matches nothing.
-/

namespace OwnMesh.Policy

open List Component Location

/-! ## Resolving against locating -/

/-- The start of a walk. -/
def startBuf (root : Bool) : PathBuf := { root := root, names := [] }

def startLocation (root : Bool) : Location := { root := root, ups := 0, names := [] }

/-- The location of an owned path. -/
def PathBuf.location (buf : PathBuf) : Location :=
  { root := buf.root, ups := 0, names := buf.names }

theorem foldlM_components (value : List Char) :
    (components value).foldlM PathBuf.step { root := false, names := [] } =
      (pieces value).foldlM PathBuf.step (startBuf (isRooted value)) := by
  unfold components leading
  cases rooted : isRooted value with
  | true => rfl
  | false =>
    rw [if_neg Bool.false_ne_true]
    split <;> rfl

theorem location_eq (value : List Char) :
    location value = (pieces value).foldl Location.step (startLocation (isRooted value)) := by
  unfold location components leading
  cases rooted : isRooted value with
  | true => rfl
  | false =>
    rw [if_neg Bool.false_ne_true]
    split <;> rfl

theorem hasParent_iff (value : List Char) : hasParent value = true ↔ parentDir ∈ pieces value := by
  unfold hasParent components leading
  rw [contains_iff_mem, mem_append]
  constructor
  · rintro (there | there)
    · split at there
      · simp at there
      · split at there <;> simp at there
    · exact there
  · exact .inr

variable {buf : PathBuf}

theorem PathBuf.step_location {middle : PathBuf} {part : Component}
    (stepped : buf.step part = some middle) : buf.location.step part = middle.location := by
  cases part with
  | rootDir | curDir | normal =>
    cases stepped
    rfl
  | parentDir =>
    rw [show buf.step .parentDir = buf.pop from rfl, PathBuf.pop] at stepped
    cases found : buf.names with rw [found] at stepped
    | nil =>
      cases stepped
    | cons =>
      cases stepped
      simp only [PathBuf.location, Location.step, found]

variable {parts : List Component}

/-- A walk that never climbs above its start ends where the location says. -/
theorem location_of_foldlM {buf' : PathBuf} (walked : parts.foldlM PathBuf.step buf = some buf') :
    parts.foldl Location.step buf.location = buf'.location := by
  induction parts generalizing buf with
  | nil =>
    cases walked
    rfl
  | cons part parts ih =>
    obtain ⟨middle, stepped, rest⟩ := Option.bind_eq_some_iff.mp walked
    rw [foldl_cons, PathBuf.step_location stepped]
    exact ih rest

theorem Location.step_root {location : Location} {part : Component} (other : part ≠ .rootDir) :
    (location.step part).root = location.root := by
  cases part with
  | rootDir => exact absurd rfl other
  | curDir | normal => rfl
  | parentDir =>
    simp only [step]
    split
    · rfl
    · split <;> rfl

theorem foldl_root (unrooted : rootDir ∉ parts)
    (location : Location) : (parts.foldl Location.step location).root = location.root := by
  induction parts generalizing location with
  | nil => rfl
  | cons part parts ih =>
    have first : rootDir ≠ part := ne_of_not_mem_cons unrooted
    have rest : rootDir ∉ parts := not_mem_of_not_mem_cons unrooted
    rw [foldl_cons, ih rest, step_root fun same => first same.symm]

/-- What is above its start stays above it. -/
theorem foldl_ups (unrooted : rootDir ∉ parts) {location : Location}
    (above : 0 < location.ups) : 0 < (parts.foldl Location.step location).ups := by
  induction parts generalizing location with
  | nil => exact above
  | cons part parts ih =>
    have first : rootDir ≠ part := ne_of_not_mem_cons unrooted
    have rest : rootDir ∉ parts := not_mem_of_not_mem_cons unrooted
    refine ih rest ?_
    cases part with
    | rootDir => exact absurd rfl first
    | curDir | normal => exact above
    | parentDir =>
      simp only [step]
      split
      · exact above
      · split
        · exact above
        · exact Nat.succ_pos _

/-- A relative walk that climbs above its start has a location above it. -/
theorem ups_of_foldlM (relative : buf.root = false)
    (unrooted : rootDir ∉ parts) (climbed : parts.foldlM PathBuf.step buf = none) :
    0 < (parts.foldl Location.step buf.location).ups := by
  induction parts generalizing buf with
  | nil => cases climbed
  | cons part parts ih =>
    have first : rootDir ≠ part := ne_of_not_mem_cons unrooted
    have rest : rootDir ∉ parts := not_mem_of_not_mem_cons unrooted
    rw [foldlM_cons] at climbed
    cases stepped : buf.step part with
    | some =>
      rw [stepped] at climbed
      have root := congrArg root (PathBuf.step_location stepped)
      rw [step_root fun same => first same.symm] at root
      rw [foldl_cons, PathBuf.step_location stepped]
      exact ih (root.symm.trans relative) rest climbed
    | none =>
      refine foldl_ups rest ?_
      cases part with
      | rootDir | curDir | normal => cases stepped
      | parentDir =>
        rw [show buf.step .parentDir = buf.pop from rfl, PathBuf.pop] at stepped
        cases found : buf.names with
        | nil => simp [PathBuf.location, step, found, relative]
        | cons =>
          rw [found] at stepped
          cases stepped

/-! ## Texts of locations -/

/-- The text of a location that is not above its start. -/
def Location.text (location : Location) : List Char :=
  PathBuf.text { root := location.root, names := location.names }

theorem location_root (value : List Char) : (location value).root = isRooted value := by
  rw [location_eq, foldl_root (rootDir_not_mem_pieces value)]
  rfl

/-- What resolving a path gives: nothing if it climbs above its start, and otherwise the
text of its location, perhaps with a separator. -/
theorem normalize_cases (value : List Char) :
    (normalize value = none ∧ (isRooted value = false → 0 < (location value).ups)) ∨
      (location value).ups = 0 ∧ (normalize value = some (location value).text ∨
          value.getLast? = some '/' ∧ normalize value = some ((location value).text ++ ['/'])) := by
  unfold normalize
  rw [foldlM_components]
  cases walked : (pieces value).foldlM PathBuf.step (startBuf (isRooted value)) with
  | none =>
    refine .inl ⟨rfl, fun relative => ?_⟩
    rw [location_eq]
    exact ups_of_foldlM relative (rootDir_not_mem_pieces value) walked
  | some buf =>
    have located : location value = buf.location := by
      rw [location_eq]
      exact location_of_foldlM walked
    refine .inr ⟨by rw [located]; rfl, ?_⟩
    rw [located, Option.map_some]
    split
    · next ends => exact .inr ⟨ends.1, rfl⟩
    · exact .inl rfl

/-- A name of a directory entry. -/
def IsName (name : List Char) : Prop := name ≠ [] ∧ '/' ∉ name

variable {value : List Char} {name : List Char}

theorem slash_not_mem_of_splitOn {piece : List Char} (there : piece ∈ value.splitOn '/') :
    '/' ∉ piece := by
  induction value generalizing piece with
  | nil =>
    obtain rfl := mem_singleton.mp there
    exact not_mem_nil
  | cons c value ih =>
    by_cases slash : c = '/'
    · subst slash
      rcases mem_cons.mp there with rfl | later
      · exact not_mem_nil
      · exact ih later
    · rw [splitOn_cons_of_ne slash] at there
      cases split : value.splitOn '/' with
      | nil => exact absurd split (splitOn_ne_nil _ _)
      | cons =>
        rw [split] at there ih
        rcases mem_cons.mp there with rfl | later
        · intro member
          rcases mem_cons.mp member with same | member
          · exact slash same.symm
          · exact ih mem_cons_self member
        · exact ih (mem_cons_of_mem _ later)

theorem isName_of_pieces (there : normal name ∈ pieces value) : IsName name := by
  obtain ⟨piece, member, made⟩ := mem_filterMap.mp there
  have same : piece = name := by
    unfold ofPiece at made
    split at made <;> simp_all
  subst same
  refine ⟨?_, slash_not_mem_of_splitOn member⟩
  rintro rfl
  cases made

theorem mem_names_of_foldl {location : Location}
    (there : name ∈ (parts.foldl Location.step location).names) :
    name ∈ location.names ∨ normal name ∈ parts := by
  induction parts generalizing location with
  | nil => exact .inl there
  | cons part parts ih =>
    rcases ih there with before | later
    · cases part with
      | rootDir => cases before
      | curDir => exact .inl before
      | normal =>
        rcases mem_cons.mp before with rfl | before
        · exact .inr mem_cons_self
        · exact .inl before
      | parentDir =>
        simp only [step] at before
        split at before
        · next other names found =>
            rw [found]
            exact .inl (mem_cons_of_mem _ before)
        · split at before <;> exact .inl before
    · exact .inr (mem_cons_of_mem _ later)

theorem isName_of_location (there : name ∈ (location value).names) : IsName name := by
  rw [location_eq] at there
  rcases mem_names_of_foldl there with before | made
  · cases before
  · exact isName_of_pieces made

/-- Joined names neither begin nor end with a separator. -/
theorem intercalate_ends {names : List (List Char)} (areNames : ∀ name ∈ names, IsName name) :
    (['/'].intercalate names).head? ≠ some '/' ∧ (['/'].intercalate names).getLast? ≠ some '/' := by
  have outside : ∀ {name : List Char}, IsName name →
      name.head? ≠ some '/' ∧ name.getLast? ≠ some '/' := fun isName =>
    ⟨fun first => isName.2 (mem_of_head? first), fun last => isName.2 (mem_of_getLast? last)⟩
  induction names with
  | nil => exact ⟨nofun, nofun⟩
  | cons name names ih =>
    have isName := areNames name mem_cons_self
    cases names with
    | nil =>
      rw [intercalate_singleton]
      exact outside isName
    | cons next names =>
      have rest := ih fun other member =>
        areNames other (mem_cons_of_mem _ member)
      rw [intercalate_cons_cons]
      constructor
      · rw [append_assoc, head?_append]
        cases first : name.head? with
        | none => exact absurd (head?_eq_none_iff.mp first) isName.1
        | some =>
          have inside := (outside isName).1
          rwa [first] at inside
      · rw [getLast?_append]
        cases last : (['/'].intercalate (next :: names)).getLast? with
        | none =>
          have nonempty := (areNames next (by simp)).1
          have empty := getLast?_eq_none_iff.mp last
          cases names with
          | nil =>
            rw [intercalate_singleton] at empty
            exact absurd empty nonempty
          | cons =>
            simp at empty
        | some =>
          have inside := rest.2
          rwa [last] at inside

theorem relative_text_ends (relative : isRooted value = false) :
    (location value).text.head? ≠ some '/' ∧ (location value).text.getLast? ≠ some '/' := by
  unfold text PathBuf.text
  rw [location_root, relative]
  exact intercalate_ends fun name member => isName_of_location (mem_reverse.mp member)

/-! ## The paths whose rules do not depend on spelling -/

/-- The path of a rule has a `..`, and with that resolved it leads out of where it starts
or is a relative path, other than the empty one, without a separator at the end. -/
def Settles (scope : List Char) : Prop :=
  hasParent scope = true ∧ (normalize scope = none ∨
      ∃ text, normalize scope = some text ∧ isRooted scope = false ∧ text ≠ [] ∧
        text.getLast? ≠ some '/')

theorem matches_of_hasParent {scope : List Char} (parent : hasParent scope = true)
    (candidate : List Char) : rulePathPrefixMatches scope candidate =
      match normalize scope, normalize candidate with
      | some scope, some candidate => scope.isPrefixOf candidate
      | _, _ => false := by
  cases first : normalize scope <;> cases second : normalize candidate <;>
    simp [rulePathPrefixMatches, parent, first, second]

/-- A resolved relative path matches a candidate according to its location. -/
theorem normalized_matches_iff {text candidate : List Char} (nonempty : text ≠ [])
    (first : text.head? ≠ some '/') (last : text.getLast? ≠ some '/') :
    (∃ resolved, normalize candidate = some resolved ∧ text <+: resolved) ↔
      (location candidate).root = false ∧ (location candidate).ups = 0 ∧
        text <+: (location candidate).text := by
  have rooted : ∀ {resolved : List Char}, resolved.head? = some '/' → ¬ text <+: resolved := by
    intro resolved head isPrefix
    obtain ⟨rest, rfl⟩ := isPrefix
    rw [head?_append] at head
    cases start : text.head? with
    | none => exact nonempty (head?_eq_none_iff.mp start)
    | some =>
      rw [start] at head first
      exact first head
  have rootText : (location candidate).root = true →
      (location candidate).text.head? = some '/' := by
    intro root
    unfold Location.text PathBuf.text
    rw [root]
    rfl
  constructor
  · rintro ⟨resolved, normalized, isPrefix⟩
    rcases normalize_cases candidate with ⟨none, -⟩ | ⟨ups, plain | ⟨-, slash⟩⟩
    · rw [none] at normalized
      cases normalized
    · rw [plain] at normalized
      cases normalized
      refine ⟨?_, ups, isPrefix⟩
      rw [← Bool.not_eq_true]
      exact fun root => rooted (rootText root) isPrefix
    · rw [slash] at normalized
      cases normalized
      refine ⟨?_, ups, ?_⟩
      · rw [← Bool.not_eq_true]
        intro root
        refine rooted ?_ isPrefix
        rw [head?_append, rootText root]
        rfl
      · rcases prefix_concat_iff.mp isPrefix with rfl | inside
        · exact absurd (getLast?_concat) last
        · exact inside
  · rintro ⟨relative, ups, isPrefix⟩
    rcases normalize_cases candidate with ⟨-, climbs⟩ | ⟨-, plain | ⟨-, slash⟩⟩
    · have above := climbs ((location_root candidate).symm.trans relative)
      omega
    · exact ⟨_, plain, isPrefix⟩
    · exact ⟨_, slash, isPrefix.trans (prefix_append _ _)⟩

/-- A path that settles gives every spelling of a location the same answer. -/
theorem Settles.sameAnswer {scope : List Char} (settles : Settles scope)
    {candidate candidate' : List Char} (same : SameLocation candidate candidate') :
    rulePathPrefixMatches scope candidate = rulePathPrefixMatches scope candidate' := by
  obtain ⟨parent, climbs | ⟨text, resolved, relative, nonempty, last⟩⟩ := settles
  · rw [matches_of_hasParent parent, matches_of_hasParent parent, climbs]
  · have first : text.head? ≠ some '/' := by
      have ends := relative_text_ends relative
      rcases normalize_cases scope with ⟨none, -⟩ | ⟨-, plain | ⟨-, slash⟩⟩
      · rw [none] at resolved
        cases resolved
      · rw [plain] at resolved
        cases resolved
        exact ends.1
      · rw [slash] at resolved
        cases resolved
        exact absurd getLast?_concat last
    have answer : ∀ candidate, rulePathPrefixMatches scope candidate = true ↔
        (location candidate).root = false ∧ (location candidate).ups = 0 ∧
          text <+: (location candidate).text := by
      intro candidate
      rw [← normalized_matches_iff nonempty first last, matches_of_hasParent parent, resolved]
      cases normalize candidate with
      | none => simp
      | some => simp [ isPrefixOf_iff_prefix]
    rw [Bool.eq_iff_iff, answer, answer, show location candidate = location candidate' from same]

/-! ## Two spellings that other paths tell apart -/

section Counterparts

variable {scope : List Char}

theorem sameLocation_of_pieces {value' : List Char} (rooted : isRooted value = isRooted value')
    (same : pieces value = pieces value') : SameLocation value value' := by
  rw [SameLocation, location_eq, location_eq, rooted, same]

theorem hasParent_of_pieces {value' : List Char} (same : pieces value = pieces value') :
    hasParent value = hasParent value' := by
  rw [Bool.eq_iff_iff, hasParent_iff, hasParent_iff, same]

/-- The same path from the root, climbing above the root first. -/
def climbed (value : List Char) : List Char := ['/', '.', '.'] ++ '/' :: value

theorem pieces_climbed (value : List Char) :
    pieces (climbed value) = .parentDir :: pieces value := by
  rfl

theorem sameLocation_climbed (rooted : isRooted scope = true) :
    SameLocation scope (climbed scope) := by
  rw [SameLocation, location_eq, location_eq, pieces_climbed, rooted]
  rfl

theorem climbed_matches_nothing (scope candidate : List Char) :
    rulePathPrefixMatches scope (climbed candidate) = false := by
  have parent : hasParent (climbed candidate) = true := by
    rw [hasParent_iff, pieces_climbed]
    exact mem_cons_self
  have nothing : normalize (climbed candidate) = none := by
    unfold normalize
    rfl
  rw [rulePathPrefixMatches, if_neg (by simp [parent]), nothing]
  cases normalize scope <;> rfl

/-- A path that does not climb above its start matches itself. -/
theorem matches_self (starts : hasParent scope = false ∨ normalize scope ≠ none) :
    rulePathPrefixMatches scope scope = true := by
  unfold rulePathPrefixMatches
  split
  · exact isPrefixOf_iff_prefix.mpr (prefix_refl scope)
  · next parents =>
      cases resolved : normalize scope with
      | none =>
        rcases starts with plain | climbs
        · exact absurd ⟨plain, plain⟩ parents
        · exact absurd resolved climbs
      | some text => exact isPrefixOf_iff_prefix.mpr (prefix_refl text)

theorem not_matches_of_shorter {candidate : List Char} (plain : hasParent scope = false)
    (same : pieces candidate = pieces scope) (shorter : candidate.length < scope.length) :
    rulePathPrefixMatches scope candidate = false := by
  rw [rulePathPrefixMatches, if_pos ⟨plain, (hasParent_of_pieces same).trans plain⟩,
    ← Bool.not_eq_true, isPrefixOf_iff_prefix]
  intro isPrefix
  have le := isPrefix.length_le
  omega

/-- A relative path without `..` has a spelling that does not begin like it. -/
theorem exists_other_spelling (plain : hasParent scope = false) (relative : isRooted scope = false)
    (nonempty : scope ≠ []) :
    ∃ candidate, SameLocation scope candidate ∧ rulePathPrefixMatches scope candidate = false := by
  have dotted : ∀ rest, pieces ('.' :: '/' :: rest) = pieces rest := fun rest =>
    pieces_append_slash ['.'] rest
  -- a `.` in front, unless the path begins with one: then one less
  have inFront : (scope.isPrefixOf ('.' :: '/' :: scope) = false) →
      ∃ candidate, SameLocation scope candidate ∧
        rulePathPrefixMatches scope candidate = false := by
    intro differs
    refine ⟨'.' :: '/' :: scope, sameLocation_of_pieces relative (dotted scope).symm, ?_⟩
    rwa [rulePathPrefixMatches, if_pos ⟨plain, (hasParent_of_pieces (dotted scope)).trans plain⟩]
  obtain ⟨c, rest, rfl⟩ := exists_cons_of_ne_nil nonempty
  by_cases dot : c = '.'
  · subst dot
    cases rest with
    | nil => exact ⟨[], by decide, by decide⟩
    | cons d rest =>
      by_cases slash : d = '/'
      · subst slash
        cases climbs : isRooted rest with
        | false =>
          exact ⟨rest, sameLocation_of_pieces climbs.symm (dotted rest),
            not_matches_of_shorter plain (dotted rest).symm (by simp only [length_cons]; omega)⟩
        | true =>
          obtain ⟨more, rfl⟩ : ∃ more, rest = '/' :: more := by
            cases rest with
            | nil => cases climbs
            | cons e more =>
              refine ⟨more, ?_⟩
              rw [show e = '/' by simpa [isRooted] using climbs]
          have same : pieces ('.' :: '/' :: '/' :: more) = pieces ('.' :: '/' :: more) := by
            exact pieces_append_slash [] more
          exact ⟨'.' :: '/' :: more, sameLocation_of_pieces rfl same,
            not_matches_of_shorter plain same.symm (Nat.lt_succ_self _)⟩
      · exact inFront (by simp [isPrefixOf, slash])
  · exact inFront (by simp [isPrefixOf, dot])

/-- A resolved relative path with a separator at the end tells a directory from the
directory with a separator. -/
theorem exists_plain_spelling {text : List Char} (resolved : normalize scope = some text)
    (parent : hasParent scope = true) (relative : isRooted scope = false)
    (last : text.getLast? = some '/') :
    ∃ candidate, SameLocation scope candidate ∧ rulePathPrefixMatches scope candidate = false := by
  have ends := relative_text_ends relative
  rcases normalize_cases scope with ⟨none, -⟩ | ⟨ups, plain | ⟨slash, separated⟩⟩
  · rw [none] at resolved
    cases resolved
  · rw [plain] at resolved
    cases resolved
    exact absurd last ends.2
  · obtain ⟨front, rfl⟩ : ∃ front, scope = front ++ ['/'] := by
      obtain ⟨front, split⟩ := getLast?_eq_some_iff.mp slash
      exact ⟨front, split⟩
    have same : pieces (front ++ ['/', '.']) = pieces (front ++ ['/']) := by
      rw [pieces_append_slash, pieces_append_slash]
      rfl
    have root : isRooted (front ++ ['/', '.']) = isRooted (front ++ ['/']) := by
      cases front <;> rfl
    have located : SameLocation (front ++ ['/']) (front ++ ['/', '.']) :=
      sameLocation_of_pieces root.symm same.symm
    refine ⟨front ++ ['/', '.'], located, ?_⟩
    rw [resolved] at separated
    cases separated
    rw [matches_of_hasParent parent, resolved]
    have dotted : (front ++ ['/', '.']).getLast? ≠ some '/' := by
      rw [append_cons, getLast?_concat]
      decide
    rcases normalize_cases (front ++ ['/', '.']) with ⟨none, -⟩ | ⟨-, plain | ⟨slash, -⟩⟩
    · rw [none]
    · rw [plain, ← show location (front ++ ['/']) = location (front ++ ['/', '.']) from located]
      rw [← Bool.not_eq_true, isPrefixOf_iff_prefix]
      intro isPrefix
      have le := isPrefix.length_le
      simp only [length_append, length_cons, length_nil] at le
      omega
    · exact absurd slash dotted

/-- Every path that does not settle tells two spellings of a location apart. -/
theorem exists_told_apart (open_ : ¬ Settles scope) :
    ∃ candidate candidate', SameLocation candidate candidate' ∧
      rulePathPrefixMatches scope candidate = true ∧
      rulePathPrefixMatches scope candidate' = false := by
  cases parent : hasParent scope with
  | false =>
    have self := matches_self (.inl parent)
    cases rooted : isRooted scope with
    | true =>
      exact ⟨scope, climbed scope, sameLocation_climbed rooted, self, climbed_matches_nothing _ _⟩
    | false =>
      by_cases empty : scope = []
      · subst empty
        exact ⟨['/'], climbed ['/'], sameLocation_climbed rfl, by decide,
          climbed_matches_nothing _ _⟩
      · obtain ⟨candidate, same, differs⟩ := exists_other_spelling parent rooted empty
        exact ⟨scope, candidate, same, self, differs⟩
  | true =>
    cases resolved : normalize scope with
    | none => exact absurd ⟨parent, .inl resolved⟩ open_
    | some text =>
      have self : rulePathPrefixMatches scope scope = true :=
        matches_self (.inr (by rw [resolved]; exact Option.some_ne_none _))
      cases rooted : isRooted scope with
      | true =>
        exact ⟨scope, climbed scope, sameLocation_climbed rooted, self, climbed_matches_nothing _ _⟩
      | false =>
        by_cases empty : text = []
        · subst empty
          refine ⟨['/'], climbed ['/'], sameLocation_climbed rfl, ?_, climbed_matches_nothing _ _⟩
          rw [matches_of_hasParent parent, resolved]
          rfl
        · by_cases last : text.getLast? = some '/'
          · obtain ⟨candidate, same, differs⟩ :=
              exists_plain_spelling resolved parent rooted last
            exact ⟨scope, candidate, same, self, differs⟩
          · exact absurd ⟨parent, .inr ⟨text, resolved, rooted, empty, last⟩⟩ open_

end Counterparts

/-! ## Documents -/

/-- The facts of an operation on a path. -/
def OperationFacts.at (facts : OperationFacts) (path : String) : OperationFacts :=
  { facts with path := some path }

/-- The document that denies what lies under a path. -/
def denying (scope : String) : PolicyDocument where
  rules :=
    [{ id := "deny-path"
       decision := .deny
       priority := 0
       capability := "*"
       whenElevated := none
       whenKind := none
       pathPrefix := some scope
       programEquals := none
       whenTag := none
       description := none }]

theorem evaluate_denying (scope path : String) (facts : OperationFacts) :
    (evaluate (denying scope) (facts.at path)).decision =
      if rulePathPrefixMatches scope.toList path.toList then .deny else .allow := by
  have condition : ((denying scope).rules.filter fun rule => rule.matches (facts.at path)) =
      if rulePathPrefixMatches scope.toList path.toList then (denying scope).rules else [] := by
    cases answer : rulePathPrefixMatches scope.toList path.toList <;>
      simp [denying, PolicyRule.matches, OperationFacts.at, answer, capabilityMatch]
  unfold evaluate
  rw [condition]
  cases rulePathPrefixMatches scope.toList path.toList <;> rfl

/-- **Rules do not depend on the spelling of a path exactly when their paths settle.**
The same paths are the ones for which no document with such rules decides two spellings of
one location differently. -/
theorem spelling_independent_iff (scopes : Set String) :
    ((∀ scope ∈ scopes, ∀ candidate candidate' : String,
        SameLocation candidate.toList candidate'.toList →
          rulePathPrefixMatches scope.toList candidate.toList =
            rulePathPrefixMatches scope.toList candidate'.toList) ↔
      ∀ scope ∈ scopes, Settles scope.toList) ∧
    ((∀ doc : PolicyDocument, (∀ rule ∈ doc.rules, ∀ scope ∈ rule.pathPrefix, scope ∈ scopes) →
        ∀ (facts : OperationFacts) (candidate candidate' : String),
          SameLocation candidate.toList candidate'.toList →
            (evaluate doc (facts.at candidate)).decision =
              (evaluate doc (facts.at candidate')).decision) ↔
      ∀ scope ∈ scopes, Settles scope.toList) := by
  have apart : ∀ scope : String, ¬ Settles scope.toList → ∃ candidate candidate' : String,
      SameLocation candidate.toList candidate'.toList ∧
      rulePathPrefixMatches scope.toList candidate.toList = true ∧
      rulePathPrefixMatches scope.toList candidate'.toList = false := by
    intro scope open_
    obtain ⟨candidate, candidate', same, yes, no⟩ := exists_told_apart open_
    refine ⟨String.ofList candidate, String.ofList candidate', ?_⟩
    rw [String.toList_ofList, String.toList_ofList]
    exact ⟨same, yes, no⟩
  refine ⟨⟨fun alike scope member => ?_, fun settles scope member candidate candidate' same =>
    (settles scope member).sameAnswer same⟩, ⟨fun alike scope member => ?_,
    fun settles doc limited facts candidate candidate' same => ?_⟩⟩
  · by_contra open_
    obtain ⟨candidate, candidate', same, yes, no⟩ := apart scope open_
    have equal := alike scope member candidate candidate' same
    rw [yes, no] at equal
    cases equal
  · by_contra open_
    obtain ⟨candidate, candidate', same, yes, no⟩ := apart scope open_
    have equal := alike (denying scope) (by
      rintro rule there used found
      obtain rfl := mem_singleton.mp there
      cases found
      exact member) ⟨"", "", none, none, false, [], none, none⟩ candidate candidate' same
    rw [evaluate_denying, evaluate_denying, yes, no] at equal
    cases equal
  · -- a rule whose path settles does not look at the spelling
    have alike : ∀ rule ∈ doc.rules,
        rule.matches (facts.at candidate) = rule.matches (facts.at candidate') := by
      intro rule there
      unfold PolicyRule.matches OperationFacts.at
      cases given : rule.pathPrefix with
      | none => rfl
      | some scope =>
        simp only [Option.all_some, Option.any_some]
        rw [(settles scope (limited rule there scope given)).sameAnswer same]
    rw [evaluate, evaluate, List.filter_congr alike]

/-- A rule that denies `secrets` stops `secrets/key` but not `./secrets/key`. -/
theorem denied_path_respelled : SameLocation "secrets/key".toList "./secrets/key".toList ∧
      (evaluate (denying "secrets")
        ((⟨"filesystem.read", "file", none, none, false, [], none, none⟩ : OperationFacts).at
          "secrets/key")).decision = .deny ∧
      (evaluate (denying "secrets")
        ((⟨"filesystem.read", "file", none, none, false, [], none, none⟩ : OperationFacts).at
          "./secrets/key")).decision = .allow := by
  decide

end OwnMesh.Policy
