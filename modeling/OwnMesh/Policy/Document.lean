import OwnMesh.Policy.Path

/-!
# Policy documents

A document is a list of rules.  The rules that match the facts of an operation are
sorted, the more restrictive decision first and then the higher priority; the first one
decides.  An operation that no rule matches is allowed.
-/

namespace OwnMesh.Policy

/-- The decisions, the least restrictive first. -/
inductive Decision where
  | allow
  | ask
  | deny
deriving DecidableEq, Repr

/-- How restrictive a decision is. -/
def Decision.rank : Decision → Nat
  | allow => 0
  | ask => 1
  | deny => 2

/-- The facts of an operation that rules and grants look at. -/
structure OperationFacts where
  (capability kind : String)
  (path program : Option String)
  elevated : Bool
  tags : List String
  (workspaceId tool : Option String)

structure PolicyRule where
  id : String
  decision : Decision
  priority : Int
  capability : String
  whenElevated : Option Bool
  (whenKind pathPrefix programEquals whenTag description : Option String)

/-- Whether a text begins with another. -/
def startsWith (text beginning : String) : Bool := beginning.toList.isPrefixOf text.toList

/-- A text without a given ending. -/
def stripEnding (ending text : String) : Option String :=
  if ending.toList.isSuffixOf text.toList then
    some (String.ofList (text.toList.take (text.toList.length - ending.toList.length)))
  else none

def capabilityMatch (pattern capability : String) : Bool :=
  if pattern = "*" then true
  else
    match stripEnding ".*" pattern with
    | some family => capability == family || startsWith capability (family ++ ".")
    | none => pattern == capability

def PolicyRule.matches (rule : PolicyRule) (facts : OperationFacts) : Bool :=
  capabilityMatch rule.capability facts.capability &&
    (rule.whenElevated.all fun elevated => elevated == facts.elevated) &&
    (rule.whenKind.all fun kind => kind == facts.kind) &&
    (rule.whenTag.all fun tag => facts.tags.contains tag) &&
    (rule.pathPrefix.all fun scope =>
      facts.path.any fun path => rulePathPrefixMatches scope.toList path.toList) &&
    (rule.programEquals.all fun program => facts.program == some program)

structure PolicyDocument where
  rules : List PolicyRule

structure PolicyVerdict where
  decision : Decision
  matchedRuleId : Option String
  reason : String
deriving DecidableEq, Repr

/-- The order in which matching rules are considered. -/
def PolicyRule.before (a b : PolicyRule) : Prop :=
  b.decision.rank < a.decision.rank ∨ a.decision.rank = b.decision.rank ∧ b.priority ≤ a.priority

instance : DecidableRel PolicyRule.before :=
  fun _ _ => inferInstanceAs (Decidable (_ ∨ _))

def evaluate (doc : PolicyDocument) (facts : OperationFacts) : PolicyVerdict :=
  match (doc.rules.filter fun rule => rule.matches facts).insertionSort PolicyRule.before with
  | [] =>
    { decision := .allow
      matchedRuleId := none
      reason := "no matching rule; default allow" }
  | top :: _ =>
    { decision := top.decision
      matchedRuleId := some top.id
      reason := top.description.getD s!"matched rule {top.id}" }

/-! ## The law of decisions -/

variable {doc : PolicyDocument} {facts : OperationFacts}

theorem Decision.rank_inj {a b : Decision} (same : a.rank = b.rank) : a = b := by
  cases a <;> cases b <;> first | rfl | cases same

/-- The head of a stable sort is the first of the smallest elements. -/
theorem insertionSort_head {α : Type} {r : α → α → Prop} [DecidableRel r] [Std.Total r]
    [IsTrans α r] {list rest : List α} {top : α} (sorted : list.insertionSort r = top :: rest) :
    ∃ earlier later, list = earlier ++ top :: later ∧ (∀ a ∈ earlier, ¬ r a top) ∧
      ∀ a ∈ later, r top a := by
  induction list generalizing top rest with
  | nil => cases sorted
  | cons first list ih =>
    rw [List.insertionSort_cons] at sorted
    cases others : list.insertionSort r with
    | nil =>
      obtain rfl := ((List.perm_insertionSort r list).symm.trans (.of_eq others)).eq_nil
      cases sorted
      exact ⟨[], [], rfl, nofun, nofun⟩
    | cons least rest' =>
      obtain ⟨earlier, later, rfl, greater, smaller⟩ := ih others
      rw [others, List.orderedInsert] at sorted
      split at sorted
      case isTrue before =>
        cases sorted
        refine ⟨[], _, rfl, nofun, fun a listed => trans_of r before ?_⟩
        rcases List.mem_append.mp listed with early | late
        · exact (Std.Total.total a least).resolve_left (greater a early)
        · rcases List.mem_cons.mp late with rfl | late
          · exact (Std.Total.total a a).elim id id
          · exact smaller a late
      case isFalse after =>
        cases sorted
        refine ⟨first :: earlier, later, rfl, ?_, smaller⟩
        exact List.forall_mem_cons.mpr ⟨after, greater⟩

instance : Std.Total PolicyRule.before :=
  ⟨fun a b => by unfold PolicyRule.before; omega⟩

instance : IsTrans PolicyRule PolicyRule.before :=
  ⟨fun a b c first second => by unfold PolicyRule.before at *; omega⟩

/-- The rule matches, none that matches is stricter, and it is the first of highest priority
among those that are as strict. -/
def Decides (doc : PolicyDocument) (facts : OperationFacts) (rule : PolicyRule) : Prop :=
  ∃ earlier later, doc.rules = earlier ++ rule :: later ∧ rule.matches facts = true ∧
    (∀ other ∈ doc.rules, other.matches facts = true → other.decision.rank ≤ rule.decision.rank) ∧
    (∀ other ∈ earlier, other.matches facts = true → other.decision = rule.decision →
      other.priority < rule.priority) ∧
    ∀ other ∈ later, other.matches facts = true → other.decision = rule.decision →
      other.priority ≤ rule.priority

theorem evaluate_cases (doc : PolicyDocument) (facts : OperationFacts) :
    (∀ rule ∈ doc.rules, rule.matches facts = false) ∧ (evaluate doc facts).decision = .allow ∧
        (evaluate doc facts).matchedRuleId = none ∨
      ∃ rule, Decides doc facts rule ∧ (evaluate doc facts).decision = rule.decision ∧
        (evaluate doc facts).matchedRuleId = some rule.id := by
  unfold evaluate
  split
  case _ sorted =>
    refine .inl ⟨fun rule listed => ?_, rfl, rfl⟩
    have none_left := (List.perm_insertionSort PolicyRule.before _).symm.trans (.of_eq sorted)
    simpa using List.filter_eq_nil_iff.mp none_left.eq_nil rule listed
  case _ top rest sorted =>
    obtain ⟨early, late, parts, greater, smaller⟩ := insertionSort_head sorted
    obtain ⟨before, after, whole, rfl, rest⟩ := List.filter_eq_append_iff.mp parts
    obtain ⟨skipped, later, rfl, unmatched, matched, rfl⟩ := List.filter_eq_cons_iff.mp rest
    have ahead : ∀ other ∈ before ++ skipped, other.matches facts = true → ¬ other.before top := by
      intro other listed matching
      rcases List.mem_append.mp listed with earlier | passed
      · exact greater other (List.mem_filter.mpr ⟨earlier, matching⟩)
      · exact absurd matching (unmatched other passed)
    have behind : ∀ other ∈ later, other.matches facts = true → top.before other :=
      fun other listed matching => smaller other (List.mem_filter.mpr ⟨listed, matching⟩)
    refine .inr ⟨top, ⟨before ++ skipped, later, by simp [whole], matched, ?_, ?_, ?_⟩, rfl, rfl⟩
    · intro other listed matching
      have placed : other ∈ before ++ skipped ∨ other = top ∨ other ∈ later := by
        simpa [whole, or_assoc] using listed
      unfold PolicyRule.before at ahead behind
      grind
    · intro other listed matching same
      have after := ahead other listed matching
      rw [PolicyRule.before, same] at after
      omega
    · intro other listed matching same
      have before := behind other listed matching
      rw [PolicyRule.before, same] at before
      omega

/-- What the decision is at most. -/
theorem evaluate_rank_le_iff {n : Nat} : (evaluate doc facts).decision.rank ≤ n ↔
    ∀ rule ∈ doc.rules, rule.matches facts = true → rule.decision.rank ≤ n := by
  rcases evaluate_cases doc facts with ⟨unmatched, allows, -⟩ |
    ⟨rule, ⟨_, _, whole, matched, strictest, -⟩, decides, -⟩
  · rw [allows]
    exact iff_of_true (Nat.zero_le n) fun rule listed matched => by simp_all
  · rw [decides]
    refine ⟨fun bound other listed matching => (strictest other listed matching).trans bound, ?_⟩
    exact fun bound => bound rule (by simp [whole]) matched

/-- **The law of decisions.**  The strictest of the matching rules decides, the first of highest
priority is named, and without a matching rule the operation is allowed.  The order of the rules
does not count; one that is added never loosens the decision, and one that allows never changes
it. -/
theorem policy_decision_law (doc : PolicyDocument) (facts : OperationFacts) :
    ((∀ rule ∈ doc.rules, rule.matches facts = false) ∧ (evaluate doc facts).decision = .allow ∧
        (evaluate doc facts).matchedRuleId = none ∨
      ∃ rule, Decides doc facts rule ∧ (evaluate doc facts).decision = rule.decision ∧
        (evaluate doc facts).matchedRuleId = some rule.id) ∧
    (∀ doc' : PolicyDocument, doc'.rules.Perm doc.rules →
      (evaluate doc' facts).decision = (evaluate doc facts).decision) ∧
    ∀ (rule : PolicyRule) (doc' : PolicyDocument), doc'.rules.Perm (rule :: doc.rules) →
      (evaluate doc facts).decision.rank ≤ (evaluate doc' facts).decision.rank ∧
      (rule.decision = .allow →
        (evaluate doc' facts).decision = (evaluate doc facts).decision) := by
  refine ⟨evaluate_cases doc facts, fun doc' perm => ?_, fun rule doc' perm => ⟨?_, ?_⟩⟩
  · refine Decision.rank_inj (eq_of_forall_ge_iff fun n => ?_)
    simp only [evaluate_rank_le_iff, perm.mem_iff]
  · have bound := evaluate_rank_le_iff.mp (le_refl (evaluate doc' facts).decision.rank)
    refine evaluate_rank_le_iff.mpr fun other listed => bound other ?_
    exact perm.mem_iff.mpr (.tail _ listed)
  · intro allows
    have least : rule.decision.rank = 0 := by rw [allows]; rfl
    refine Decision.rank_inj (eq_of_forall_ge_iff fun n => ?_)
    simp [evaluate_rank_le_iff, perm.mem_iff, least]

end OwnMesh.Policy
