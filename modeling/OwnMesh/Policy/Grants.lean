import OwnMesh.Ipc.Value
import OwnMesh.Policy.Document

/-!
# Grants

Two kinds of stored grants lift a decision to ask.  A temporary grant repeats one approved
operation: never a command, and for files only inside the approved path of the approved
workspace.  A bounded grant lists tools it may be used with on one device, for a limited
number of uses.

`TemporaryCovers` and `BoundedCovers` say what a grant is for; the matching functions only
accept what they allow, and **grants lift nothing but a decision to ask**
(`grants_lift_only_ask`).
-/

namespace OwnMesh.Policy

open Ipc (trim)

/-! ## Stored grants -/

structure TemporaryGrant where
  (id capability principalId : String)
  expiresUnix : Int
  (pathPrefix workspaceId : Option String)

structure BoundedToolGrant where
  (id principalId deviceId : String)
  tools : List String
  workspaceId : Option String
  expiresUnix : Int
  maxUses : Option Nat
  uses : Nat

inductive StoredGrant where
  | boundedTool (grant : BoundedToolGrant)
  | temporary (grant : TemporaryGrant)

/-! ## Tools -/

/-- The tools a bounded grant may list. -/
inductive BoundedTool where
  | commandRun
  | commandShell
  | fsList
  | fsStat
  | fsRead
  | fsWrite
  | fsDelete
  | logsQuery
  | gitStatus
  | gitDiff
deriving DecidableEq, Repr

def BoundedTool.name : BoundedTool → String
  | commandRun => "command_run"
  | commandShell => "command_shell"
  | fsList => "fs_list"
  | fsStat => "fs_stat"
  | fsRead => "fs_read"
  | fsWrite => "fs_write"
  | fsDelete => "fs_delete"
  | logsQuery => "logs_query"
  | gitStatus => "git_status"
  | gitDiff => "git_diff"

def boundedToolGrantTools : List BoundedTool :=
  [.commandRun, .commandShell, .fsList, .fsStat, .fsRead, .fsWrite, .fsDelete, .logsQuery,
    .gitStatus, .gitDiff]

/-- A text without a given beginning, if it has that beginning. -/
def stripBeginning (beginning text : String) : String :=
  if startsWith text beginning then
    String.ofList (text.toList.drop beginning.toList.length)
  else text

def asciiLower (text : String) : String := String.ofList (text.toList.map Char.toLower)

/-- The tool a name stands for, also under its older names. -/
def canonicalBoundedTool (raw : String) : Option BoundedTool :=
  let trimmed := trim raw
  if trimmed = "" ∨ '*' ∈ trimmed.toList ∨ '.' ∈ trimmed.toList then none
  else
    let stripped := String.ofList ((asciiLower (stripBeginning "ownmesh_" trimmed)).toList.map
      fun c => if c = '-' then '_' else c)
    let canonical :=
      if stripped = "run_command" then "command_run"
      else if stripped = "run_shell" then "command_shell"
      else if stripped = "list_files" then "fs_list"
      else if stripped = "read_file" then "fs_read"
      else if stripped = "write_file" then "fs_write"
      else if stripped = "delete_file" then "fs_delete"
      else stripped
    boundedToolGrantTools.find? fun tool => tool.name == canonical

def maxBoundedToolGrantTools : Nat := 8
def maxBoundedToolGrantUses : Nat := 10000

/-- The tools of a list, each known and listed once. -/
def validateTools : List BoundedTool → List String → Except String Unit
  | _, [] => .ok ()
  | seen, tool :: rest =>
    match canonicalBoundedTool tool with
    | none => .error s!"bounded tool grant lists unknown or wildcard tool {tool}"
    | some canonical =>
      if canonical ∈ seen then
        .error s!"bounded tool grant lists duplicate tool {canonical.name}"
      else validateTools (canonical :: seen) rest

def BoundedToolGrant.validate (grant : BoundedToolGrant) : Except String Unit := do
  if trim grant.id = "" ∨ 128 < grant.id.utf8ByteSize then
    throw "bounded tool grant id is invalid"
  if trim grant.principalId = "" ∨ 512 < grant.principalId.utf8ByteSize then
    throw "bounded tool grant principal is invalid"
  if trim grant.deviceId = "" ∨ 256 < grant.deviceId.utf8ByteSize then
    throw "bounded tool grant device_id is invalid"
  if grant.tools = [] ∨ maxBoundedToolGrantTools < grant.tools.length then
    throw "bounded tool grant must list 1-8 canonical tools"
  validateTools [] grant.tools
  if grant.workspaceId.any fun workspace =>
      trim workspace = "" ∨ 128 < workspace.utf8ByteSize then
    throw "bounded tool grant workspace_id is invalid"
  if grant.expiresUnix ≤ 0 then throw "bounded tool grant expiry is invalid"
  if grant.maxUses.any fun most => most = 0 ∨ maxBoundedToolGrantUses < most then
    throw "bounded tool grant max_uses is invalid"
  if grant.maxUses.any fun most => most < grant.uses then
    throw "bounded tool grant uses exceed max_uses"

/-! ## Matching -/

def temporaryGrantRequiresPathScope (capability : String) : Bool :=
  capability == "filesystem" || startsWith capability "filesystem."

def temporaryGrantRequiresOperationBinding (capability : String) : Bool :=
  capability == "command.run" || startsWith capability "command."

/-- Whether a kind of command is a raw shell. -/
def temporaryGrantForbidsKind (kind : String) : Bool :=
  let lower := asciiLower (trim kind)
  lower == "raw_shell" || lower == "raw"

def temporaryGrantMatches (grant : TemporaryGrant) (facts : OperationFacts) (principalId : String)
    (nowUnix : Int) : Bool :=
  if grant.principalId ≠ principalId ∨ grant.expiresUnix ≤ nowUnix then false
  else if capabilityMatch grant.capability facts.capability = false then false
  else if temporaryGrantRequiresOperationBinding grant.capability = true ∨
      temporaryGrantRequiresOperationBinding facts.capability = true then false
  else if temporaryGrantRequiresPathScope grant.capability = true ∨
      temporaryGrantRequiresPathScope facts.capability = true then
    match grant.pathPrefix, facts.path with
    | some scope, some path =>
      if pathScopeContains scope.toList path.toList = false then false
      else
        match grant.workspaceId, facts.workspaceId with
        | some grantWorkspace, some factsWorkspace => factsWorkspace == grantWorkspace
        | _, _ => false
    | _, _ => false
  else
    match grant.pathPrefix with
    | none => true
    | some scope =>
      facts.path.any fun path => pathScopeContains scope.toList path.toList

/-- The tool of an operation: the one it names, if that agrees with its capability. -/
def factsBoundedTool (facts : OperationFacts) : Option BoundedTool := do
  let tool ← facts.tool.bind canonicalBoundedTool
  let agrees := match tool with
    | .commandRun =>
      facts.capability == "command.run" && !temporaryGrantForbidsKind facts.kind
    | .commandShell =>
      facts.capability == "command.run" && temporaryGrantForbidsKind facts.kind
    | .fsList | .fsStat | .fsRead | .gitStatus | .gitDiff => facts.capability == "filesystem.read"
    | .fsWrite | .fsDelete => facts.capability == "filesystem.write"
    | .logsQuery => facts.capability == "logs.read"
  if agrees then some tool else none

/-- A text without surrounding white space, unless nothing is left. -/
def trimmedNonempty (text : Option String) : Option String :=
  (text.map trim).filter fun value => value ≠ ""

def boundedToolGrantMatches (grant : BoundedToolGrant) (facts : OperationFacts)
    (principalId : String) (nowUnix : Int) (deviceId : Option String) : Bool :=
  match grant.validate with
  | .error _ => false
  | .ok _ =>
    if grant.principalId ≠ principalId ∨ grant.expiresUnix ≤ nowUnix then false
    else
      match trimmedNonempty deviceId with
      | none => false
      | some activeDevice =>
        if trim grant.deviceId ≠ activeDevice then false
        else if grant.maxUses.any fun most => most ≤ grant.uses then false
        else if grant.workspaceId.any fun workspace =>
            trimmedNonempty facts.workspaceId ≠ some workspace then false
        else
          match factsBoundedTool facts with
          | none => false
          | some tool => grant.tools.any fun listed => canonicalBoundedTool listed == some tool

/-! ## Decisions with grants -/

def temporaryVerdict (facts : OperationFacts) (principalId : String) (nowUnix : Int) :
    StoredGrant → Option PolicyVerdict
  | .temporary grant =>
    if temporaryGrantMatches grant facts principalId nowUnix then
      some
        { decision := .allow
          matchedRuleId := some grant.id
          reason := s!"temporary grant {grant.id}" }
    else none
  | .boundedTool _ => none

def boundedVerdict (facts : OperationFacts) (principalId : String) (nowUnix : Int)
    (deviceId : Option String) : StoredGrant → Option PolicyVerdict
  | .boundedTool grant =>
    if boundedToolGrantMatches grant facts principalId nowUnix deviceId then
      some
        { decision := .allow
          matchedRuleId := some grant.id
          reason := s!"bounded tool grant {grant.id}" }
    else none
  | .temporary _ => none

/-- Temporary grants are looked at for a decision to allow too. -/
def evaluateWithGrants (doc : PolicyDocument) (facts : OperationFacts) (grants : List StoredGrant)
    (nowUnix : Int) (principalId : String) (deviceId : Option String) : PolicyVerdict :=
  let verdict := evaluate doc facts
  if verdict.decision = .deny then verdict
  else
    match grants.findSome? (temporaryVerdict facts principalId nowUnix) with
    | some lifted => lifted
    | none =>
      if verdict.decision ≠ .ask then verdict
      else (grants.findSome? (boundedVerdict facts principalId nowUnix deviceId)).getD verdict

/-! ## What a grant is for -/

/-- The scope is an ancestor of the path, or the path itself, component by component. -/
def IsAncestor (scope path : String) : Prop :=
  ∃ inside below, pathComponents scope.toList = some inside ∧
    pathComponents path.toList = some (inside ++ below)

structure TemporaryCovers (grant : TemporaryGrant) (facts : OperationFacts) (principalId : String)
    (nowUnix : Int) : Prop where
  principal : grant.principalId = principalId
  unexpired : nowUnix < grant.expiresUnix
  capability : capabilityMatch grant.capability facts.capability = true
  notCommand : startsWith facts.capability "command." = false
  /-- Files are covered in one workspace, below the approved path. -/
  filesystem : temporaryGrantRequiresPathScope facts.capability = true →
    ∃ scope path workspace, grant.pathPrefix = some scope ∧ facts.path = some path ∧
      grant.workspaceId = some workspace ∧ facts.workspaceId = some workspace ∧
      IsAncestor scope path
  inScope : ∀ scope ∈ grant.pathPrefix, ∃ path ∈ facts.path, IsAncestor scope path

structure BoundedCovers (grant : BoundedToolGrant) (facts : OperationFacts) (principalId : String)
    (nowUnix : Int) (deviceId : Option String) : Prop where
  principal : grant.principalId = principalId
  unexpired : nowUnix < grant.expiresUnix
  device : ∃ active ∈ deviceId, trim active ≠ "" ∧ trim grant.deviceId = trim active
  usesLeft : ∀ most ∈ grant.maxUses, grant.uses < most
  workspace : ∀ workspace ∈ grant.workspaceId, ∃ given ∈ facts.workspaceId, trim given = workspace
  tool : ∃ tool, factsBoundedTool facts = some tool ∧
    ∃ listed ∈ grant.tools, canonicalBoundedTool listed = some tool

/-- The grant covers the operation. -/
def StoredGrant.Covers (grant : StoredGrant) (facts : OperationFacts) (principalId : String)
    (nowUnix : Int) (deviceId : Option String) : Prop :=
  match grant with
  | .temporary grant => TemporaryCovers grant facts principalId nowUnix
  | .boundedTool grant => BoundedCovers grant facts principalId nowUnix deviceId

/-! ## The matching functions accept only what grants are for -/

section Matching

variable {facts : OperationFacts} {principalId : String} {nowUnix : Int} {deviceId : Option String}

theorem isPrefix_of_zip {inside all : List Component} (short : inside.length ≤ all.length)
    (equal : ((inside.zip all).all fun pair => pair.1 == pair.2) = true) : inside <+: all := by
  induction inside generalizing all with
  | nil => exact List.nil_prefix
  | cons part inside ih =>
    cases all with
    | nil => exact absurd short (Nat.not_succ_le_zero _)
    | cons =>
      rw [List.zip_cons_cons, List.all_cons, Bool.and_eq_true, beq_iff_eq] at equal
      obtain ⟨same, rest⟩ := equal
      exact List.cons_prefix_cons.mpr ⟨same, ih (Nat.le_of_succ_le_succ short) rest⟩

theorem isAncestor_of_contains {scope path : String}
    (contains : pathScopeContains scope.toList path.toList = true) : IsAncestor scope path := by
  unfold pathScopeContains at contains
  split at contains
  · next inside all given found =>
      rw [Bool.and_eq_true, decide_eq_true_eq] at contains
      obtain ⟨below, split⟩ := isPrefix_of_zip contains.1 contains.2
      exact ⟨inside, below, given, by rw [found, split]⟩
  · cases contains

example : pathScopeContains "proj".toList "./proj//src".toList = true := by decide

example : pathScopeContains "proj".toList "proj-secret".toList = false := by decide

theorem temporaryCovers_of_matches {grant : TemporaryGrant}
    (accepted : temporaryGrantMatches grant facts principalId nowUnix = true) :
    TemporaryCovers grant facts principalId nowUnix := by
  unfold temporaryGrantMatches at accepted
  split at accepted
  · cases accepted
  next current =>
  split at accepted
  · cases accepted
  next capability =>
  split at accepted
  · cases accepted
  next unbound =>
  have principal : grant.principalId = principalId := not_not.mp fun other => current (.inl other)
  have unexpired : nowUnix < grant.expiresUnix := not_le.mp fun past => current (.inr past)
  have matched : capabilityMatch grant.capability facts.capability = true := by
    simpa using capability
  have notCommand : startsWith facts.capability "command." = false := by
    rw [← Bool.not_eq_true]
    exact fun command => unbound (.inr (by
      rw [temporaryGrantRequiresOperationBinding, command, Bool.or_true]))
  split at accepted
  · -- a path scope is required: it must be there, and the workspaces must agree
    split at accepted
    · next scope path given asked =>
        split at accepted
        · cases accepted
        next contained =>
        have ancestor : IsAncestor scope path :=
          isAncestor_of_contains (Bool.not_eq_false _ ▸ contained)
        split at accepted
        · next grantWorkspace factsWorkspace granted used =>
            obtain rfl := eq_of_beq accepted
            refine ⟨principal, unexpired, matched, notCommand, fun _ =>
              ⟨scope, path, factsWorkspace, given, asked, granted, used, ancestor⟩, ?_⟩
            intro scope' given'
            rw [given] at given'
            cases given'
            exact ⟨path, asked, ancestor⟩
        · cases accepted
    · cases accepted
  · next unscoped =>
      refine ⟨principal, unexpired, matched, notCommand, fun required =>
        absurd (.inr required) unscoped, fun scope given => ?_⟩
      rw [given] at accepted
      cases asked : facts.path with rw [asked] at accepted
      | none =>
        cases accepted
      | some path =>
        exact ⟨path, rfl, isAncestor_of_contains accepted⟩

theorem boundedCovers_of_matches {grant : BoundedToolGrant}
    (accepted : boundedToolGrantMatches grant facts principalId nowUnix deviceId = true) :
    BoundedCovers grant facts principalId nowUnix deviceId := by
  unfold boundedToolGrantMatches at accepted
  split at accepted
  · cases accepted
  split at accepted
  · cases accepted
  next current =>
  split at accepted
  · cases accepted
  next activeDevice active =>
  split at accepted
  · cases accepted
  next device =>
  split at accepted
  · cases accepted
  next uses =>
  split at accepted
  · cases accepted
  next workspace =>
  split at accepted
  · cases accepted
  next tool named =>
  refine ⟨not_not.mp fun other => current (.inl other),
    not_le.mp fun past => current (.inr past), ?_, ?_, ?_, tool, named, ?_⟩
  · obtain ⟨there, nonempty⟩ := Option.filter_eq_some_iff.mp active
    obtain ⟨given, found, rfl⟩ := Option.map_eq_some_iff.mp there
    exact ⟨given, found, by simpa using nonempty, not_not.mp device⟩
  · intro most limited
    rw [limited] at uses
    simpa using uses
  · intro granted limited
    rw [limited] at workspace
    have same : trimmedNonempty facts.workspaceId = some granted := by simpa using workspace
    obtain ⟨there, -⟩ := Option.filter_eq_some_iff.mp same
    obtain ⟨given, found, trimmed⟩ := Option.map_eq_some_iff.mp there
    exact ⟨given, found, trimmed⟩
  · obtain ⟨listed, member, same⟩ := List.any_eq_true.mp accepted
    exact ⟨listed, member, eq_of_beq same⟩

/-- A grant that decides covers the operation. -/
theorem covers_of_temporaryVerdict (deviceId : Option String) {grant : StoredGrant}
    {verdict : PolicyVerdict}
    (lifted : temporaryVerdict facts principalId nowUnix grant = some verdict) :
    verdict.decision = .allow ∧ grant.Covers facts principalId nowUnix deviceId := by
  cases grant with
  | boundedTool => cases lifted
  | temporary =>
    rw [temporaryVerdict] at lifted
    split at lifted
    · next accepted =>
        cases lifted
        exact ⟨rfl, temporaryCovers_of_matches accepted⟩
    · cases lifted

theorem covers_of_boundedVerdict {grant : StoredGrant} {verdict : PolicyVerdict}
    (lifted : boundedVerdict facts principalId nowUnix deviceId grant = some verdict) :
    verdict.decision = .allow ∧ grant.Covers facts principalId nowUnix deviceId := by
  cases grant with
  | temporary => cases lifted
  | boundedTool =>
    rw [boundedVerdict] at lifted
    split at lifted
    · next accepted =>
        cases lifted
        exact ⟨rfl, boundedCovers_of_matches accepted⟩
    · cases lifted

end Matching

/-- **Grants lift nothing but a decision to ask.**  What the document denies stays
denied, with its reason; what it allows stays allowed; and what it asks for is allowed only
by a grant in the list that covers the operation. -/
theorem grants_lift_only_ask (doc : PolicyDocument) (facts : OperationFacts)
    (grants : List StoredGrant) (nowUnix : Int) (principalId : String) (deviceId : Option String) :
    ((evaluate doc facts).decision = .deny →
        evaluateWithGrants doc facts grants nowUnix principalId deviceId = evaluate doc facts) ∧
      ((evaluate doc facts).decision = .allow →
        (evaluateWithGrants doc facts grants nowUnix principalId deviceId).decision = .allow) ∧
      ((evaluate doc facts).decision = .ask →
        evaluateWithGrants doc facts grants nowUnix principalId deviceId = evaluate doc facts ∨
          (evaluateWithGrants doc facts grants nowUnix principalId deviceId).decision = .allow ∧
            ∃ grant ∈ grants, grant.Covers facts principalId nowUnix deviceId) := by
  unfold evaluateWithGrants
  refine ⟨fun denied => if_pos denied, fun allowed => ?_, fun asked => ?_⟩
  · rw [if_neg (by rw [allowed]; decide)]
    split
    · next lifted found =>
        obtain ⟨grant, -, deciding⟩ := List.exists_of_findSome?_eq_some found
        exact (covers_of_temporaryVerdict deviceId deciding).1
    · rw [if_pos (by rw [allowed]; decide)]
      exact allowed
  · rw [if_neg (by rw [asked]; decide)]
    split
    · next lifted found =>
        obtain ⟨grant, member, deciding⟩ := List.exists_of_findSome?_eq_some found
        obtain ⟨allows, covers⟩ := covers_of_temporaryVerdict deviceId deciding
        exact .inr ⟨allows, grant, member, covers⟩
    · rw [if_neg (not_not.mpr asked)]
      cases found : grants.findSome? (boundedVerdict facts principalId nowUnix deviceId) with
      | none => exact .inl rfl
      | some =>
        obtain ⟨grant, member, deciding⟩ := List.exists_of_findSome?_eq_some found
        obtain ⟨allows, covers⟩ := covers_of_boundedVerdict deciding
        exact .inr ⟨allows, grant, member, covers⟩

end OwnMesh.Policy
