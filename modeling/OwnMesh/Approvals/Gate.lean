import OwnMesh.Approvals.Stale

/-!
# The gate of a request, and the grants it uses

A request that is not a replay is judged by the policy and the stored grants.  A grant may
lift a decision to ask; a bounded one is then used once, and the use is written before
anything else happens.  An allowed request becomes work to be run, a request to ask about
becomes a pending record.

The module has the gate, the commands that mint, revoke and clear grants, the load of the
grants at a start, and the steps a daemon takes with all of these and with the decisions on
approvals.  `Gatehouse` adds to the daemon what was minted and which bounded grants lifted
work that was run.
-/

namespace OwnMesh.Approvals

open Foundations Ipc OpJournal Program
open Policy (OperationFacts PolicyDocument StoredGrant TemporaryGrant BoundedToolGrant
  BoundedTool asciiLower evaluateWithGrants temporaryVerdict boundedVerdict canonicalBoundedTool
  maxBoundedToolGrantUses)

/-! ## Requests at the gate -/

/-- What the rest of the daemon says when a request comes in: its policy, and the remote
operation it is about, if there is one. -/
structure GateContext where
  policy : PolicyDocument
  delegateRemoteMcp : Bool
  (activeRemoteOperationId activeRemotePayloadHash : Option String)
  activeRemoteExpiresAtUnix : Option Int
  activeRemoteDeviceId : Option String

structure GatedCall where
  context : GateContext
  facts : OperationFacts
  idempotencyKey : Option String
  request : PendingRequest
  client : String

/-- The tool that a request is matched with against the grants. -/
def pendingRequestTool : PendingRequest → Option String
  | .exec _ body =>
    let kind := asciiLower ((stringAt body "policy_kind").getD "")
    if kind = "raw_shell" ∨ kind = "raw" then some "command_shell" else some "command_run"
  | .fsList _ _ => some "fs_list"
  | .fsStat _ _ => some "fs_stat"
  | .fsRead _ _ => some "fs_read"
  | .fsWrite _ _ => some "fs_write"
  | .fsDelete _ _ => some "fs_delete"
  | .logsQuery _ _ => some "logs_query"
  | .gitStatus _ _ => some "git_status"
  | .gitDiff _ _ => some "git_diff"
  | .systemDiagnose _ _ | .adminPolicyPreset _ _ | .adminPolicyRuleAdd _ _
  | .adminPolicyRuleRemove _ _ | .adminDaemonUnlock _ _ | .adminTokenRevoke _ _
  | .adminApprovalBridge _ | .adminGrantsMint _ _ => none

/-- Requests that may run on a degraded journal. -/
def pendingRequestIsJournalReadOnly : PendingRequest → Bool
  | .fsList _ _ | .fsStat _ _ | .fsRead _ _ | .logsQuery _ _ | .gitStatus _ _ | .gitDiff _ _
  | .systemDiagnose _ _ => true
  | _ => false

/-- The facts of a call; the tool is always that of its request. -/
def GatedCall.boundFacts (call : GatedCall) : OperationFacts :=
  { call.facts with tool := pendingRequestTool call.request }

/-- What the surroundings decide for the gate and the grants. -/
structure GateEnvironment (ω : Type) where
  approvals : Environment ω
  readGrants : ω → Option String × ω
  grantsBytes : List StoredGrant → Nat
  writeLockdown : ω → Option IpcError × ω
  /-- Why a workspace cannot be used, if it cannot. -/
  workspaceFor : String → ω → Option IpcError × ω

section Gate

variable {ω : Type} (env : GateEnvironment ω)

/-- The principal that a request is made by. -/
def GatedCall.requester (call : GatedCall) : String :=
  env.approvals.canonicalizePrincipalKey call.client

/-- The slot of a request in the journal. -/
def GatedCall.journalKey (call : GatedCall) : Option String :=
  call.idempotencyKey.map fun key =>
    env.approvals.canonicalizePrincipalKey (call.requester env) ++ "\x1f" ++ key

/-- The principal that grants are matched with. -/
def grantPrincipal (principalId : String) : String :=
  if trim principalId = "" then localPrincipal else principalId

/-! ### The verdict -/

def evaluate (context : GateContext) (facts : OperationFacts) (principalId : String) :
    ApprovalM ω Policy.PolicyVerdict := do
  let grants ← reads ApprovalRuntime.grants
  let now ← ask env.approvals.journal.now
  pure (evaluateWithGrants context.policy facts grants now (grantPrincipal principalId)
    context.activeRemoteDeviceId)

/-- The remote operation itself stands for the confirmation, if the device is set up so. -/
def delegatedRemote (context : GateContext) : ApprovalM ω Bool :=
  if context.delegateRemoteMcp = true ∧ context.activeRemoteOperationId.isSome = true ∧
      context.activeRemotePayloadHash.isSome = true then
    match context.activeRemoteExpiresAtUnix with
    | none => pure false
    | some expiry => do
      let now ← ask env.approvals.journal.now
      pure (decide (now ≤ expiry))
  else pure false

/-- The verdict on a call, with the delegation applied. -/
def judge (call : GatedCall) : ApprovalM ω Policy.PolicyVerdict := do
  let verdict ← evaluate env call.context call.boundFacts (call.requester env)
  let delegated ← delegatedRemote env call.context
  if delegated = true ∧ verdict.decision = .ask then
    pure
      { verdict with
        decision := .allow
        reason := s!"{verdict.reason}; remote MCP delegation configured" }
  else pure verdict

/-! ### Using a bounded grant -/

/-- A grant used once more, as far as a 32-bit word goes. -/
def usedOnce (grant : BoundedToolGrant) : BoundedToolGrant :=
  { grant with uses := if grant.uses < 2 ^ 32 - 1 then grant.uses + 1 else grant.uses }

/-- The grants when the first bounded one with the id is used, if its uses are counted. -/
def countUse (grantId : String) : List StoredGrant → Option (List StoredGrant)
  | [] => none
  | .temporary grant :: rest => (countUse grantId rest).map (.temporary grant :: ·)
  | .boundedTool grant :: rest =>
    if grant.id = grantId then
      if grant.maxUses.isSome then some (.boundedTool (usedOnce grant) :: rest) else none
    else (countUse grantId rest).map (.boundedTool grant :: ·)

/-- The grants when a verdict is acted on, if a use has to be counted. -/
def usesGrant (verdict : Policy.PolicyVerdict) (grants : List StoredGrant) :
    Option (List StoredGrant) :=
  if verdict.decision ≠ .allow then none
  else verdict.matchedRuleId.bind fun grantId => countUse grantId grants

/-- Write changed grants; when that fails, the old ones are put back. -/
def replaceGrants (changed : List StoredGrant) : ApprovalM ω Unit := do
  let snapshot ← reads ApprovalRuntime.grants
  setGrants changed
  match ← attempt (persistGrants env.approvals) with
  | .ok _ => pure ()
  | .error e => do
    setGrants snapshot
    fail e

def consumeBoundedGrantUse (verdict : Policy.PolicyVerdict) : ApprovalM ω Unit := do
  match ← reads fun s => usesGrant verdict s.grants with
  | none => pure ()
  | some used => replaceGrants env used

/-! ### The gate -/

/-- The operation a request is known by. -/
def operationIdOf (context : GateContext) : ApprovalM ω String :=
  match present context.activeRemoteOperationId with
  | some id => pure id
  | none => ask env.approvals.newId

/-- The record of a request that has to be asked about. -/
def deferredRecord (call : GatedCall) (approvalId operationId : String) (now : Int)
    (verdict : Policy.PolicyVerdict) : ApprovalRecord where
  id := approvalId
  operationId := operationId
  capability := call.facts.capability
  state := .pending
  reason := verdict.reason
  createdAtUnix := now
  decidedAtUnix := none
  expiresAtUnix := call.context.activeRemoteExpiresAtUnix
  targetPayloadHash := call.context.activeRemotePayloadHash
  matchedRuleId := verdict.matchedRuleId
  requesterPrincipal := call.requester env
  facts := some call.boundFacts
  request := call.request
  result := none
  decidedByPrincipal := none

/-- Act on the verdict. -/
def settleVerdict (call : GatedCall) (verdict : Policy.PolicyVerdict) :
    ApprovalM ω GateOutcome := do
  let operationId ← operationIdOf env call.context
  let degraded ← reads fun s => s.journal.degraded
  match verdict.decision with
  | .deny => fail (.remote AppError.policyDenied s!"policy denied: {verdict.reason}")
  | .ask =>
    match degraded with
    | some reason => fail (journalDegradedError reason)
    | none => do
      let approvalId ← ask env.approvals.newId
      let now ← ask env.approvals.journal.now
      enqueueApproval env.approvals approvalId
        (deferredRecord env call approvalId operationId now verdict)
      pure (.reply (approvalRequiredBody operationId approvalId
        { decision := .ask
          reason := verdict.reason
          matchedRuleId := verdict.matchedRuleId }))
  | .allow =>
    match degraded with
    | some reason =>
      if pendingRequestIsJournalReadOnly call.request then
        pure (.run
          { request := call.request
            completions := [.operation none operationId verdict.reason] })
      else fail (journalDegradedError reason)
    | none => do
      onJournal (beginIdempotent env.approvals.journal (call.journalKey env) operationId)
      pure (.run
        { request := call.request
          completions := [.operation (call.journalKey env) operationId verdict.reason] })

/-- A completed receipt as it is answered again: a recorded failure stays one. -/
def replayed (receipt : Value) : Except IpcError GateOutcome :=
  if stringAt receipt "status" = some "failed" then
    let error := (receipt.get "error").getD (.ofFields [])
    .error (.remote
      (((error.get "code").bind Value.asI64).getD AppError.internal)
      ((stringAt error "message").getD "operation previously failed"))
  else .ok (.reply (receipt.insert "replayed" (.bool true)))

def admitGated (call : GatedCall) : ApprovalM ω GateOutcome := do
  match ← onJournal (lookupIdempotent env.approvals.journal (call.journalKey env)) with
  | some receipt => ofExcept (replayed receipt)
  | none => do
    let verdict ← judge env call
    consumeBoundedGrantUse env verdict
    settleVerdict env call verdict

/-- The bounded grant that lifts the policy's decision to ask, if one does. -/
def boundedLift (policy : PolicyDocument) (facts : OperationFacts) (grants : List StoredGrant)
    (now : Int) (principalId : String) (deviceId : Option String) : Option String :=
  if (Policy.evaluate policy facts).decision = .ask ∧
      grants.findSome? (temporaryVerdict facts principalId now) = none then
    (grants.findSome? (boundedVerdict facts principalId now deviceId)).bind
      Policy.PolicyVerdict.matchedRuleId
  else none

/-- The bounded grant that lifts the decision on a call, judged when the journal has been
looked at. -/
def GatedCall.liftedBy (call : GatedCall) (s : ApprovalRuntime ω) : Option String :=
  let looked :=
    ((onJournal (lookupIdempotent env.approvals.journal (call.journalKey env))).run s).2
  boundedLift call.context.policy call.boundFacts looked.grants (clock env.approvals looked)
    (grantPrincipal (call.requester env)) call.context.activeRemoteDeviceId

end Gate

/-! ## Commands on the grants -/

structure AdminGrantsMintParams where
  tools : List String
  ttlSeconds : Int
  maxUses : Option Nat
  workspaceId : Option String
  idempotencyKey : String
  (principalId deviceId : Option String)

def validateAdminIdempotencyKey (value : String) : Except IpcError Unit :=
  if trim value ≠ value ∨ value = "" ∨ 256 < value.utf8ByteSize ∨
      value.toList.any isControl = true then
    .error (.remote AppError.invalidParams
      "idempotency_key must be 1-256 control-free characters without edge whitespace")
  else .ok ()

def maxBoundedToolGrantTtlSecs : Int := 4 * 60 * 60

/-- The canonical names of the tools, each once. -/
def canonicalTools : List String → List String → Except IpcError (List String)
  | tools, [] => .ok tools
  | tools, raw :: rest =>
    match canonicalBoundedTool raw with
    | none => .error (.remote AppError.invalidParams s!"unsupported or wildcard tool {raw}")
    | some tool =>
      canonicalTools (if tool.name ∈ tools then tools else tools ++ [tool.name]) rest

/-- A verified part of the identity that a grant is bound to. -/
def verified (value : Option String) (message : String) : Except IpcError String :=
  match present value with
  | some text => .ok text
  | none => .error (.remote AppError.unauthorized message)

section Commands

variable {ω : Type} (env : GateEnvironment ω)

/-- A workspace that is named can be used. -/
def checkWorkspace : Option String → ApprovalM ω Unit
  | none => pure ()
  | some workspace => do
    match ← ask (env.workspaceFor workspace) with
    | some e => fail e
    | none => pure ()

/-- The grant that is minted, before it is stored. -/
def mintedGrant (params : AdminGrantsMintParams) : ApprovalM ω BoundedToolGrant := do
  ofExcept (validateAdminIdempotencyKey params.idempotencyKey)
  require (1 ≤ params.ttlSeconds ∧ params.ttlSeconds ≤ maxBoundedToolGrantTtlSecs)
    (.remote AppError.invalidParams s!"ttl_seconds must be 1..={maxBoundedToolGrantTtlSecs}")
  require (∀ most ∈ params.maxUses, most ≠ 0 ∧ most ≤ maxBoundedToolGrantUses)
    (.remote AppError.invalidParams s!"max_uses must be 1..={maxBoundedToolGrantUses}")
  let tools ← ofExcept (canonicalTools [] params.tools)
  require (tools ≠ [])
    (.remote AppError.invalidParams "tools must list at least one canonical tool")
  let principalId ← ofExcept (verified params.principalId
    "bounded grant mint requires the verified remote principal")
  let deviceId ← ofExcept (verified params.deviceId
    "bounded grant mint requires the verified device id")
  checkWorkspace env (present params.workspaceId)
  let now ← ask env.approvals.journal.now
  let id ← ask env.approvals.newId
  let grant : BoundedToolGrant :=
    { id := id
      principalId := principalId
      deviceId := deviceId
      tools := tools
      workspaceId := present params.workspaceId
      expiresUnix := saturatingAdd now params.ttlSeconds
      maxUses := params.maxUses
      uses := 0 }
  ofExcept (grant.validate.mapError (.remote AppError.invalidParams))
  pure grant

def executeAdminGrantsMint (params : AdminGrantsMintParams) : ApprovalM ω BoundedToolGrant := do
  let grant ← mintedGrant env params
  let grants ← reads ApprovalRuntime.grants
  replaceGrants env (grants ++ [.boundedTool grant])
  pure grant

def grantId : StoredGrant → String
  | .boundedTool grant => grant.id
  | .temporary grant => grant.id

def handleGrantsRevoke (id : String) : ApprovalM ω Unit := do
  let grants ← reads ApprovalRuntime.grants
  let kept := grants.filter fun grant => grantId grant ≠ id
  require (kept.length ≠ grants.length)
    (.remote AppError.invalidParams s!"grant not found: {id}")
  replaceGrants env kept

def handleLockdown : ApprovalM ω Unit := do
  let before ← reads ApprovalRuntime.grants
  setGrants []
  match ← ask env.writeLockdown with
  | some e => do
    setGrants before
    fail e
  | none =>
    match ← attempt (persistGrants env.approvals) with
    | .ok _ => pure ()
    | .error e => do
      setGrants before
      match ← ask env.writeLockdown with
      | some rollback =>
        fail (.remote AppError.internal
          s!"{e.display}; also failed to restore lockdown flag: {rollback.display}")
      | none => fail e

def maxGrantsFileBytes : Nat := 1024 * 1024

def maxGrantsEntries : Nat := 4096

def loadGrants : Program (ApprovalRuntime ω) String (List StoredGrant) := do
  let file ← reads ApprovalRuntime.grantsFile
  match ← ask env.readGrants with
  | some reason => fail reason
  | none => do
    require (env.grantsBytes file ≤ maxGrantsFileBytes)
      (s!"grants state exceeds {maxGrantsFileBytes} byte budget ({env.grantsBytes file})")
    require (file.length ≤ maxGrantsEntries)
      s!"grants state exceeds {maxGrantsEntries} entry budget ({file.length})"
    pure file

/-- The daemon is gone and is started again, with the grants of the file. -/
def reopen (s : ApprovalRuntime ω) : ApprovalRuntime ω :=
  match (loadGrants env).run s with
  | (.ok grants, t) => { reload env.approvals t with grants := grants }
  | (.error _, t) => { t with approvals := ∅, running := false, inFlight := [] }

end Commands

/-! ## Steps -/

/-- The daemon, the bounded grants that were minted and, for every request that was run
because a bounded grant lifted it, the id of that grant. -/
structure Gatehouse (ω : Type) where
  runtime : ApprovalRuntime ω
  minted : List BoundedToolGrant
  lifted : List String

inductive GateEvent where
  | gated (call : GatedCall)
  | minted (params : AdminGrantsMintParams)
  | revoked (id : String)
  | lockedDown
  | approval (request : ApprovalRequest)
  | finalized (work : AllowedWork) (executed : Except IpcError Value)
  | reloaded

section Steps

variable {ω : Type} (env : GateEnvironment ω)

/-- The state after a call at the gate: work that it hands out is in flight. -/
def Gatehouse.afterGate (h : Gatehouse ω) (call : GatedCall) : Gatehouse ω :=
  match (admitGated env call).run h.runtime with
  | (.ok (.run work), t) =>
    { h with
      runtime := { t with inFlight := work :: t.inFlight }
      lifted := (call.liftedBy env h.runtime).toList ++ h.lifted }
  | (_, t) => { h with runtime := t }

/-- The state after an order to mint. -/
def Gatehouse.afterMint (h : Gatehouse ω) (params : AdminGrantsMintParams) : Gatehouse ω :=
  match (executeAdminGrantsMint env params).run h.runtime with
  | (.ok grant, t) => { h with runtime := t, minted := grant :: h.minted }
  | (.error _, t) => { h with runtime := t }

/-- One step of the daemon.  A minted grant has an id that no grant had before.  A crash
inside a step is a step whose remaining writes fail, and a reload. -/
inductive GateStep : Gatehouse ω → GateEvent → Gatehouse ω → Prop where
  | gated {h : Gatehouse ω} (running : h.runtime.running = true) (call : GatedCall) :
      GateStep h (.gated call) (h.afterGate env call)
  | mint {h : Gatehouse ω} (running : h.runtime.running = true) (params : AdminGrantsMintParams)
      (fresh : ∀ grant t, (mintedGrant env params).run h.runtime = (.ok grant, t) →
        ∀ older ∈ h.minted, older.id ≠ grant.id) :
      GateStep h (.minted params) (h.afterMint env params)
  | revoke {h : Gatehouse ω} (running : h.runtime.running = true) (id : String) :
      GateStep h (.revoked id)
        { h with runtime := ((handleGrantsRevoke env id).run h.runtime).2 }
  | lockdown {h : Gatehouse ω} (running : h.runtime.running = true) :
      GateStep h .lockedDown { h with runtime := ((handleLockdown env).run h.runtime).2 }
  | approval {h : Gatehouse ω} (running : h.runtime.running = true) (request : ApprovalRequest) :
      GateStep h (.approval request)
        { h with runtime := ((request.perform env.approvals).run h.runtime).2 }
  | finalize {h : Gatehouse ω} (running : h.runtime.running = true)
      {before after : List AllowedWork} (work : AllowedWork)
      (inFlight : h.runtime.inFlight = before ++ work :: after)
      (executed : Except IpcError Value) :
      GateStep h (.finalized work executed)
        { h with
          runtime := ((finalizeAllowed env.approvals work executed).run
            { h.runtime with inFlight := before ++ after }).2 }
  | reload (h : Gatehouse ω) : GateStep h .reloaded { h with runtime := reopen env h.runtime }

end Steps

end OwnMesh.Approvals
