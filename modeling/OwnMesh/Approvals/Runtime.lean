import OwnMesh.OpJournal.Store
import OwnMesh.Policy.Grants

/-!
# Deferred requests and their approval

A request that policy asks about is kept in an approval record until somebody decides.
Three paths start it: the local `approve`, an approval bridge (an approved request whose
effect is to approve another record) and the decision that the control plane delivers.
They share the records, the list of grants and the idempotency journal, each in memory
and in a file of its own.

A record is committed as `executing` before its request starts; what fails before that
point is taken back by hand, what fails after it is not.  `started` is a history variable
and no part of the program: the records whose request was started, the newest first.

Whether a write succeeds, the clock, the effect of a request and the answers of the rest
of the daemon are decided by the surroundings, over an arbitrary world.  As everywhere in
the daemon a write replaces its file atomically and fails only before it does.
-/

namespace OwnMesh.Approvals

open Foundations Ipc OpJournal Program
open Policy (OperationFacts TemporaryGrant StoredGrant startsWith asciiLower)

/-! ## Records -/

/-- The state of a record.  The file may hold any text. -/
inductive ApprovalState where
  | pending
  | executing
  | approved
  | denied
  | other (text : String)
deriving DecidableEq, Repr

def ApprovalState.text : ApprovalState → String
  | pending => "pending"
  | executing => "executing"
  | approved => "approved"
  | denied => "denied"
  | other text => text

structure AdminApprovalBridgeParams where
  (approvalId decision : String)
  temporaryGrant : Bool
  grantSeconds : Option Int
  idempotencyKey : String

/-- A deferred request.  The parameters that only its execution reads are kept as the
JSON they are stored as. -/
inductive PendingRequest where
  | exec (idempotencyKey : Option String) (body : Value)
  | fsList (idempotencyKey : Option String) (body : Value)
  | fsStat (idempotencyKey : Option String) (body : Value)
  | fsRead (idempotencyKey : Option String) (body : Value)
  | fsWrite (idempotencyKey : Option String) (body : Value)
  | fsDelete (idempotencyKey : Option String) (body : Value)
  | logsQuery (idempotencyKey : Option String) (body : Value)
  | gitStatus (idempotencyKey : Option String) (body : Value)
  | gitDiff (idempotencyKey : Option String) (body : Value)
  | systemDiagnose (idempotencyKey : Option String) (body : Value)
  | adminPolicyPreset (idempotencyKey : String) (body : Value)
  | adminPolicyRuleAdd (idempotencyKey : String) (body : Value)
  | adminPolicyRuleRemove (idempotencyKey : String) (body : Value)
  | adminDaemonUnlock (idempotencyKey : String) (body : Value)
  | adminTokenRevoke (principal idempotencyKey : String)
  | adminApprovalBridge (params : AdminApprovalBridgeParams)
  | adminGrantsMint (idempotencyKey : String) (body : Value)

namespace PendingRequest

def rawIdempotencyKey : PendingRequest → Option String
  | exec key _ | fsList key _ | fsStat key _ | fsRead key _ | fsWrite key _ | fsDelete key _
  | logsQuery key _ | gitStatus key _ | gitDiff key _ | systemDiagnose key _ => key
  | adminPolicyPreset key _ | adminPolicyRuleAdd key _ | adminPolicyRuleRemove key _
  | adminDaemonUnlock key _ | adminTokenRevoke _ key | adminGrantsMint key _ => some key
  | adminApprovalBridge params => some params.idempotencyKey

def isAdmin : PendingRequest → Bool
  | adminPolicyPreset _ _ | adminPolicyRuleAdd _ _ | adminPolicyRuleRemove _ _
  | adminDaemonUnlock _ _ | adminTokenRevoke _ _ | adminApprovalBridge _
  | adminGrantsMint _ _ => true
  | exec _ _ | fsList _ _ | fsStat _ _ | fsRead _ _ | fsWrite _ _ | fsDelete _ _
  | logsQuery _ _ | gitStatus _ _ | gitDiff _ _ | systemDiagnose _ _ => false

def isUnlock : PendingRequest → Bool
  | adminDaemonUnlock _ _ => true
  | _ => false

def isDiagnose : PendingRequest → Bool
  | systemDiagnose _ _ => true
  | _ => false

end PendingRequest

structure ApprovalRecord where
  (id operationId capability : String)
  state : ApprovalState
  reason : String
  createdAtUnix : Int
  (decidedAtUnix expiresAtUnix : Option Int)
  (targetPayloadHash matchedRuleId : Option String)
  requesterPrincipal : String
  facts : Option OperationFacts
  request : PendingRequest
  result : Option Value
  decidedByPrincipal : Option String

/-- The records by approval id. -/
abbrev ApprovalTable : Type := Table String ApprovalRecord

/-! ## Admitted work -/

structure ApprovedCompletion where
  journalKey : Option String
  (operationId approvalId approver : String)
  (grantedScope executingJournalEntry : Option Value)
  executingApproval : Option ApprovalRecord

structure ControlPlaneApprovalCompletion where
  approvalId : String
  targetOperationId : Option String

/-- What is to be committed when admitted work is over. -/
inductive AllowedCompletion where
  | operation (journalKey : Option String) (operationId reason : String)
  | approval (completion : ApprovedCompletion)
  | controlPlaneApproval (completion : ControlPlaneApprovalCompletion)

structure AllowedWork where
  request : PendingRequest
  completions : List AllowedCompletion

/-- The answer of an admission: a reply, or work that runs outside the runtime's lock. -/
inductive GateOutcome where
  | reply (body : Value)
  | run (work : AllowedWork)

/-! ## Surroundings -/

/-- What the surroundings decide.  An answer `some reason` is a failure. -/
structure Environment (ω : Type) where
  journal : OpJournal.Environment ω
  canonicalizePrincipalKey : String → String
  newId : ω → String × ω
  (writeApprovals writeGrants : ω → Option String × ω)
  lockdown : ω → Bool × ω
  temporaryGrantFromFacts : String → String → Int → OperationFacts → Except String TemporaryGrant
  executeRequest : PendingRequest → ω → Except IpcError Value × ω
  parseTimestamp : String → Option Int
  /-- Where the iteration over a hash map begins. -/
  iterationStart : ω → Nat × ω
  readApprovals : ω → Option String × ω
  approvalsBytes : ApprovalTable → Nat
  recordBytes : ApprovalRecord → Nat
  /-- Why the rest of a start fails, if it does. -/
  startup : ω → Option String × ω

/-- The daemon's part that approvals are decided in. -/
structure ApprovalRuntime (ω : Type) where
  approvals : ApprovalTable
  approvalsFile : Option ApprovalTable
  (grants grantsFile : List StoredGrant)
  journal : Journal ω
  running : Bool
  inFlight : List AllowedWork
  started : List String

/-- Programs on the runtime. -/
abbrev ApprovalM (ω α : Type) : Type := Program (ApprovalRuntime ω) IpcError α

section Operations

variable {ω : Type} (env : Environment ω)

/-- Ask the surroundings. -/
def ask {ε α : Type} (question : ω → α × ω) : Program (ApprovalRuntime ω) ε α :=
  query fun s =>
    ((question s.journal.world).1,
      { s with journal := { s.journal with world := (question s.journal.world).2 } })

def onJournal {ε α : Type} (m : Program (Journal ω) ε α) : Program (ApprovalRuntime ω) ε α :=
  Program.zoom ApprovalRuntime.journal (fun journal s => { s with journal := journal }) m

def setApprovals (approvals : ApprovalTable) : ApprovalM ω Unit :=
  Program.modify fun s => { s with approvals := approvals }

def setGrants (grants : List StoredGrant) : ApprovalM ω Unit :=
  Program.modify fun s => { s with grants := grants }

/-- Change a record in place, if it is there. -/
def changeRecord (id : String) (change : ApprovalRecord → ApprovalRecord) : ApprovalM ω Unit :=
  Program.modify fun s => { s with approvals := s.approvals.adjust id change }

def restoreApprovalRecord (id : String) : Option ApprovalRecord → ApprovalM ω Unit
  | some previous =>
    Program.modify fun s => { s with approvals := s.approvals.insert id previous }
  | none => Program.modify fun s => { s with approvals := s.approvals.erase id }

/-! ## Writing -/

def persistApprovals : ApprovalM ω Unit := do
  match ← ask env.writeApprovals with
  | some reason =>
    fail (.remote AppError.internal s!"failed to persist approvals: {reason}")
  | none => Program.modify fun s => { s with approvalsFile := some s.approvals }

def persistGrants : ApprovalM ω Unit := do
  match ← ask env.writeGrants with
  | some reason =>
    fail (.remote AppError.internal s!"failed to persist grants: {reason}")
  | none => Program.modify fun s => { s with grantsFile := s.grants }

/-- Write the records; when that fails, put the given ones back. -/
def persistOrRestoreApprovals (snapshot : ApprovalTable) : ApprovalM ω Unit := do
  match ← attempt (persistApprovals env) with
  | .ok _ => pure ()
  | .error e => do
    setApprovals snapshot
    fail e

/-! ## Checks -/

def approvalNotFound (id : String) : IpcError :=
  .remote AppError.invalidParams s!"approval not found: {id}"

def localApprovalNotFound (id : String) : IpcError :=
  .remote AppError.invalidParams s!"local approval not found: {id}"

/-- The record of an id. -/
def findRecord (id : String) (missing : IpcError) : ApprovalM ω ApprovalRecord := do
  match ← reads fun s => s.approvals.lookup id with
  | some record => pure record
  | none => fail missing

def ensureIndependentHumanApprover (approver requester : String) : Except IpcError Unit :=
  let approver := env.canonicalizePrincipalKey approver
  let requester := env.canonicalizePrincipalKey requester
  let isHuman := startsWith (env.canonicalizePrincipalKey approver) "user:"
  let isClient := fun principal =>
    startsWith (env.canonicalizePrincipalKey principal) "client:"
  if approver = "" ∨ isHuman = false ∨ isClient approver = true then
    .error (.remote AppError.unauthorized
      "approval requires an independently authenticated human OS principal (user:*)")
  else if isClient requester = true ∧ requester = approver then
    .error (.remote AppError.unauthorized
      "operation creator cannot self-approve; independent human principal required")
  else .ok ()

def checkPendingRequestLockdown (request : PendingRequest) : ApprovalM ω Unit := do
  let lockdown ← ask env.lockdown
  require (¬ (request.isUnlock = true ∧ lockdown = false))
    (.remote AppError.conflict "device is not in emergency lockdown")
  require (¬ (lockdown = true ∧ request.isUnlock = false ∧ request.isDiagnose = false))
    (.remote AppError.lockdown
      "emergency lockdown active; only a bound admin unlock may execute")

structure ApproveParams where
  id : String
  grantSeconds : Option Int
  temporaryGrant : Bool

/-- The record to be approved, and that the approver may approve it. -/
def approvableRecord (id approver : String) : ApprovalM ω ApprovalRecord := do
  let record ← findRecord id (approvalNotFound id)
  require (record.state = .pending)
    (.remote AppError.conflict s!"approval already {record.state.text}")
  ofExcept (ensureIndependentHumanApprover env approver record.requesterPrincipal)
  match record.request with
  | .adminTokenRevoke principal _ =>
    require (env.canonicalizePrincipalKey principal ≠ record.requesterPrincipal)
      (.remote AppError.invalidParams
        "cannot revoke the principal that authorized this request")
  | _ => pure ()
  pure record

def defaultGrantSecs : Int := 3600

def localPrincipal : String := "prin_local"

/-- Seconds added to a time, as far as a 64-bit word goes. -/
def saturatingAdd (time seconds : Int) : Int :=
  max (-2 ^ 63) (min (time + seconds) (2 ^ 63 - 1))

/-- The temporary grant to be stored with the approval, if one was asked for. -/
def pendingGrant (params : ApproveParams) (record : ApprovalRecord) :
    ApprovalM ω (Option TemporaryGrant) := do
  require (¬ (params.temporaryGrant = true ∧ record.request.isAdmin = true))
    (.remote AppError.invalidParams
      "temporary grants are not supported for admin or approval-bridge actions")
  checkPendingRequestLockdown env record.request
  if params.temporaryGrant then do
    let now ← ask env.journal.now
    let grantId ← ask env.newId
    match record.facts with
    | none =>
      fail (.remote AppError.invalidParams
        "temporary grant requires server approval facts")
    | some facts => do
      require (trim facts.capability = trim record.capability)
        (.remote AppError.invalidParams
          "temporary grant capability does not match server approval facts")
      let principal :=
        if record.requesterPrincipal = "" then localPrincipal else record.requesterPrincipal
      match env.temporaryGrantFromFacts grantId principal
          (saturatingAdd now (params.grantSeconds.getD defaultGrantSecs)) facts with
      | .error message => fail (.remote AppError.invalidParams message)
      | .ok grant => pure (some grant)
  else pure none

/-- What a grant gives, as it is told to the caller. -/
def grantScope (grant : TemporaryGrant) : Value :=
  .ofFields
    [("id", .string grant.id),
     ("capability", .string grant.capability),
     ("principal_id", .string grant.principalId),
     ("scope", (grant.pathPrefix.map Value.string).getD .null),
     ("workspace_id", (grant.workspaceId.map Value.string).getD .null),
     ("expires_at_unix", .ofInt grant.expiresUnix)]

/-- The slot of a request in the journal, shared with a direct retry of it. -/
def journalKeyOf (record : ApprovalRecord) : Option String :=
  record.request.rawIdempotencyKey.map fun key =>
    env.canonicalizePrincipalKey record.requesterPrincipal ++ "\x1f" ++ key

/-! ## Finalization -/

/-- The record as it is when its request is over. -/
def ApprovalRecord.finished (body : Value) (approver : String) (record : ApprovalRecord) :
    ApprovalRecord :=
  { record with
    state := .approved
    result := some body
    decidedByPrincipal := some approver }

def finalizeApprovedCompletion (completion : ApprovedCompletion)
    (executed : Except IpcError Value) : ApprovalM ω Value := do
  onJournal (validateCompletionMarker completion.journalKey completion.operationId)
  let result ← ofExcept executed
  let body := approvedBody completion.operationId completion.approvalId completion.grantedScope
    result
  match ← attempt (onJournal (storeIdempotent env.journal completion.journalKey body)) with
  | .error e => do
    -- another command may have committed meanwhile: only this approval is put back
    onJournal (restoreOpJournalEntry completion.journalKey completion.executingJournalEntry)
    restoreApprovalRecord completion.approvalId completion.executingApproval
    fail e
  | .ok _ => do
    let preTerminal ← reads fun s => s.approvals.lookup completion.approvalId
    changeRecord completion.approvalId (ApprovalRecord.finished body completion.approver)
    match ← attempt (persistApprovals env) with
    | .error e => do
      restoreApprovalRecord completion.approvalId preTerminal
      fail e
    | .ok _ => pure body

def controlPlaneApprovalBody (completion : ControlPlaneApprovalCompletion) (body : Value) : Value :=
  .ofFields
    [("approval_decision_applied", .bool true),
     ("replayed", .bool false),
     ("approval_id", .string completion.approvalId),
     ("target_operation_id",
       (body.get "operation_id").getD (.string (completion.targetOperationId.getD ""))),
     ("decision", .string "approve"),
     ("state", .string "approved"),
     ("result", (body.get "result").getD .null),
     ("execution", body)]

/-- One layer of the completion chain, on the outcome of the layer before. -/
def finalizeCompletion (completion : AllowedCompletion) (outcome : Except IpcError Value) :
    ApprovalM ω Value :=
  match completion with
  | .operation journalKey operationId reason =>
    onJournal (finalizeOperationCompletion env.journal journalKey operationId reason outcome)
  | .approval completion => finalizeApprovedCompletion env completion outcome
  | .controlPlaneApproval completion =>
    ofExcept (outcome.map (controlPlaneApprovalBody completion))

def finalizeCompletions : List AllowedCompletion → Except IpcError Value →
    ApprovalM ω (Except IpcError Value)
  | [], outcome => pure outcome
  | completion :: rest, outcome => do
    let next ← attempt (finalizeCompletion env completion outcome)
    finalizeCompletions rest next

def finalizeAllowed (work : AllowedWork) (executed : Except IpcError Value) :
    ApprovalM ω Value := do
  let outcome ← finalizeCompletions env work.completions executed
  ofExcept outcome

end Operations

end OwnMesh.Approvals
