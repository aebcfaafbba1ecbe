import OwnMesh.Approvals.Runtime

/-!
# Deciding an approval

The handlers that approve and deny, the enqueueing of a record, the load of the records
at a start, and the steps a daemon takes with them.  The local `approve` and the bridge
call each other in the source; a bridge refuses targets that are administrative requests,
bridges among them, so the inner call never meets a second bridge.
-/

namespace OwnMesh.Approvals

open Foundations Ipc OpJournal Program
open Policy (OperationFacts TemporaryGrant StoredGrant asciiLower)

section Handlers

variable {ω : Type} (env : Environment ω)

/-! ## Approving -/

/-- The record as it is committed before its request starts. -/
def ApprovalRecord.begun (now : Int) (record : ApprovalRecord) : ApprovalRecord :=
  { record with state := .executing, decidedAtUnix := some now }

/-- Commit the record as executing. -/
def commitExecuting (id : String) (before : Option ApprovalRecord)
    (grantsBefore : List StoredGrant) : ApprovalM ω Unit := do
  let now ← ask env.journal.now
  changeRecord id (ApprovalRecord.begun now)
  match ← attempt (persistApprovals env) with
  | .ok _ => pure ()
  | .error e => do
    restoreApprovalRecord id before
    setGrants grantsBefore
    fail e

/-- Reserve the key of the request; a failure makes the record pending again. -/
def reserveApprovedKey (id : String) (key : Option String) (operationId : String)
    (before : Option ApprovalRecord) (grantsBefore : List StoredGrant) : ApprovalM ω Unit := do
  match ← attempt (onJournal (beginIdempotent env.journal key operationId)) with
  | .ok _ => pure ()
  | .error e => do
    restoreApprovalRecord id before
    setGrants grantsBefore
    let approvals ← attempt (persistApprovals env)
    fail (withRollbackErrors e (failures [approvals]))

/-- Store the grant; a failure takes back the key and makes the record pending again. -/
def storeApprovedGrant (id : String) (key : Option String) (before : Option ApprovalRecord)
    (grantsBefore : List StoredGrant) (journalBefore : Option Value) :
    Option TemporaryGrant → ApprovalM ω Unit
  | none => pure ()
  | some grant => do
    setGrants (grantsBefore ++ [.temporary grant])
    match ← attempt (persistGrants env) with
    | .ok _ => pure ()
    | .error e => do
      restoreApprovalRecord id before
      setGrants grantsBefore
      onJournal (restoreOpJournalEntry key journalBefore)
      let journal ←
        if key.isSome then attempt (onJournal (persistOpJournal env.journal))
        else pure (.ok ())
      let approvals ← attempt (persistApprovals env)
      fail (withRollbackErrors e (failures [journal, approvals]))

/-- From here on the request of the record may have had its effect. -/
def start (id : String) : ApprovalM ω Unit :=
  Program.modify fun s => { s with started := id :: s.started }

/-- Run an approved request, or hand it out to be run.  A bridge is run by `onBridge`. -/
def runApproved (onBridge : AdminApprovalBridgeParams → String → ApprovalM ω GateOutcome)
    (request : PendingRequest) (approver : String) (completion : AllowedCompletion) :
    ApprovalM ω GateOutcome :=
  match request with
  | .exec _ _ => pure (.run { request := request, completions := [completion] })
  | .adminApprovalBridge bridge => do
    match ← onBridge bridge approver with
    | .reply result => do
      let body ← finalizeAllowed env
        { request := request, completions := [completion] } (.ok result)
      pure (.reply body)
    | .run work => pure (.run { work with completions := work.completions ++ [completion] })
  | _ => do
    let executed ← ask (env.executeRequest request)
    let body ← finalizeAllowed env { request := request, completions := [completion] } executed
    pure (.reply body)

/-- Approve a record. -/
def approveWith (onBridge : AdminApprovalBridgeParams → String → ApprovalM ω GateOutcome)
    (params : ApproveParams) (client : String) : ApprovalM ω GateOutcome := do
  let approver := env.canonicalizePrincipalKey client
  let record ← approvableRecord env params.id approver
  let grant ← pendingGrant env params record
  let key := journalKeyOf env record
  let before ← reads fun s => s.approvals.lookup params.id
  let grantsBefore ← reads ApprovalRuntime.grants
  let journalBefore ← reads fun s => key.bind fun k => s.journal.entries.lookup k
  commitExecuting env params.id before grantsBefore
  reserveApprovedKey env params.id key record.operationId before grantsBefore
  storeApprovedGrant env params.id key before grantsBefore journalBefore grant
  let executingEntry ← reads fun s => key.bind fun k => s.journal.entries.lookup k
  let executingApproval ← reads fun s => s.approvals.lookup params.id
  start params.id
  runApproved env onBridge record.request approver
    (.approval
      { journalKey := key
        operationId := record.operationId
        approvalId := params.id
        approver := approver
        grantedScope := grant.map grantScope
        executingJournalEntry := executingEntry
        executingApproval := executingApproval })

/-- A bridge that is met where none can be. -/
def bridgeWithoutExecutor (_ : AdminApprovalBridgeParams) (_ : String) : ApprovalM ω GateOutcome :=
  fail (.remote AppError.internal
    "approval bridge requires the authenticated approval executor")

/-- Approve the target of a bridge. -/
def admitApprovalBridge (params : AdminApprovalBridgeParams) (approver : String) :
    ApprovalM ω GateOutcome := do
  let target ← findRecord params.approvalId (localApprovalNotFound params.approvalId)
  let now ← ask env.journal.now
  require (¬ (target.state ≠ .pending ∨ (target.expiresAtUnix.any (· < now)) = true ∨
      target.targetPayloadHash.isSome = true ∨ target.request.isAdmin = true))
    (.remote AppError.conflict "target local approval is no longer pending and eligible")
  ofExcept (ensureIndependentHumanApprover env approver target.requesterPrincipal)
  checkPendingRequestLockdown env target.request
  approveWith env bridgeWithoutExecutor
    { id := params.approvalId
      grantSeconds := params.grantSeconds
      temporaryGrant := params.temporaryGrant } approver

def admitApprovalApprove (params : ApproveParams) (client : String) : ApprovalM ω GateOutcome :=
  approveWith env (admitApprovalBridge env) params client

/-! ## Denying -/

def ApprovalRecord.refused (now : Int) (approver : String) (record : ApprovalRecord) :
    ApprovalRecord :=
  { record with
    state := .denied
    decidedAtUnix := some now
    decidedByPrincipal := some approver }

def denyApprovalBridge (bridgeId : String) (params : AdminApprovalBridgeParams)
    (approver : String) : ApprovalM ω Value := do
  let bridge ← findRecord bridgeId (approvalNotFound bridgeId)
  let target ← findRecord params.approvalId (localApprovalNotFound params.approvalId)
  require (¬ (bridge.state ≠ .pending ∨ target.state ≠ .pending))
    (.remote AppError.conflict "approval bridge or target was already decided")
  ofExcept (ensureIndependentHumanApprover env approver bridge.requesterPrincipal)
  ofExcept (ensureIndependentHumanApprover env approver target.requesterPrincipal)
  let snapshot ← reads ApprovalRuntime.approvals
  let now ← ask env.journal.now
  changeRecord bridgeId (ApprovalRecord.refused now approver)
  changeRecord params.approvalId (ApprovalRecord.refused now approver)
  persistOrRestoreApprovals env snapshot
  pure (.ofFields
    [("approval_id", .string bridgeId),
     ("target_approval_id", .string target.id),
     ("target_operation_id", .string target.operationId),
     ("state", .string "denied")])

def handleApprovalDeny (id client : String) : ApprovalM ω Value := do
  require (id ≠ "") (.remote AppError.invalidParams "id is required")
  let approver := env.canonicalizePrincipalKey client
  let snapshot ← reads ApprovalRuntime.approvals
  let record ← findRecord id (approvalNotFound id)
  require (record.state = .pending)
    (.remote AppError.conflict s!"approval already {record.state.text}")
  ofExcept (ensureIndependentHumanApprover env approver record.requesterPrincipal)
  let now ← ask env.journal.now
  changeRecord id (ApprovalRecord.refused now approver)
  persistOrRestoreApprovals env snapshot
  pure (.ofFields
    [("approval_id", .string id),
     ("operation_id", .string record.operationId),
     ("state", .string "denied")])

/-! ## Decisions of the control plane -/

structure DecisionParams where
  (approvalId targetOperationId : Option String)
  decision : String
  (targetPayloadHash targetExpiresAt approverPrincipal : Option String)

/-- A text that is there and not blank, without the white space around it. -/
def present (text : Option String) : Option String :=
  (text.map trim).filter (· ≠ "")

/-- The ids of the pending records of an operation, in the order of an iteration. -/
def pendingOf (operationId : String) : ApprovalM ω (List String) := do
  let begin_ ← ask env.iterationStart
  reads fun s =>
    ((s.approvals.toList.rotate begin_).filter fun entry =>
      entry.2.operationId == operationId && decide (entry.2.state = .pending)).map Prod.fst

/-- The record a decision is about. -/
def resolveApproval (approvalId targetOperationId : Option String) : ApprovalM ω String := do
  match approvalId, targetOperationId with
  | some id, target =>
    let known ← reads fun s => (s.approvals.lookup id).isSome
    if known then pure id
    else
      match target with
      | none => fail (approvalNotFound id)
      | some target => do
        match ← pendingOf env target with
        | found :: _ => pure found
        | [] =>
          fail (.remote AppError.invalidParams
            s!"approval not found for id={id} target_operation_id={target}")
  | none, some target => do
    match ← pendingOf env target with
    | [only] => pure only
    | [] =>
      fail (.remote AppError.invalidParams
        s!"no pending approval for operation {target}")
    | _ =>
      fail (.remote AppError.conflict
        s!"multiple pending approvals for operation {target}; supply approval_id")
  | none, none =>
    fail (.remote AppError.invalidParams "approval_id or target_operation_id required")

/-- The decision is the one a bridge was bound to. -/
def checkBridgeIntent (decision : String) : PendingRequest → Except IpcError Unit
  | .adminApprovalBridge bridge =>
    if bridge.decision = decision then .ok ()
    else .error (.remote AppError.unauthorized
      s!"approval decision does not match bound bridge intent ({bridge.decision})")
  | _ => .ok ()

def checkTargetOperation (target : Option String) (record : ApprovalRecord) :
    Except IpcError Unit :=
  match target with
  | some target =>
    if record.operationId = target then .ok ()
    else .error (.remote AppError.invalidParams
      s!"target_operation_id {target} does not match approval {record.operationId}")
  | none => .ok ()

/-- The expiry and the payload hash that the record was bound to. -/
def checkDecisionBinding (id : String) (now : Int) (record : ApprovalRecord)
    (hash expires : Option String) : Except IpcError Unit := do
  match record.expiresAtUnix with
  | some expiry =>
    if expiry < now then
      throw (.remote AppError.unauthorized
        s!"approval {id} expired at unix {expiry}; re-authorize the original action")
  | none => pure ()
  match record.targetPayloadHash, hash with
  | some stored, some cited =>
    if asciiLower stored ≠ asciiLower cited then
      throw (.remote AppError.unauthorized
        "target_payload_hash does not match deferred approval binding")
  | some _, none =>
    throw (.remote AppError.unauthorized
      "target_payload_hash required for bound recovery approval")
  | none, _ => pure ()
  match record.expiresAtUnix, expires.bind env.parseTimestamp with
  | some stored, some cited =>
    if cited ≠ stored then
      throw (.remote AppError.unauthorized
        "target_expires_at does not match deferred approval binding")
  | _, _ => pure ()

/-- The principal a decision of the control plane is made by. -/
def recoveryKey : Option String → String
  | some principal => "user:control-plane:" ++ principal
  | none => "user:control-plane-recovery"

def replayedDecisionBody (id decision : String) (record : ApprovalRecord) : Value :=
  .ofFields
    [("approval_decision_applied", .bool true),
     ("replayed", .bool true),
     ("approval_id", .string id),
     ("target_operation_id", .string record.operationId),
     ("decision", .string decision),
     ("state", .string record.state.text),
     ("result", record.result.getD .null)]

def deniedDecisionBody (id : String) (targetOperationId result : Value) : Value :=
  .ofFields
    [("approval_decision_applied", .bool true),
     ("replayed", .bool false),
     ("approval_id", .string id),
     ("target_operation_id", targetOperationId),
     ("decision", .string "deny"),
     ("state", .string "denied"),
     ("result", result)]

/-- Apply a denial of the control plane. -/
def denyByControlPlane (id : String) (record : ApprovalRecord) (recovery : String) :
    ApprovalM ω GateOutcome :=
  match record.request with
  | .adminApprovalBridge bridge => do
    let body ← denyApprovalBridge env id bridge (env.canonicalizePrincipalKey recovery)
    pure (.reply (deniedDecisionBody id (.string record.operationId) body))
  | _ => do
    let body ← handleApprovalDeny env id recovery
    pure (.reply (deniedDecisionBody id ((body.get "operation_id").getD .null) body))

/-- Apply an approval of the control plane. -/
def approveByControlPlane (id : String) (targetOperationId : Option String)
    (recovery : String) : ApprovalM ω GateOutcome := do
  let completion : ControlPlaneApprovalCompletion :=
    { approvalId := id, targetOperationId := targetOperationId }
  match ← admitApprovalApprove env
      { id := id, grantSeconds := none, temporaryGrant := false } recovery with
  | .reply body => pure (.reply (controlPlaneApprovalBody completion body))
  | .run work =>
    pure (.run { work with
      completions := work.completions ++ [.controlPlaneApproval completion] })

def admitControlPlaneApprovalDecision (params : DecisionParams) : ApprovalM ω GateOutcome := do
  let decision := asciiLower (trim params.decision)
  require (¬ (decision ≠ "approve" ∧ decision ≠ "deny"))
    (.remote AppError.invalidParams "decision must be approve or deny")
  let target := present params.targetOperationId
  let id ← resolveApproval env (present params.approvalId) target
  let record ← findRecord id (approvalNotFound id)
  ofExcept (checkBridgeIntent decision record.request)
  ofExcept (checkTargetOperation target record)
  if record.state ≠ .pending then
    pure (.reply (replayedDecisionBody id decision record))
  else do
    let now ← ask env.journal.now
    ofExcept (checkDecisionBinding env id now record (present params.targetPayloadHash)
      (present params.targetExpiresAt))
    let recovery := recoveryKey (present params.approverPrincipal)
    if decision = "deny" then denyByControlPlane env id record recovery
    else approveByControlPlane env id target recovery

/-! ## Enqueueing and loading -/

/-- Keep a request until it is decided. -/
def enqueueApproval (id : String) (record : ApprovalRecord) : ApprovalM ω Unit := do
  let snapshot ← reads ApprovalRuntime.approvals
  setApprovals (snapshot.insert id record)
  persistOrRestoreApprovals env snapshot

def maxApprovalsFileBytes : Nat := 4 * 1024 * 1024

def maxApprovalsEntries : Nat := 4096

def maxApprovalValueBytes : Nat := 64 * 1024

def loadApprovals : Program (ApprovalRuntime ω) String ApprovalTable := do
  match ← reads ApprovalRuntime.approvalsFile with
  | none => pure ∅
  | some file => do
    match ← ask env.readApprovals with
    | some reason => fail reason
    | none => do
      require (env.approvalsBytes file ≤ maxApprovalsFileBytes)
        (s!"approval state exceeds {maxApprovalsFileBytes} byte budget " ++
          s!"({env.approvalsBytes file})")
      require (file.entries.length ≤ maxApprovalsEntries)
        (s!"approval state exceeds {maxApprovalsEntries} entry budget " ++
          s!"({file.entries.length})")
      forEach (fun entry =>
        require (env.recordBytes entry.2 ≤ maxApprovalValueBytes)
          (s!"approval state entry {entry.1} exceeds {maxApprovalValueBytes} byte budget " ++
            s!"({env.recordBytes entry.2})")) file.toList
      pure file

/-- What a start of the daemon needs besides the records. -/
def startDaemon : Program (ApprovalRuntime ω) String ApprovalTable := do
  let approvals ← loadApprovals env
  match ← ask env.startup with
  | some reason => fail reason
  | none => pure approvals

/-- The daemon is gone, with its memory and the work it was waiting for, and is started
again; a start that fails leaves no daemon. -/
def reload (s : ApprovalRuntime ω) : ApprovalRuntime ω :=
  match (startDaemon env).run s with
  | (.ok approvals, t) =>
    { t with
      approvals := approvals
      grants := t.grantsFile
      journal := restart env.journal t.journal
      running := true
      inFlight := [] }
  | (.error _, t) => { t with approvals := ∅, running := false, inFlight := [] }

/-! ## Steps -/

/-- Work that an admission hands out is in flight until it is finalized. -/
def launch : GateOutcome → ApprovalM ω Unit
  | .reply _ => pure ()
  | .run work => Program.modify fun s => { s with inFlight := work :: s.inFlight }

inductive ApprovalRequest where
  | approve (params : ApproveParams) (client : String)
  | bridge (params : AdminApprovalBridgeParams) (approver : String)
  | decide (params : DecisionParams)
  | deny (id client : String)
  | denyBridge (bridgeId : String) (params : AdminApprovalBridgeParams) (approver : String)

def ApprovalRequest.perform : ApprovalRequest → ApprovalM ω Unit
  | .approve params client => admitApprovalApprove env params client >>= launch
  | .bridge params approver => admitApprovalBridge env params approver >>= launch
  | .decide params => admitControlPlaneApprovalDecision env params >>= launch
  | .deny id client => do
    let _ ← handleApprovalDeny env id client
    pure ()
  | .denyBridge bridgeId params approver => do
    let _ ← denyApprovalBridge env bridgeId params approver
    pure ()

inductive ApprovalEvent where
  | request (request : ApprovalRequest)
  | enqueued (id : String) (record : ApprovalRecord)
  | finalized (work : AllowedWork) (executed : Except IpcError Value)
  | background
  | reloaded

/-- One step of the daemon.  A new record is pending and its id is not in use; work that is
in flight is finalized with any outcome; the rest of the daemon does anything to the journal
and the grants.  A crash inside a step is a step whose remaining writes fail, and a reload. -/
inductive ApprovalStep : ApprovalRuntime ω → ApprovalEvent → ApprovalRuntime ω → Prop where
  | request {s : ApprovalRuntime ω} (running : s.running = true) (request : ApprovalRequest) :
      ApprovalStep s (.request request) ((request.perform env).run s).2
  | enqueue {s : ApprovalRuntime ω} (running : s.running = true) (id : String)
      (record : ApprovalRecord) (pending : record.state = .pending)
      (fresh : s.approvals.lookup id = none) :
      ApprovalStep s (.enqueued id record) ((enqueueApproval env id record).run s).2
  | finalize {s : ApprovalRuntime ω} (running : s.running = true) {before after : List AllowedWork}
      (work : AllowedWork) (inFlight : s.inFlight = before ++ work :: after)
      (executed : Except IpcError Value) :
      ApprovalStep s (.finalized work executed)
        ((finalizeAllowed env work executed).run { s with inFlight := before ++ after }).2
  | background {s : ApprovalRuntime ω} (running : s.running = true) (journal : Journal ω)
      (grants grantsFile : List StoredGrant) :
      ApprovalStep s .background
        { s with journal := journal, grants := grants, grantsFile := grantsFile }
  | reload (s : ApprovalRuntime ω) : ApprovalStep s .reloaded (reload env s)

end Handlers

end OwnMesh.Approvals
