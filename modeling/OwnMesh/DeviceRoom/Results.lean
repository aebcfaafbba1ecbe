import OwnMesh.ControlPlane.Stores
import OwnMesh.DeviceRoom.Router

/-!
# Results of operations

A result that a device reports is brought onto the row of its operation: the row is found, the
result is checked against what the row binds, the status is read off the payload, and the row is
changed if its status still allows it.  A result about workspaces also changes what is known of
them.  `applyMcpOperationResult` is the one place where this happens; an operation that has
expired is failed through it, and a redelivery fails what has lost its authority.

The functions that check the results of the transfer tools, and the one that makes a diagnosis
safe to keep, look at the operation and the payload only; they are given as `ResultRules`.
-/

namespace OwnMesh.DeviceRoom

open ControlPlane Foundations Ipc

/-- What a room asks the stores. -/
abbrev RoomRoutine (α : Type) : Type := Routine StoreCall.Answer α

/-- The platform's conversions, and the checks that keep only what a tool may report. -/
structure ResultRules where
  enc : Encoding
  (lower encodeUriComponent : String → String)
  safeInteger : Json → Option Int
  timestamp : Int → String
  sanitizeTransferPreflightResult : Operation → Fields → Except String Fields
  sanitizeTransferArtifactResult : Operation → Fields → Except String Fields
  sanitizeTransferStartResult : Operation → Fields → Except String Fields
  sanitizeTransferCancelControlResult : Operation → Fields → Except String Fields
  sanitizeTransferSourceCleanupResult : Operation → Fields → Except String Fields
  normalizeSystemDiagnosis : Option Fields → Device → Fields

structure ResultOptions where
  (operationId correlationId : Option String)
  payload : Fields
  deviceId : Option String
  expectedApprovalDecision : Option ApprovalDecisionBinding
  issuer : Option String

inductive ResultOutcome where
  | applied (record : Option Operation) (roomOnly : Bool)
  | rejected (error : String)
  /-- A store call has thrown. -/
  | threw (error : OperationError)

/-! ## Values -/

/-- A text that is there and not empty. -/
def given (text : Option String) : Option String := text.filter (· ≠ "")

/-- A value that is there and not null, as a text. -/
def textOf (enc : Encoding) (value : Option Json) : Option String :=
  (value.filter fun value => !value.isNull).map enc.string

/-- A value that is there and counts as true, as a text. -/
def truthyText (enc : Encoding) (value : Option Json) : Option String :=
  (value.filter Json.isTruthy).map enc.string

/-- The members of a value that is an object, or the items of an array under their indices. -/
def asRecord (value : Option Json) : Option Fields :=
  match value with
  | some (.object members) => some members
  | some (.array items) => some (Json.array items).members
  | _ => none

/-- A value that is an object or an array, as it is. -/
def asObject (value : Option Json) : Option Json :=
  value.filter fun value =>
    match value with
    | .object _ => true
    | .array _ => true
    | _ => false

/-- Set a member, or take it away. -/
def setOrErase (fields : Fields) (name : String) (value : Option Json) : Fields :=
  match value with
  | some value => fields.set name value
  | none => fields.erase name

/-- Two values are the same primitive value. -/
def strictEqual : Option Json → Option Json → Bool
  | none, none => true
  | some .null, some .null => true
  | some (.bool a), some (.bool b) => a = b
  | some (.number a), some (.number b) => a = b
  | some (.text a), some (.text b) => a = b
  | _, _ => false

/-! ## The status of a result -/

variable (rules : ResultRules)

/-- The error of a payload, and its details. -/
def errorObject (payload : Fields) : Option Fields := asRecord (payload.get "error")

def errorCode (payload : Fields) : String :=
  (textOf rules.enc ((errorObject payload).bind fun error => error.get "code")).getD ""

def errorDetails (payload : Fields) : Option Fields :=
  asRecord ((errorObject payload).bind fun error => error.get "details")

def isTrue (value : Option Json) : Bool := value.bind Json.asBool = some true

/-- The device asks for an approval. -/
def asksApproval (payload : Fields) : Bool :=
  errorCode rules payload = "OWNMESH_E_APPROVAL_REQUIRED" ||
    isTrue (payload.get "approval_required") ||
    isTrue ((errorDetails payload).bind fun details => details.get "approval_required")

def rawResultStatus (payload : Fields) : String :=
  rules.enc.stringOr (payload.get "status") "completed"

/-- The status that a payload reports. -/
def reportedStatus (payload : Fields) : OperationStatus :=
  if asksApproval rules payload then .approvalRequired
  else if (payload.get "decision").bind Json.asText = some "deny" then .denied
  else if rawResultStatus rules payload = "ok" then .completed
  else .ofName (rawResultStatus rules payload)

/-- The statuses that a device may report as its last word. -/
def isReportable : OperationStatus → Bool
  | .completed => true
  | .failed => true
  | .denied => true
  | .cancelled => true
  | .deviceOffline => true
  | .approvalRequired => true
  | _ => false

/-- The status that is written: the reported one, or progress of the one that was read. -/
def resultStatus (payload : Fields) (read : OperationStatus) : OperationStatus :=
  if isReportable (reportedStatus rules payload) then reportedStatus rules payload
  else if read = .pending then .running
  else read

/-- The statuses from which a result may be written. -/
def resultFromStatuses : List OperationStatus :=
  [.pending, .running, .approvalRequired, .cancelRequested]

/-! ## Calls -/

def getOperation (operationId : String) : RoomRoutine (Option Operation) :=
  .ask (.getOperation operationId) .done

def getByCorrelation (correlationId : String) : RoomRoutine (Option Operation) :=
  .ask (.getByCorrelation correlationId) .done

def updateOperation (operationId : String) (patch : OperationPatch) :
    RoomRoutine (Except OperationError (Option Operation)) :=
  .ask (.updateOperation operationId patch resultFromStatuses) .done

def getDevice (deviceId : String) : RoomRoutine (Option Device) :=
  .ask (.getDevice deviceId) .done

def getWorkspace (deviceId workspaceId : String) : RoomRoutine (Option Workspace) :=
  .ask (.getWorkspace deviceId workspaceId) .done

def observeWorkspaceGeneration (deviceId workspaceId generation : String) : RoomRoutine Unit :=
  .ask (.observeWorkspaceGeneration deviceId workspaceId generation) fun _ => .done ()

def deactivateWorkspace (deviceId workspaceId : String) : RoomRoutine Unit :=
  .ask (.deactivateWorkspace deviceId workspaceId) fun _ => .done ()

def recordObservedWorkspaceEnforcement (deviceId : String) (enforce : Bool) : RoomRoutine Unit :=
  .ask (.recordObservedWorkspaceEnforcement deviceId enforce) fun _ => .done ()

/-- Ask about a text that is there and not empty. -/
def ifGiven {α : Type} (text : Option String) (ask : String → RoomRoutine (Option α)) :
    RoomRoutine (Option α) :=
  match given text with
  | some text => ask text
  | none => pure none

/-- Go on searching while nothing has been found. -/
def orSearch {α : Type} (found : Option α) (search : RoomRoutine (Option α)) :
    RoomRoutine (Option α) :=
  match found with
  | some a => pure (some a)
  | none => search

def whenever (condition : Bool) (act : RoomRoutine Unit) : RoomRoutine Unit :=
  if condition then act else pure ()

/-- Act on a value that is there. -/
def forSome {α : Type} (value : Option α) (act : α → RoomRoutine Unit) : RoomRoutine Unit :=
  match value with
  | some value => act value
  | none => pure ()

/-! ## The operation of a result -/

/-- The operation that the payload claims to be about. -/
def payloadOperationId (opts : ResultOptions) : Option String :=
  textOf rules.enc (opts.payload.get "operation_id")

def wantedOperationId (opts : ResultOptions) : Option String :=
  given opts.operationId <|> payloadOperationId rules opts

/-- The row that the result is about. -/
def findOperation (opts : ResultOptions) : RoomRoutine (Option Operation) := do
  let wanted := wantedOperationId rules opts
  let byId ← ifGiven wanted getOperation
  let byEither ← orSearch byId (ifGiven opts.correlationId getByCorrelation)
  orSearch byEither
    (ifGiven ((payloadOperationId rules opts).filter (some · ≠ wanted)) getOperation)

/-! ## Results without a row -/

/-- The result answers a control request, not an operation. -/
def looksLikeCancelControl (result : Fields) : Bool :=
  result.has "cancelled" || result.has "signal_delivered" || result.has "target_operation_id"

/-- The status of an operation whose approval has been decided. -/
def decidedStatus (result : Fields) (applied : Bool) (decision incoming : String) :
    OperationStatus :=
  if applied = false || incoming = "failed" then .failed
  else if decision = "deny" then .denied
  else if (result.get "state").bind Json.asText = some "denied" then .denied
  else .completed

/-- What is kept of the execution of a decided operation. -/
def executionData (payload result : Fields) (status : OperationStatus) : Json :=
  if status = .failed then
    .object [("error", (asObject (payload.get "error")).getD (.object
      [("code", .text "OWNMESH_E_APPROVAL_DECISION_FAILED"),
        ("message", .text "device rejected the approval decision")]))]
  else (asObject (result.get "result")).getD (.object result)

/-- The change of an operation whose approval has been decided. -/
def decisionPatch (payload result : Fields) (applied : Bool) (decision : String)
    (status : OperationStatus) (target : Operation) : OperationPatch :=
  let approvalId := textOf rules.enc (result.get "approval_id") <|> target.approvalId
  let message := (errorObject payload).bind fun error => error.get "message"
  let data := target.data.set "approval_decision"
    (.text (if decision = "" then status.name else decision))
  let data := data.set "approval_decision_applied" (.bool applied)
  let data := setOrErase data "approval_id" (approvalId.map .text)
  { status := some status
    summary := some
      (if status = .denied then "human denied via control-plane recovery approval"
      else if status = .failed then rules.enc.stringOr message "approved execution failed"
      else "human approved; device executed deferred operation")
    data := some (data.set "execution" (executionData payload result status))
    approvalRequired := some false
    approvalId := some approvalId }

/-- The decision in a result is the one that was sent. -/
def decisionMatches (expected : Option ApprovalDecisionBinding) (result : Fields)
    (target decision : String) : Option ApprovalDecisionBinding :=
  expected.filter fun binding =>
    binding.targetOperationId = target && binding.decision = decision &&
      binding.approvalId = rules.enc.stringOr (result.get "approval_id") ""

/-- The target of a decision binds it. -/
def targetBinds (binding : ApprovalDecisionBinding) (target : Operation) : Bool :=
  (target.data.get "approval_decision").bind Json.asText = some binding.decision &&
    (target.data.get "approval_transaction_id").bind Json.asText = some binding.transactionId &&
    (target.data.get "approval_device_id").bind Json.asText = some binding.approvalId

/-- The statuses that a late decision accepts as the outcome of another. -/
def isSettled : OperationStatus → Bool
  | .completed => true
  | .failed => true
  | .denied => true
  | .cancelled => true
  | _ => false

/-- Bring the result of an approval decision onto the operation it decides. -/
def applyDecision (opts : ResultOptions) (result : Fields) (applied : Bool)
    (targetId decision incoming : String) : RoomRoutine ResultOutcome :=
  match decisionMatches rules opts.expectedApprovalDecision result targetId decision with
  | none => pure (.rejected "approval_decision_binding_mismatch")
  | some binding => do
    match ← getOperation targetId with
    | none => pure (.rejected "unknown_operation")
    | some target =>
      if (given opts.deviceId).isSome && (given target.deviceId).isSome &&
          opts.deviceId ≠ target.deviceId then
        pure (.rejected "device_mismatch")
      else if !targetBinds binding target then
        pure (.rejected "approval_decision_target_binding_mismatch")
      else
        let status := decidedStatus result applied decision incoming
        match ← updateOperation target.operationId
            (decisionPatch rules opts.payload result applied decision status target) with
        | .error e => pure (.threw e)
        | .ok (some updated) => pure (.applied (some updated) false)
        | .ok none => do
          match ← getOperation targetId with
          | some cur =>
            if isSettled cur.status then pure (.applied (some cur) false)
            else pure (.rejected "cas_conflict")
          | none => pure (.rejected "cas_conflict")

/-- A result whose operation has no row. -/
def applyWithoutRow (opts : ResultOptions) : RoomRoutine ResultOutcome :=
  if (given (wantedOperationId rules opts)).isNone then pure (.applied none true)
  else
    match objectMembers (opts.payload.get "result") with
    | none => pure (.rejected "unknown_operation")
    | some result =>
      let incoming := rawResultStatus rules opts.payload
      if looksLikeCancelControl result &&
          (incoming = "completed" || incoming = "failed" || incoming = "denied") then
        let decision := rules.lower (rules.enc.stringOr (result.get "decision") "")
        let target := (textOf rules.enc (result.get "target_operation_id")).filter
          fun targetId => trim targetId ≠ ""
        match (result.get "approval_decision_applied").bind Json.asBool, target with
        | some applied, some targetId =>
          if decision = "approve" || decision = "deny" then
            applyDecision rules opts result applied targetId decision incoming
          else if incoming = "completed" then pure (.applied none true)
          else pure (.rejected "unknown_operation")
        | _, _ =>
          if incoming = "completed" then pure (.applied none true)
          else pure (.rejected "unknown_operation")
      else pure (.rejected "unknown_operation")

/-! ## What a row binds -/

/-- The row is the one that the result names, or the error. -/
def bindOperation (opts : ResultOptions) (op : Operation) : RoomRoutine (Option String) :=
  if (given opts.operationId).any (· ≠ op.operationId) then pure (some "operation_id_mismatch")
  else if (given (payloadOperationId rules opts)).any (· ≠ op.operationId) then
    pure (some "operation_id_mismatch")
  else if (given opts.correlationId).any fun correlationId =>
      (given op.correlationId).any (correlationId ≠ ·) then
    pure (some "correlation_mismatch")
  else do
    let byCorrelation ← ifGiven
      (opts.correlationId.filter fun _ => (given opts.operationId).isSome) getByCorrelation
    if byCorrelation.any (·.operationId ≠ op.operationId) then
      pure (some "correlation_mismatch")
    else if (given opts.deviceId).any fun deviceId => given op.deviceId ≠ some deviceId then
      pure (some "device_mismatch")
    else pure none

/-- The tools whose result must name the workspace that the operation was bound to. -/
def workspaceBoundResultTools : List String :=
  ["ownmesh_system_diagnose",
    "ownmesh_fs_list", "ownmesh_list_files", "ownmesh_fs_stat", "ownmesh_fs_read",
    "ownmesh_read_file", "ownmesh_fs_write", "ownmesh_write_file", "ownmesh_fs_patch",
    "ownmesh_fs_delete", "ownmesh_command_run", "ownmesh_run_command", "ownmesh_command_shell",
    "ownmesh_run_shell", "ownmesh_git_status", "ownmesh_git_diff"]

/-- The column of an operation as a value. -/
def columnValue (column : Option String) : Json :=
  match column with
  | some text => .text text
  | none => .null

/-- A completed result names another workspace than the operation. -/
def workspaceMismatch (op : Operation) (payload : Fields) : Bool :=
  let version := op.action.bind fun action => action.get "workspace_version"
  let contract := op.action.any fun action => action.has "workspace_version"
  let completes :=
    rawResultStatus rules payload = "completed" || rawResultStatus rules payload = "ok"
  if op.tool ∈ workspaceBoundResultTools && completes && (op.workspaceId.isSome || contract) then
    match asRecord (payload.get "result") with
    | none => true
    | some result =>
      let validVersion :=
        if op.workspaceId.isNone then version.any Json.isNull
        else (version.bind rules.safeInteger).any (0 < ·)
      !strictEqual (result.get "workspace_id") (some (columnValue op.workspaceId)) ||
        (contract && (!validVersion || !strictEqual (result.get "workspace_version") version))
  else false

/-! ## The data of a result -/

def isTransferPreflight (tool : String) : Bool :=
  tool = "__transfer_preflight_source" || tool = "__transfer_preflight_source_final" ||
    tool = "__transfer_preflight_destination"

def isTransferStart (tool : String) : Bool :=
  tool = "__transfer_start_source" || tool = "__transfer_start_destination"

def isInternalTransferTool (tool : String) : Bool :=
  isTransferStart tool || isTransferPreflight tool || tool = "__transfer_artifact_get" ||
    tool = "__transfer_cancel_control" || tool = "__transfer_source_cleanup"

def internalTransferFailureSummary (tool : String) (status : OperationStatus) : String :=
  let summary (subject : String) : String :=
    subject ++ if status = .approvalRequired then " requires approval" else " failed"
  if isTransferPreflight tool then summary "transfer preflight"
  else if tool = "__transfer_artifact_get" then summary "transfer artifact request"
  else if tool = "__transfer_cancel_control" then summary "transfer cancellation control"
  else if tool = "__transfer_source_cleanup" then summary "transfer source cleanup"
  else summary "transfer start"

/-- The data that is kept, and the summary where the tool has one of its own. -/
structure ResultData where
  data : Fields
  safeSummary : Option String := none

/-- A completed result as its check leaves it; any other outcome keeps nothing. -/
def sanitizedData (check : Operation → Fields → Except String Fields) (op : Operation)
    (payload : Fields) (status : OperationStatus) : Except String ResultData :=
  if status = .completed then
    match check op payload with
    | .error error => .error error
    | .ok data => .ok { data := data }
  else
    .ok { data := [], safeSummary := some (internalTransferFailureSummary op.tool status) }

/-- A start that did not complete keeps a code that asks for a fresh connection. -/
def startFailure (op : Operation) (payload : Fields) (status : OperationStatus) : ResultData :=
  let code := errorCode rules payload
  if status ≠ .approvalRequired &&
      (code = "OWNMESH_E_TRANSFER_RECONNECT" || code = "OWNMESH_E_TRANSFER_SESSION_LOST" ||
        code = "OWNMESH_E_TRANSFER_CLEANUP_PENDING") then
    { data := [("error", .object [("code", .text code)])]
      safeSummary := some "transfer start requires a fresh connection proof" }
  else
    { data := [], safeSummary := some (internalTransferFailureSummary op.tool status) }

/-- The data of an approval that the device asks for. -/
def approvalData (payload details data : Fields) : Fields :=
  let error := errorObject payload
  let orElse (first second : Option Json) : Option Json :=
    (first.filter fun value => !value.isNull) <|> second
  let data := data.set "approval_required" (.bool true)
  let data := setOrErase data "approval_id"
    (orElse (details.get "approval_id") (payload.get "approval_id"))
  let data := setOrErase data "reason"
    (orElse (details.get "reason") (error.bind fun error => error.get "message"))
  setOrErase data "error" (asObject (payload.get "error"))

/-- The data of a result, or why it is rejected. -/
def resultData (op : Operation) (payload : Fields) (status : OperationStatus) :
    RoomRoutine (Except String ResultData) :=
  let raw := (asRecord (payload.get "result")).getD payload
  if op.tool = "ownmesh_system_diagnose" then do
    match ← ifGiven op.deviceId getDevice with
    | none => pure (.error "diagnosis_device_missing")
    | some device =>
      let completed := status = .completed
      pure (.ok
        { data :=
            rules.normalizeSystemDiagnosis (if completed then some raw else none) device
          safeSummary := some
            (if completed then "system diagnosis completed"
            else "system diagnosis unavailable") })
  else if isTransferPreflight op.tool then
    pure (sanitizedData rules.sanitizeTransferPreflightResult op payload status)
  else if op.tool = "__transfer_artifact_get" then
    pure (sanitizedData rules.sanitizeTransferArtifactResult op payload status)
  else if isTransferStart op.tool then
    if status = .completed then
      pure (sanitizedData rules.sanitizeTransferStartResult op payload status)
    else pure (.ok (startFailure rules op payload status))
  else if op.tool = "__transfer_cancel_control" then
    pure (sanitizedData rules.sanitizeTransferCancelControlResult op payload status)
  else if op.tool = "__transfer_source_cleanup" then
    pure (sanitizedData rules.sanitizeTransferSourceCleanupResult op payload status)
  else
    match errorDetails payload with
    | some details =>
      if status = .approvalRequired then pure (.ok { data := approvalData payload details raw })
      else pure (.ok { data := raw })
    | none => pure (.ok { data := raw })

/-! ## What a result says about workspaces -/

structure WorkspaceActivationView where
  (activationState activationReason nextAction : String)

def workspaceActivationView (workspace : Option Workspace) : WorkspaceActivationView :=
  match workspace with
  | none => ⟨"unavailable", "not_found", "select_active_workspace"⟩
  | some workspace =>
    if workspace.localGeneration.isNone then
      ⟨"pending_activation", "pending_activation", "retry_activation"⟩
    else if !workspace.active then ⟨"unavailable", "inactive", "select_active_workspace"⟩
    else ⟨"active", "ready", "none"⟩

def annotateWorkspaceRecord (data : Fields) (workspace : Option Workspace) : Fields :=
  let view := workspaceActivationView workspace
  (data.erase "generation").assign
    [("activation_state", .text view.activationState),
      ("activation_reason", .text view.activationReason),
      ("next_action", .text view.nextAction)]

def workspaceRootEnforcementNote : String :=
  "Independent of access_preset. When true, filesystem and command tools require a registered " ++
    "workspace. Full Access still allows an explicitly permitted absolute path only with " ++
    "workspace_id: null."

def annotatePolicyObservation (data : Fields) (enforceWorkspace : Option Bool) : Fields :=
  data.assign
    [("workspace_root_enforcement", .bool (enforceWorkspace = some true)),
      ("enforce_workspace", .bool (enforceWorkspace = some true)),
      ("workspace_root_enforcement_note", .text workspaceRootEnforcementNote)]

def annotateWorkspaceList (data : Fields) (records : List (String × Workspace))
    (enforceWorkspace : Option Bool) : Fields :=
  let entries := match data.get "workspaces" with
    | some (.array entries) => entries
    | _ => []
  let annotated := entries.map fun entry =>
    match asRecord (some entry) with
    | none => entry
    | some row =>
      let id := ((row.get "id").bind Json.asText).getD ""
      .object (annotateWorkspaceRecord row
        ((records.find? fun record => record.1 = id).map Prod.snd))
  (data.erase "enforce_workspace").assign
    [("workspaces", .array annotated),
      ("workspace_root_enforcement", .bool (enforceWorkspace = some true)),
      ("enforce_workspace", .bool (enforceWorkspace = some true)),
      ("workspace_root_enforcement_note", .text workspaceRootEnforcementNote)]

/-- The listed workspaces, as far as they are records. -/
def listedWorkspaces (data : Fields) : List Fields :=
  match data.get "workspaces" with
  | some (.array entries) => entries.filterMap fun entry => asRecord (some entry)
  | _ => []

/-- Take note of every listed workspace with its generation. -/
def observeListed (deviceId : String) : List Fields → RoomRoutine Unit
  | [] => pure ()
  | row :: rest => do
    forSome (parseWorkspaceId (row.get "id")) fun id =>
      forSome (parseWorkspaceGeneration (row.get "generation")) fun generation =>
        observeWorkspaceGeneration deviceId id generation
    observeListed deviceId rest

/-- Read the listed workspaces. -/
def readListed (deviceId : String) : List Fields → RoomRoutine (List (String × Workspace))
  | [] => pure []
  | row :: rest =>
    match (row.get "id").bind Json.asText with
    | none => readListed deviceId rest
    | some id => do
      let found ← getWorkspace deviceId id
      let others ← readListed deviceId rest
      pure ((found.map fun record => (id, record)).toList ++ others)

def isWorkspaceRecordTool (tool : String) : Bool :=
  tool = "ownmesh_workspace_add" || tool = "ownmesh_workspace_update" ||
    tool = "ownmesh_workspace_show"

def isPolicyTool (tool : String) : Bool :=
  tool = "ownmesh_policy_show" || tool = "ownmesh_policy_preset"

/-- The enforcement of workspaces that the data reports. -/
def reportedEnforcement (data : Fields) : Option Bool :=
  (data.get "workspace_root_enforcement").bind Json.asBool <|>
    (data.get "enforce_workspace").bind Json.asBool

/-- The workspace that a result is about. -/
def resultWorkspace (op : Operation) (data : Fields) : Option String :=
  parseWorkspaceId (op.workspaceId.map .text) <|> parseWorkspaceId (data.get "id")

/-- The result is about the workspace that the operation reserved. -/
def matchesReservation (op : Operation) (data : Fields) : Bool :=
  (parseWorkspaceId (op.workspaceId.map .text)).all fun reserved =>
    (parseWorkspaceId (data.get "id")).all (· = reserved)

/-- What a completed result changes of the workspaces. -/
def completedEffects (deviceId : String) (op : Operation) (data : Fields) : RoomRoutine Unit := do
  whenever (matchesReservation op data && isWorkspaceRecordTool op.tool)
    (forSome (resultWorkspace op data) fun id =>
      forSome (parseWorkspaceGeneration (data.get "generation")) fun generation =>
        observeWorkspaceGeneration deviceId id generation)
  whenever (op.tool = "ownmesh_workspace_list") (observeListed deviceId (listedWorkspaces data))
  whenever (op.tool = "ownmesh_workspace_remove")
    (forSome (resultWorkspace op data) fun id => deactivateWorkspace deviceId id)
  whenever (op.tool = "ownmesh_workspace_list" || isPolicyTool op.tool)
    (forSome (reportedEnforcement data) fun enforce =>
      recordObservedWorkspaceEnforcement deviceId enforce)

/-- A failed removal drops a workspace that was never activated. -/
def failedEffects (deviceId : String) (op : Operation) (data : Fields) : RoomRoutine Unit :=
  whenever (op.tool = "ownmesh_workspace_remove")
    (forSome (resultWorkspace op data) fun id => do
      let existing ← getWorkspace deviceId id
      whenever (existing.any (·.localGeneration.isNone)) (deactivateWorkspace deviceId id))

/-- The data of a result with what is known of its workspaces. -/
def annotateResult (deviceId : String) (op : Operation) (data : Fields) : RoomRoutine Fields := do
  let device ← getDevice deviceId
  let enforce := device.bind (·.enforceWorkspace)
  if op.tool = "ownmesh_workspace_list" then do
    let records ← readListed deviceId (listedWorkspaces data)
    pure (annotateWorkspaceList data records.reverse enforce)
  else if isWorkspaceRecordTool op.tool || op.tool = "ownmesh_workspace_remove" then do
    let record ← ifGiven (resultWorkspace op data) (getWorkspace deviceId)
    pure (annotateWorkspaceRecord data record)
  else if isPolicyTool op.tool then pure (annotatePolicyObservation data enforce)
  else pure data

def applyWorkspaceActivationSideEffects (deviceId : String) (op : Operation) (data : Fields)
    (status : OperationStatus) : RoomRoutine Fields := do
  whenever (status = .completed) (completedEffects deviceId op data)
  whenever (status = .failed) (failedEffects deviceId op data)
  annotateResult deviceId op data

/-! ## The change of the row -/

def approvalUrlFromIssuer (issuer : Option String) (operationId : String) : Option String :=
  let text := issuer.getD ""
  let base := if text.endsWith "/" then String.ofList text.toList.dropLast else text
  let lowered := rules.lower base
  if lowered.startsWith "http://" || lowered.startsWith "https://" then
    some (base ++ "/approve?operation_id=" ++ rules.encodeUriComponent operationId)
  else none

/-- The continuation of a result: its own cursor, the row's, or its next offset. -/
def resultCursor (op : Operation) (data : Fields) : Option String :=
  let cursor := (data.get "next_cursor").bind Json.asText <|> op.nextCursor
  match given cursor, textOf rules.enc (data.get "next_offset") with
  | none, some offset => if offset ≠ "" then some ("off_" ++ offset) else cursor
  | _, _ => cursor

/-- The summary of a result: the first text that is there. -/
def resultSummary (op : Operation) (payload : Fields) (safeSummary : Option String)
    (status : OperationStatus) : String :=
  let reason := (errorDetails payload).bind fun details => textOf rules.enc (details.get "reason")
  let message := (errorObject payload).bind fun error => textOf rules.enc (error.get "message")
  (given safeSummary <|> truthyText rules.enc (payload.get "summary") <|> given reason <|>
    given message <|> truthyText rules.enc (payload.get "reason") <|>
    given (some op.summary)).getD status.name

def resultApprovalId (op : Operation) (payload : Fields) : Option String :=
  if isInternalTransferTool op.tool then op.approvalId
  else
    let detailed :=
      (errorDetails payload).bind fun details => textOf rules.enc (details.get "approval_id")
    given detailed <|> given (truthyText rules.enc (payload.get "approval_id")) <|> op.approvalId

def resultPatch (opts : ResultOptions) (op : Operation) (status : OperationStatus)
    (data : Fields) (safeSummary : Option String) : OperationPatch where
  status := some status
  summary := some (resultSummary rules op opts.payload safeSummary status)
  data := some data
  truncated := some
    (isTrue (data.get "truncated") || isTrue (data.get "durable_truncated") || op.truncated)
  nextCursor := some (resultCursor rules op data)
  approvalRequired := some (status = .approvalRequired)
  approvalUrl := some
    (if status = .approvalRequired then approvalUrlFromIssuer rules opts.issuer op.operationId
    else op.approvalUrl)
  approvalId := some (resultApprovalId rules op opts.payload)
  sessionId := some
    (if isInternalTransferTool op.tool || op.tool = "ownmesh_system_diagnose" then op.sessionId
    else textOf rules.enc (opts.payload.get "session_id") <|> op.sessionId)

/-- The data of a result, after what it changes of the workspaces. -/
def resultEffects (op : Operation) (status : OperationStatus) (data : Fields) :
    RoomRoutine Fields :=
  match given op.deviceId with
  | some deviceId =>
    if status = .completed || status = .failed then
      applyWorkspaceActivationSideEffects deviceId op data status
    else pure data
  | none => pure data

/-- Write the result onto its row. -/
def writeResult (opts : ResultOptions) (op : Operation) (status : OperationStatus)
    (kept : ResultData) : RoomRoutine ResultOutcome := do
  let data ← resultEffects op status kept.data
  match ← updateOperation op.operationId
      (resultPatch rules opts op status data kept.safeSummary) with
  | .error e => pure (.threw e)
  | .ok none => pure (.rejected "cas_conflict")
  | .ok (some updated) => pure (.applied (some updated) false)

/-- A result whose operation has a row. -/
def applyToRow (opts : ResultOptions) (op : Operation) : RoomRoutine ResultOutcome := do
  match ← bindOperation rules opts op with
  | some error => pure (.rejected error)
  | none =>
    if workspaceMismatch rules op opts.payload then
      pure (.rejected "workspace_result_mismatch")
    else
      let status := resultStatus rules opts.payload op.status
      match ← resultData rules op opts.payload status with
      | .error error => pure (.rejected error)
      | .ok kept => writeResult rules opts op status kept

/-- Bring a result onto the row of its operation. -/
def applyMcpOperationResult (opts : ResultOptions) : RoomRoutine ResultOutcome := do
  match ← findOperation rules opts with
  | none => applyWithoutRow rules opts
  | some op => applyToRow rules opts op

/-! ## Expiry and redelivery -/

def expiredError : Json :=
  .object
    [("code", .text "OWNMESH_E_OPERATION_EXPIRED"),
      ("message", .text "operation expired before a device result arrived"),
      ("retryable", .bool true)]

/-- The result that an expired operation is failed with. -/
def expiredPayload (parseDate : String → Option Int) (operationId : String)
    (pending : PendingOperation) : Fields :=
  let result := match approvalDecisionBindingFromPayload rules.enc rules.lower pending.payload with
    | some binding =>
      [("approval_decision_applied", .bool false),
        ("target_operation_id", .text binding.targetOperationId),
        ("approval_id", .text binding.approvalId),
        ("decision", .text binding.decision)]
    | none =>
      [("phase", .text "expired"),
        ("expires_at",
          match pendingDeadlineMs parseDate pending with
          | some deadline => .text (rules.timestamp deadline)
          | none => .null),
        ("error", expiredError)]
  [("operation_contract", .text operationContractV1), ("operation_id", .text operationId),
    ("status", .text "failed"), ("result", .object result), ("error", expiredError)]

/-- How a reconciliation ends. -/
inductive ReconcileOutcome where
  | finished
  | expiryRejected (error : String)
  | storageUnavailable
  | threw (error : OperationError)

/-- Fail the operations that have expired. -/
def reconcileExpiredPending (parseDate : String → Option Int) (deviceId : String) :
    List PendingOperation → RoomRoutine ReconcileOutcome
  | [] => pure .finished
  | pending :: rest =>
    match given ((pending.payload.get "operation_id").bind Json.asText) with
    | none => reconcileExpiredPending parseDate deviceId rest
    | some operationId =>
      if operationId ≠ pending.correlationId || deviceId = "unknown" then
        reconcileExpiredPending parseDate deviceId rest
      else do
        match ← applyMcpOperationResult rules
            { operationId := some operationId
              correlationId := some pending.correlationId
              payload := expiredPayload rules parseDate operationId pending
              deviceId := some deviceId
              expectedApprovalDecision :=
                approvalDecisionBindingFromPayload rules.enc rules.lower pending.payload
              issuer := none } with
        | .threw e => pure (.threw e)
        | .applied _ _ => reconcileExpiredPending parseDate deviceId rest
        | .rejected error =>
          if error = "cas_conflict" then reconcileExpiredPending parseDate deviceId rest
          else pure (.expiryRejected error)

/-- The change of an operation that may not be delivered any more. -/
def undeliverable (summary : String) (error : Fields) : OperationTransition where
  status := .failed
  summary := some summary
  data := some [("error", .object error)]
  approvalRequired := some false

def workspaceChangedError : Fields :=
  [("code", .text "OWNMESH_E_WORKSPACE_AUTHORITY_CHANGED"),
    ("message", .text "workspace mapping changed before device delivery"),
    ("retryable", .bool false)]

/-- Check the pending operations before they are sent again, and fail those that have lost
their authority.  The summary and the error of a lost credential are given. -/
def recheckPending (invalidation : Fields → String × Fields) :
    List PendingOperation → RoomRoutine ReconcileOutcome
  | [] => pure .finished
  | pending :: rest =>
    if pending.liveOnly then recheckPending invalidation rest
    else
      let operationId := ((pending.payload.get "operation_id").bind Json.asText).getD
        pending.correlationId
      let fail (summary : String) (error : Fields) : RoomRoutine ReconcileOutcome :=
        .ask (.transitionOperation operationId (undeliverable summary error) resultFromStatuses)
          fun
            | .error e => .done (.threw e)
            | .ok _ => recheckPending invalidation rest
      .ask (.getOperation operationId) fun operation =>
        if (operation : Option Operation).any fun op => isDispatchFence op.status then
          recheckPending invalidation rest
        else
          .ask (.workspaceAuthorityCurrent pending.payload operation) fun
            | .storageUnavailable => .done .storageUnavailable
            | .ok =>
              .ask (.credentialGenerationCurrent pending.payload) fun
                | .ok => recheckPending invalidation rest
                | .storageUnavailable => .done .storageUnavailable
                | _ =>
                  let reason := invalidation pending.payload
                  fail reason.1 reason.2
            | _ =>
              fail "workspace authority changed before device delivery"
                workspaceChangedError

/-! ## Which calls are made -/

/-- The call reads. -/
def isRead : StoreCall → Prop
  | .getOperation _ => True
  | .getByCorrelation _ => True
  | .getDevice _ => True
  | .getWorkspace _ _ => True
  | .workspaceAuthorityCurrent _ _ => True
  | .credentialGenerationCurrent _ => True
  | _ => False

/-- The call takes note of what a device reports of its workspaces. -/
def isSideEffect : StoreCall → Prop
  | .observeWorkspaceGeneration _ _ _ => True
  | .deactivateWorkspace _ _ => True
  | .recordObservedWorkspaceEnforcement _ _ => True
  | _ => False

variable {rules} {p : StoreCall → Prop}

open Routine

theorem ifGiven_only {α : Type} (text : Option String)
    {ask : String → RoomRoutine (Option α)} (asks : ∀ text, (ask text).Only p) :
    (ifGiven text ask).Only p := by
  rw [ifGiven]
  split
  · exact asks _
  · trivial

theorem orSearch_only {α : Type} (found : Option α)
    {search : RoomRoutine (Option α)} (searches : search.Only p) :
    (orSearch found search).Only p := by
  cases found with
  | none => exact searches
  | some => trivial

theorem whenever_only (condition : Bool) {act : RoomRoutine Unit}
    (acts : condition = true → act.Only p) : (whenever condition act).Only p := by
  rw [whenever]
  split
  · exact acts (by assumption)
  · trivial

theorem forSome_only {α : Type} (value : Option α)
    {act : α → RoomRoutine Unit} (acts : ∀ given, value = some given → (act given).Only p) :
    (forSome value act).Only p := by
  cases value with
  | none => trivial
  | some value => exact acts value rfl

theorem getOperation_only (operationId : String) : (getOperation operationId).Only isRead :=
  ⟨trivial, fun _ => trivial⟩

theorem getByCorrelation_only (correlationId : String) :
    (getByCorrelation correlationId).Only isRead :=
  ⟨trivial, fun _ => trivial⟩

theorem getDevice_only (deviceId : String) : (getDevice deviceId).Only isRead :=
  ⟨trivial, fun _ => trivial⟩

theorem getWorkspace_only (deviceId workspaceId : String) :
    (getWorkspace deviceId workspaceId).Only isRead :=
  ⟨trivial, fun _ => trivial⟩

/-- A change of an operation, then what its answer leads to. -/
theorem meets_updateOperation_bind {β : Type} {P : Trace StoreCall.Answer → StoreCall → Prop}
    {Q : Trace StoreCall.Answer → β → Prop} {operationId : String} {patch : OperationPatch}
    {next : Except OperationError (Option Operation) → RoomRoutine β}
    {trace : Trace StoreCall.Answer} :
    (updateOperation operationId patch >>= next).Meets P Q trace ↔
      P trace (.updateOperation operationId patch resultFromStatuses) ∧
        ∀ answer : Except OperationError (Option Operation), (next answer).Meets P Q
          (trace ++ [⟨.updateOperation operationId patch resultFromStatuses, answer⟩]) :=
  Iff.rfl

theorem findOperation_only (opts : ResultOptions) : (findOperation rules opts).Only isRead := by
  refine Only.bind (ifGiven_only _ getOperation_only) fun byId => ?_
  refine Only.bind (orSearch_only _ (ifGiven_only _ getByCorrelation_only)) fun byEither => ?_
  exact orSearch_only _ (ifGiven_only _ getOperation_only)

theorem bindOperation_only (opts : ResultOptions) (op : Operation) :
    (bindOperation rules opts op).Only isRead := by
  rw [bindOperation]
  split
  · trivial
  split
  · trivial
  split
  · trivial
  refine Only.bind (ifGiven_only _ getByCorrelation_only) fun byCorrelation => ?_
  repeat' split
  all_goals trivial

theorem resultData_only (op : Operation) (payload : Fields) (status : OperationStatus) :
    (resultData rules op payload status).Only isRead := by
  rw [resultData]
  split
  · refine Only.bind (ifGiven_only _ getDevice_only) fun device => ?_
    split
    all_goals trivial
  · repeat' split
    all_goals trivial

theorem readListed_only (deviceId : String) (rows : List Fields) :
    (readListed deviceId rows).Only isRead := by
  induction rows with
  | nil => trivial
  | cons row rest ih =>
    rw [readListed]
    split
    · exact ih
    · exact Only.bind (getWorkspace_only _ _) fun found => Only.bind ih fun others => trivial

/-! ### Notes about workspaces -/

/-- The notes that a result makes about the workspaces of a device, after the trace. -/
inductive WorkspaceNote (op : Operation) (data : Fields) (status : OperationStatus)
    (deviceId : String) (trace : Trace StoreCall.Answer) : StoreCall → Prop where
  | recorded {id generation : String} (done : status = .completed)
      (tool : isWorkspaceRecordTool op.tool = true)
      (reserved : matchesReservation op data = true)
      (about : resultWorkspace op data = some id)
      (reported : parseWorkspaceGeneration (data.get "generation") = some generation) :
      WorkspaceNote op data status deviceId trace
        (.observeWorkspaceGeneration deviceId id generation)
  | listed {row : Fields} {id generation : String} (done : status = .completed)
      (tool : op.tool = "ownmesh_workspace_list") (inList : row ∈ listedWorkspaces data)
      (about : parseWorkspaceId (row.get "id") = some id)
      (reported : parseWorkspaceGeneration (row.get "generation") = some generation) :
      WorkspaceNote op data status deviceId trace
        (.observeWorkspaceGeneration deviceId id generation)
  | removed {id : String} (done : status = .completed)
      (tool : op.tool = "ownmesh_workspace_remove") (about : resultWorkspace op data = some id) :
      WorkspaceNote op data status deviceId trace (.deactivateWorkspace deviceId id)
  | dropped {id : String} {existing : Workspace} (failed : status = .failed)
      (tool : op.tool = "ownmesh_workspace_remove") (about : resultWorkspace op data = some id)
      (read : ⟨.getWorkspace deviceId id, some existing⟩ ∈ trace)
      (never : existing.localGeneration = none) :
      WorkspaceNote op data status deviceId trace (.deactivateWorkspace deviceId id)
  | enforced {enforce : Bool} (done : status = .completed)
      (tool : op.tool = "ownmesh_workspace_list" ∨ isPolicyTool op.tool = true)
      (reported : reportedEnforcement data = some enforce) :
      WorkspaceNote op data status deviceId trace
        (.recordObservedWorkspaceEnforcement deviceId enforce)

theorem WorkspaceNote.isSideEffect {op : Operation} {data : Fields} {status : OperationStatus}
    {deviceId : String} {trace : Trace StoreCall.Answer} {c : StoreCall}
    (note : WorkspaceNote op data status deviceId trace c) : isSideEffect c := by
  cases note <;> trivial

theorem observeListed_notes {deviceId : String} {op : Operation} {data : Fields}
    (tool : op.tool = "ownmesh_workspace_list") (rows : List Fields)
    (listed : ∀ row ∈ rows, row ∈ listedWorkspaces data) : (observeListed deviceId rows).Only
      fun c => ∀ trace, WorkspaceNote op data .completed deviceId trace c := by
  induction rows with
  | nil => trivial
  | cons row rest ih =>
    obtain ⟨here, later⟩ := List.forall_mem_cons.mp listed
    refine Only.bind (forSome_only _ fun id about => ?_) fun _ => ih later
    refine forSome_only _ fun generation reported => ⟨fun trace => ?_, fun _ => trivial⟩
    exact .listed rfl tool here about reported

theorem completedEffects_notes (deviceId : String) (op : Operation) (data : Fields) :
    (completedEffects deviceId op data).Only
      fun c => ∀ trace, WorkspaceNote op data .completed deviceId trace c := by
  refine Only.bind ?_ fun _ => Only.bind ?_ fun _ => Only.bind ?_ fun _ => ?_
  · refine whenever_only _ fun both => forSome_only _ fun id about => ?_
    obtain ⟨reserved, tool⟩ := Bool.and_eq_true_iff.mp both
    refine forSome_only _ fun generation reported => ⟨fun trace => ?_, fun _ => trivial⟩
    exact .recorded rfl tool reserved about reported
  · exact whenever_only _ fun tool =>
      observeListed_notes (of_decide_eq_true tool) _ fun _ inList => inList
  · refine whenever_only _ fun tool => forSome_only _ fun id about => ⟨fun trace => ?_, ?_⟩
    · exact .removed rfl (of_decide_eq_true tool) about
    · exact fun _ => trivial
  · refine whenever_only _ fun either => forSome_only _ fun enforce reported => ⟨?_, ?_⟩
    · exact fun trace => .enforced rfl
        ((Bool.or_eq_true_iff.mp either).imp_left of_decide_eq_true) reported
    · exact fun _ => trivial

/-- The call leaves the operations alone. -/
def isReadOrSideEffect (c : StoreCall) : Prop := isRead c ∨ isSideEffect c

theorem failedEffects_only (deviceId : String) (op : Operation) (data : Fields) :
    (failedEffects deviceId op data).Only isReadOrSideEffect := by
  refine whenever_only _ fun _ => forSome_only _ fun id _ => ?_
  refine Only.bind ((getWorkspace_only _ _).mono fun _ => .inl) fun existing => ?_
  exact whenever_only _ fun _ => ⟨.inr trivial, fun _ => trivial⟩

theorem failedEffects_notes (deviceId : String) (op : Operation) (data : Fields)
    (trace : Trace StoreCall.Answer) : (failedEffects deviceId op data).Meets
      (fun trace c => isRead c ∨ WorkspaceNote op data .failed deviceId trace c)
      (fun _ _ => True) trace := by
  rw [failedEffects, whenever]
  split
  next tool =>
    cases about : resultWorkspace op data with
    | none => trivial
    | some id =>
      refine ⟨.inl trivial, fun (answer : Option Workspace) => ?_⟩
      show (whenever (answer.any (·.localGeneration.isNone)) _).Meets _ _ _
      rw [whenever]
      split
      next never =>
        cases answer with
        | none => cases never
        | some existing =>
          have last : ⟨.getWorkspace deviceId id, some existing⟩ ∈
              trace ++ [⟨.getWorkspace deviceId id, some existing⟩] :=
            List.mem_append_right _ (List.mem_singleton_self _)
          exact ⟨.inr (.dropped rfl (of_decide_eq_true tool) about last
            (Option.isNone_iff_eq_none.mp never)), fun _ => trivial⟩
      · trivial
  · trivial

theorem annotateResult_only (deviceId : String) (op : Operation) (data : Fields) :
    (annotateResult deviceId op data).Only isRead := by
  refine Only.bind (getDevice_only _) fun device => ?_
  split
  · exact Only.bind (readListed_only _ _) fun records => trivial
  split
  · exact Only.bind (ifGiven_only _ fun id => getWorkspace_only _ id) fun record => trivial
  split
  all_goals trivial

theorem resultEffects_only (op : Operation) (status : OperationStatus) (data : Fields) :
    (resultEffects op status data).Only isReadOrSideEffect := by
  rw [resultEffects]
  split
  · split
    · refine Only.bind ?_ fun _ => Only.bind ?_ fun _ => ?_
      · exact whenever_only _ fun _ =>
          (completedEffects_notes _ _ _).mono fun _ note => .inr (note []).isSideEffect
      · exact whenever_only _ fun _ => failedEffects_only _ _ _
      · exact (annotateResult_only _ _ _).mono fun _ => .inl
    · trivial
  · trivial

/-- Every note about workspaces is one of those listed. -/
theorem resultEffects_notes (op : Operation) (status : OperationStatus) (data : Fields)
    (trace : Trace StoreCall.Answer) : (resultEffects op status data).Meets
      (fun trace c => isRead c ∨ ∃ deviceId, given op.deviceId = some deviceId ∧
        WorkspaceNote op data status deviceId trace c) (fun _ _ => True) trace := by
  rw [resultEffects]
  split
  next deviceId isDevice =>
    have notes : ∀ trace c, WorkspaceNote op data status deviceId trace c →
        isRead c ∨ ∃ deviceId, given op.deviceId = some deviceId ∧
          WorkspaceNote op data status deviceId trace c :=
      fun trace c note => .inr ⟨deviceId, isDevice, note⟩
    split
    · have completed : (whenever (status = .completed) (completedEffects deviceId op data)).Only
          fun c => ∀ trace, WorkspaceNote op data status deviceId trace c := by
        refine whenever_only _ fun done => ?_
        rw [of_decide_eq_true done]
        exact completedEffects_notes deviceId op data
      refine .bind (completed.meets (fun trace c note => notes trace c (note trace)) _) fun _ _ _ =>
        .bind (Q := fun _ _ => True) ?_ fun _ _ _ => ?_
      · rw [whenever]
        split
        next failed =>
          rw [of_decide_eq_true failed] at notes ⊢
          exact (failedEffects_notes deviceId op data _).mono
            (fun trace c held => held.elim .inl (notes trace c)) fun _ _ held => held
        · trivial
      · exact ((annotateResult_only deviceId op data).meets (fun _ _ => .inl) _).mono
          (fun _ _ held => held) fun _ _ _ => trivial
    · trivial
  · trivial

/-- Rules under which texts have no encoding and no transfer result passes. -/
def plainRules : ResultRules where
  enc := ⟨fun _ => "", fun _ => "", fun _ => ""⟩
  lower := id
  encodeUriComponent := id
  safeInteger := fun _ => none
  timestamp := fun _ => ""
  sanitizeTransferPreflightResult := fun _ _ => .error ""
  sanitizeTransferArtifactResult := fun _ _ => .error ""
  sanitizeTransferStartResult := fun _ _ => .error ""
  sanitizeTransferCancelControlResult := fun _ _ => .error ""
  sanitizeTransferSourceCleanupResult := fun _ _ => .error ""
  normalizeSystemDiagnosis := fun _ _ => []

end OwnMesh.DeviceRoom
