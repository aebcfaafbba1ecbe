import OwnMesh.ControlPlane.Operation

/-!
# The operation contract

A request that reaches a device room is brought into one shape before it is sent to the agent:
a payload that already follows the contract is normalised in place, an older flat payload is
wrapped.  The scope a client needs is read off the capability and the action of the normalised
payload.
-/

namespace OwnMesh.DeviceRoom

open ControlPlane Ipc

def operationContractV1 : String := "ownmesh.operation/1.0"

def legacyAction (op : String) : String :=
  if op = "ownmesh_fs_list" || op = "ownmesh_list_files" then "fs.list"
  else if op = "ownmesh_fs_stat" then "fs.stat"
  else if op = "ownmesh_fs_read" || op = "ownmesh_read_file" then "fs.read"
  else if op = "ownmesh_fs_write" || op = "ownmesh_write_file" then "fs.write"
  else if op = "ownmesh_fs_delete" || op = "ownmesh_delete_file" then "fs.delete"
  else if op = "ownmesh_command_run" || op = "ownmesh_run_command" then "command.run"
  else if op = "ownmesh_command_shell" || op = "ownmesh_run_shell" then "command.shell"
  else if op = "ownmesh_cancel_operation" || op = "cancel" then "cancel"
  else if op = "ownmesh_workspace_list" then "workspace.list"
  else if op = "ownmesh_workspace_show" then "workspace.show"
  else if op = "ownmesh_workspace_add" then "workspace.add"
  else if op = "ownmesh_workspace_update" then "workspace.update"
  else if op = "ownmesh_workspace_remove" then "workspace.remove"
  else if op = "approval.decision" then "approval.decision"
  else if op = "" then "unknown" else op

/-- A text member that is not blank. -/
def nonBlankText (value : Option Json) : Option String :=
  match value with
  | some (.text s) => if trim s = "" then none else some s
  | _ => none

def legacyCapability (op : String) (payload : Fields) : String :=
  match nonBlankText (payload.get "capability") with
  | some capability => capability
  | none =>
    let action := legacyAction op
    if action.startsWith "fs.read" || action = "fs.list" || action = "fs.stat" then
      "filesystem.read"
    else if action = "fs.write" || action = "fs.delete" || action = "fs.patch" then
      "filesystem.write"
    else if action.startsWith "command." then "command.run"
    else if action.startsWith "workspace." then
      if action = "workspace.list" || action = "workspace.show" then "workspace.list"
      else action
    else if action = "cancel" then "operation.cancel"
    else if action.startsWith "session" then "session.open"
    else if op.startsWith "ownmesh_fs_write" || op.startsWith "ownmesh_fs_delete" then
      "filesystem.write"
    else if op.startsWith "ownmesh_fs_" then "filesystem.read"
    else if op.startsWith "ownmesh_command" || op = "ownmesh_cancel_operation" then
      if op = "ownmesh_cancel_operation" then "operation.cancel" else "command.run"
    else if op.startsWith "ownmesh_session" then "session.open"
    else if op = "" then "unknown" else op

def requiredScopeForCapability (capability actionOrOp : String) : String :=
  if capability = "filesystem.write" || actionOrOp.startsWith "ownmesh_fs_write" ||
      actionOrOp = "fs.write" || actionOrOp = "fs.delete" then
    "ownmesh.write"
  else if capability = "command.run" || capability = "operation.cancel" ||
      actionOrOp.startsWith "ownmesh_command" || actionOrOp = "ownmesh_cancel_operation" ||
      actionOrOp.startsWith "command." || actionOrOp = "cancel" then
    "ownmesh.exec"
  else if capability.startsWith "session" || actionOrOp.startsWith "ownmesh_session" ||
      actionOrOp.startsWith "session" then
    "ownmesh.session"
  else if capability.startsWith "workspace." || actionOrOp.startsWith "ownmesh_workspace_" ||
      actionOrOp.startsWith "workspace." then
    if capability = "workspace.list" || capability = "workspace.show" ||
        actionOrOp = "ownmesh_workspace_list" || actionOrOp = "ownmesh_workspace_show" ||
        actionOrOp = "workspace.list" || actionOrOp = "workspace.show" then
      "ownmesh.read"
    else "ownmesh.write"
  else if capability = "filesystem.read" || capability = "system.diagnose" ||
      actionOrOp = "ownmesh_system_diagnose" || actionOrOp = "system.diagnose" ||
      actionOrOp.startsWith "ownmesh_fs_" || actionOrOp.startsWith "fs." then
    "ownmesh.read"
  else ""

def parseScope (scope : String) : List String :=
  (scope.toList.splitOnP isWhitespace).filterMap fun word =>
    if word = [] then none else some (String.ofList word)

/-- Write may include reading the same resource, and nothing else. -/
def requireScope (scope need : String) : Bool :=
  need ∈ parseScope scope ||
    (need = "ownmesh.read" && "ownmesh.write" ∈ parseScope scope)

/-- The members of a flat payload that do not become arguments. -/
def legacyControlKeys : List String :=
  ["op", "tool", "operation_id", "idempotency_key", "workspace_id", "_client_hints",
    "force_allow", "bypass_policy", "skip_approval", "allow", "approved", "async", "device_id",
    "intent_summary", "risk_note", "principal", "principal_id", "tenant_id", "policy_result",
    "payload_hash", "risk_level"]

/-- A payload of the contract, normalised. -/
def normalizeContract (enc : Encoding) (lower : String → String) (payload : Fields)
    (correlationId : String) : Fields :=
  let operationId := enc.stringOr (payload.get "operation_id") correlationId
  let arguments :=
    match payload.get "arguments" with
    | some (.object members) => members
    | _ => []
  let normalized := payload.assign
    [("operation_contract", .text operationContractV1),
      ("operation_id", .text operationId),
      ("capability", .text (enc.stringOr (payload.get "capability") "")),
      ("idempotency_key", .text (enc.stringOr (payload.get "idempotency_key") operationId)),
      ("arguments", .object arguments)]
  match nonBlankText (payload.get "payload_hash") with
  | some hash => normalized.set "payload_hash" (.text (lower hash))
  | none => normalized

/-- A flat payload, wrapped. -/
def wrapLegacy (enc : Encoding) (opType : String) (payload : Fields) (correlationId : String) :
    Fields :=
  let legacyOp := enc.stringOr (payload.get "op") opType
  let rest : Fields := payload.filter fun member => member.1 ∉ legacyControlKeys
  let arguments := Fields.assign [("action", .text (legacyAction legacyOp))] rest
  let arguments :=
    match payload.get "_client_hints" with
    | some hints => arguments.set "_client_hints" hints
    | none => arguments
  let operationId := enc.stringOr (payload.get "operation_id") correlationId
  let built : Fields :=
    [("operation_contract", .text operationContractV1),
      ("operation_id", .text operationId),
      ("capability", .text (legacyCapability legacyOp payload)),
      ("idempotency_key", .text (enc.stringOr (payload.get "idempotency_key") operationId)),
      ("arguments", .object arguments)]
  match nonBlankText (payload.get "workspace_id") with
  | some workspace => built.set "workspace_id" (.text workspace)
  | none => built

def buildOperationRequestPayload (enc : Encoding) (lower : String → String) (opType : String)
    (payload : Fields) (correlationId : String) : Fields :=
  if (payload.get "operation_contract").bind Json.asText = some operationContractV1 then
    normalizeContract enc lower payload correlationId
  else wrapLegacy enc opType payload correlationId

/-! ## Approval decisions -/

/-- The operation that an approval decision is about, and the decision. -/
structure ApprovalDecisionBinding where
  (targetOperationId decision approvalId transactionId : String)
deriving DecidableEq

/-- The members of a value that is an object or an array. -/
def objectMembers (value : Option Json) : Option Fields :=
  match value with
  | some (.object members) => some members
  | some (.array _) => some []
  | _ => none

def approvalDecisionBindingFromPayload (enc : Encoding) (lower : String → String)
    (payload : Fields) : Option ApprovalDecisionBinding :=
  if (payload.get "capability").bind Json.asText ≠ some "approval.decision" then none
  else
    let arguments := (objectMembers (payload.get "arguments")).getD []
    let authorization := (objectMembers (payload.get "authorization")).getD []
    let boundAction := (objectMembers (authorization.get "bound_action")).getD []
    let targetOperationId := trim (enc.stringOr (arguments.get "target_operation_id") "")
    let decision := lower (enc.stringOr (arguments.get "decision") "")
    let approvalId := trim (enc.stringOr (arguments.get "approval_id") "")
    let transactionId := trim (enc.stringOr (boundAction.get "outbox_id") "")
    if targetOperationId = "" || approvalId = "" || transactionId = "" ||
        (decision ≠ "approve" && decision ≠ "deny") then none
    else some ⟨targetOperationId, decision, approvalId, transactionId⟩

/-- The statuses in which an operation is never dispatched. -/
def isDispatchFence : OperationStatus → Bool
  | .cancelRequested => true
  | .completed => true
  | .failed => true
  | .denied => true
  | .cancelled => true
  | .deviceOffline => true
  | .tombstone => true
  | _ => false

end OwnMesh.DeviceRoom
