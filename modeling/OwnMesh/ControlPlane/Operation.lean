import OwnMesh.Ipc.Value

/-!
# Operation records

The control plane keeps one record for each operation it routes to a device.  This module has
the record, the two ways it is changed (a transition of its result fields, a patch of any
field) and the bounds that every stored record is brought under.

A JSON object is the list of its members in order, because the stores compare objects by
their text.  The text of a value is the JSON encoder's, given as `Encoding`; times are in
milliseconds.
-/

namespace OwnMesh.ControlPlane

open Ipc

/-! ## JSON objects -/

inductive Json where
  | null
  | bool (b : Bool)
  | number (n : Number)
  | text (s : String)
  | array (items : List Json)
  | object (members : List (String × Json))

/-- The members of an object. -/
abbrev Fields : Type := List (String × Json)

namespace Json

def ofNat (n : Nat) : Json := number (.integer n)

def asText : Json → Option String
  | text s => some s
  | _ => none

def asBool : Json → Option Bool
  | bool b => some b
  | _ => none

def isNull : Json → Bool
  | null => true
  | _ => false

/-- The value counts as true in a condition. -/
def isTruthy : Json → Bool
  | null => false
  | bool b => b
  | number (.integer n) => n ≠ 0
  | number (.float bits) => bits ≠ 0 && bits ≠ 0x8000000000000000
  | text s => s ≠ ""
  | array _ => true
  | object _ => true

/-- The own members of a value, as a spread of it copies them. -/
def members : Json → List (String × Json)
  | object members => members
  | array items => items.zipIdx.map fun (item, i) => (toString i, item)
  | text s => s.toList.zipIdx.map fun (c, i) => (toString i, text c.toString)
  | _ => []

end Json

namespace Fields

def get (fields : Fields) (name : String) : Option Json :=
  (fields.find? fun member => member.1 = name).map Prod.snd

def has (fields : Fields) (name : String) : Bool := fields.any fun member => member.1 = name

/-- Set a member in its place, or as the last one. -/
def set (fields : Fields) (name : String) (value : Json) : Fields :=
  if fields.has name then
    fields.map fun member => if member.1 = name then (name, value) else member
  else fields ++ [(name, value)]

def erase (fields : Fields) (name : String) : Fields :=
  fields.filter fun member => member.1 ≠ name

/-- The members of the second object set on the first. -/
def assign (fields more : Fields) : Fields :=
  more.foldl (fun fields member => fields.set member.1 member.2) fields

end Fields

/-- What the platform's encoder makes of values. -/
structure Encoding where
  /-- The JSON text of an object. -/
  object : Fields → String
  /-- The JSON text of a value. -/
  value : Json → String
  /-- A value that is not a text, converted to one. -/
  plain : Json → String

/-- A value converted to a text. -/
def Encoding.string (enc : Encoding) : Json → String
  | .text s => s
  | value => enc.plain value

/-- The text of a member, with a default where it is missing or false. -/
def Encoding.stringOr (enc : Encoding) (value : Option Json) (default : String) : String :=
  match value with
  | some value => if value.isTruthy then enc.string value else default
  | none => default

/-! ## Records -/

def isLowerHex (c : Char) : Bool := c.isDigit || ('a' ≤ c && c ≤ 'f')

/-- The status of an operation; `other` is any text that is none of the rest. -/
inductive OperationStatus where
  | pending
  | running
  | approvalRequired
  | cancelRequested
  | completed
  | failed
  | denied
  | cancelled
  | deviceOffline
  | tombstone
  | other (name : String)
deriving DecidableEq

namespace OperationStatus

def name : OperationStatus → String
  | pending => "pending"
  | running => "running"
  | approvalRequired => "approval_required"
  | cancelRequested => "cancel_requested"
  | completed => "completed"
  | failed => "failed"
  | denied => "denied"
  | cancelled => "cancelled"
  | deviceOffline => "device_offline"
  | tombstone => "tombstone"
  | other name => name

def ofName (name : String) : OperationStatus :=
  if name = "pending" then pending
  else if name = "running" then running
  else if name = "approval_required" then approvalRequired
  else if name = "cancel_requested" then cancelRequested
  else if name = "completed" then completed
  else if name = "failed" then failed
  else if name = "denied" then denied
  else if name = "cancelled" then cancelled
  else if name = "device_offline" then deviceOffline
  else if name = "tombstone" then tombstone
  else other name

end OperationStatus

structure Operation where
  (operationId tenantId principalId : String)
  deviceId : Option String := none
  tool : String
  status : OperationStatus
  summary : String
  data : Fields
  truncated : Bool
  nextCursor : Option String := none
  approvalRequired : Bool
  approvalUrl : Option String := none
  approvalId : Option String := none
  sessionId : Option String := none
  warnings : List String
  correlationId : Option String := none
  payloadHash : Option String := none
  idempotencyKey : Option String := none
  workspaceId : Option String := none
  expiresAt : Option String := none
  claimVersion : Nat
  action : Option Fields := none
  (createdAt updatedAt : Int)

inductive OperationError where
  | alreadyExists (operationId : String)
  | idempotencyExists (key : String)
  | quotaExceeded (tenantId : String) (max : Nat)
  | dispatchOutboxTooLarge (bytes max : Nat)
  | claimMissing (operationId : String)
deriving DecidableEq

/-! ## Bounds -/

def mcpOpsMaxDataJsonBytes : Nat := 256000

def mcpOpsMaxDispatchOutboxBytes : Nat := 900000

def dispatchOutboxDataKey : String := "__ownmesh_dispatch_outbox"

/-- The members of a result that a bounded stand-in keeps. -/
def durableResultPreserveKeys : List String :=
  ["path", "encoding", "offset", "bytes", "returned_bytes", "total_bytes", "truncated", "sha256",
    "next_offset", "next_cursor", "exit_code", "timed_out", "duration_ms", "replayed",
    "cancelled", "detached", "pid", "hint", "signal_delivered", "target_operation_id",
    "stdout_truncated", "stderr_truncated", "stdout_bytes", "stderr_bytes", "total_matched",
    "entries_returned", "program", "command", "cwd", "status", "error", "code", "message",
    "retryable", "tool", "op", "capability", "payload_hash", "oauth_client_id",
    "claim_version", "expires_at", "route", "dispatch", "next"]

/-- A text cut after a number of characters. -/
def clip (max : Nat) (text : String) : String :=
  if text.length ≤ max then text else String.ofList (text.toList.take max) ++ "…"

/-- Keep a preview of a text member under another name. -/
def preview (data : Fields) (name previewName : String) (kept : Fields) : Fields :=
  match data.get name with
  | some (.text content) => kept.set previewName (.text (clip 256 content))
  | _ => kept

/-- The stand-in for data over the budget. -/
def boundClientVisibleOperationData (data : Fields) (originalBytes : Nat) : Fields :=
  let start : Fields :=
    [("truncated", .bool true), ("durable_truncated", .bool true),
      ("returned_bytes", .ofNat 0), ("total_bytes", .ofNat originalBytes),
      ("message", .text ("operation result exceeded durable store budget; use range/pagination " ++
        "or smaller max_bytes/max_output_bytes — cursors and integrity facts are preserved " ++
        "when known"))]
  let preserved := durableResultPreserveKeys.foldl (fun kept name =>
    match data.get name with
    | some value => kept.set name value
    | none => kept) start
  let preserved := preview data "content" "content_preview" preserved
  let preserved := preview data "stdout" "stdout_preview" preserved
  let preserved := preview data "stderr" "stderr_preview" preserved
  let preserved :=
    match data.get "entries" with
    | some (.array entries) => preserved.set "entries_returned" (.ofNat entries.length)
    | _ => preserved
  match data.get "next_cursor" with
  | some (.text cursor) => preserved.set "next_cursor" (.text cursor)
  | _ => preserved

/-- The continuation that bounded data still carries, where the record has none. -/
def continuation (enc : Encoding) (data : Fields) (nextCursor : Option String) : Option String :=
  let blank (cursor : Option String) : Bool := cursor.isNone || cursor = some ""
  let fromCursor :=
    match data.get "next_cursor" with
    | some (.text cursor) => if blank nextCursor then some cursor else nextCursor
    | _ => nextCursor
  match data.get "next_offset" with
  | some offset =>
    if !offset.isNull && blank fromCursor then some ("off_" ++ enc.string offset)
    else fromCursor
  | none => fromCursor

/-- Client data within the budget. -/
def boundClientData (enc : Encoding) (op : Operation) : Operation :=
  let clientData := op.data.erase dispatchOutboxDataKey
  let bytes := (enc.object clientData).utf8ByteSize
  if mcpOpsMaxDataJsonBytes < bytes then
    let data := boundClientVisibleOperationData clientData bytes
    { op with
      data := data
      truncated := true
      warnings :=
        if "durable_result_truncated" ∈ op.warnings then op.warnings
        else op.warnings ++ ["durable_result_truncated"]
      nextCursor := continuation enc data op.nextCursor }
  else { op with data := clientData }

/-- A pending dispatch body is kept whole or refused. -/
def reattachOutbox (enc : Encoding) (outbox : Option Json) (op : Operation) :
    Except OperationError Operation :=
  match outbox with
  | none => .ok op
  | some body =>
    let bytes := (enc.value body).utf8ByteSize
    if mcpOpsMaxDispatchOutboxBytes < bytes then
      .error (.dispatchOutboxTooLarge bytes mcpOpsMaxDispatchOutboxBytes)
    else .ok { op with data := op.data.set dispatchOutboxDataKey body }

def boundAction (enc : Encoding) (action : Fields) : Fields :=
  if mcpOpsMaxDataJsonBytes < (enc.object action).utf8ByteSize then
    [("truncated", .bool true),
      ("message", .text "canonical action exceeded durable store budget")]
  else action

/-- The record within the bounds of the stores. -/
def boundMcpOperationRecord (enc : Encoding) (op : Operation) : Except OperationError Operation :=
  match reattachOutbox enc (op.data.get dispatchOutboxDataKey) (boundClientData enc op) with
  | .error e => .error e
  | .ok next =>
    .ok { next with
      action := next.action.map (boundAction enc)
      summary := clip 2000 next.summary }

/-- The bounds leave alone what identifies a record and what it is in. -/
structure SameRecord (op next : Operation) : Prop where
  operationId : next.operationId = op.operationId
  tenantId : next.tenantId = op.tenantId
  principalId : next.principalId = op.principalId
  deviceId : next.deviceId = op.deviceId
  status : next.status = op.status
  idempotencyKey : next.idempotencyKey = op.idempotencyKey
  correlationId : next.correlationId = op.correlationId
  updatedAt : next.updatedAt = op.updatedAt

theorem boundClientData_same (enc : Encoding) (op : Operation) :
    SameRecord op (boundClientData enc op) := by
  rw [boundClientData]
  split
  all_goals exact ⟨rfl, rfl, rfl, rfl, rfl, rfl, rfl, rfl⟩

theorem reattachOutbox_same {enc : Encoding} {outbox : Option Json} {op next : Operation}
    (attached : reattachOutbox enc outbox op = .ok next) : SameRecord op next := by
  cases outbox with
  | none =>
    obtain rfl := Except.ok.inj attached
    exact ⟨rfl, rfl, rfl, rfl, rfl, rfl, rfl, rfl⟩
  | some =>
    simp only [reattachOutbox] at attached
    split at attached
    · cases attached
    · obtain rfl := Except.ok.inj attached
      exact ⟨rfl, rfl, rfl, rfl, rfl, rfl, rfl, rfl⟩

theorem SameRecord.trans {first second third : Operation} (left : SameRecord first second)
    (right : SameRecord second third) : SameRecord first third where
  operationId := right.operationId.trans left.operationId
  tenantId := right.tenantId.trans left.tenantId
  principalId := right.principalId.trans left.principalId
  deviceId := right.deviceId.trans left.deviceId
  status := right.status.trans left.status
  idempotencyKey := right.idempotencyKey.trans left.idempotencyKey
  correlationId := right.correlationId.trans left.correlationId
  updatedAt := right.updatedAt.trans left.updatedAt

theorem boundMcpOperationRecord_same {enc : Encoding} {op next : Operation}
    (bounded : boundMcpOperationRecord enc op = .ok next) : SameRecord op next := by
  rw [boundMcpOperationRecord] at bounded
  split at bounded
  · cases bounded
  next kept attached =>
    obtain rfl := Except.ok.inj bounded
    have same := (boundClientData_same enc op).trans (reattachOutbox_same attached)
    exact ⟨same.1, same.2, same.3, same.4, same.5, same.6, same.7, same.8⟩

/-! ## Changes -/

/-- A change of the result fields of a record.  A field that can be cleared is given as a
value that may be missing. -/
structure OperationTransition where
  status : OperationStatus
  summary : Option String := none
  data : Option Fields := none
  truncated : Option Bool := none
  nextCursor : Option (Option String) := none
  approvalRequired : Option Bool := none
  approvalUrl : Option String := none
  approvalId : Option String := none
  sessionId : Option (Option String) := none
  warnings : Option (List String) := none
  updatedAt : Option Int := none

def OperationTransition.apply (transition : OperationTransition) (now : Int) (cur : Operation) :
    Operation :=
  { cur with
    status := transition.status
    summary := transition.summary.getD cur.summary
    data := transition.data.getD cur.data
    truncated := transition.truncated.getD cur.truncated
    nextCursor := transition.nextCursor.getD cur.nextCursor
    approvalRequired := transition.approvalRequired.getD cur.approvalRequired
    approvalUrl := transition.approvalUrl <|> cur.approvalUrl
    approvalId := transition.approvalId <|> cur.approvalId
    sessionId := transition.sessionId.getD cur.sessionId
    warnings := transition.warnings.getD cur.warnings
    updatedAt := transition.updatedAt.getD now }

/-- A change of any field but the identity of the operation. -/
structure OperationPatch where
  tenantId : Option String := none
  principalId : Option String := none
  deviceId : Option (Option String) := none
  tool : Option String := none
  status : Option OperationStatus := none
  summary : Option String := none
  data : Option Fields := none
  truncated : Option Bool := none
  nextCursor : Option (Option String) := none
  approvalRequired : Option Bool := none
  approvalUrl : Option (Option String) := none
  approvalId : Option (Option String) := none
  sessionId : Option (Option String) := none
  warnings : Option (List String) := none
  correlationId : Option (Option String) := none
  payloadHash : Option (Option String) := none
  idempotencyKey : Option (Option String) := none
  workspaceId : Option (Option String) := none
  expiresAt : Option (Option String) := none
  claimVersion : Option Nat := none
  action : Option (Option Fields) := none
  createdAt : Option Int := none
  updatedAt : Option Int := none

def OperationPatch.apply (patch : OperationPatch) (now : Int) (cur : Operation) : Operation where
  operationId := cur.operationId
  tenantId := patch.tenantId.getD cur.tenantId
  principalId := patch.principalId.getD cur.principalId
  deviceId := patch.deviceId.getD cur.deviceId
  tool := patch.tool.getD cur.tool
  status := patch.status.getD cur.status
  summary := patch.summary.getD cur.summary
  data := patch.data.getD cur.data
  truncated := patch.truncated.getD cur.truncated
  nextCursor := patch.nextCursor.getD cur.nextCursor
  approvalRequired := patch.approvalRequired.getD cur.approvalRequired
  approvalUrl := patch.approvalUrl.getD cur.approvalUrl
  approvalId := patch.approvalId.getD cur.approvalId
  sessionId := patch.sessionId.getD cur.sessionId
  warnings := patch.warnings.getD cur.warnings
  correlationId := patch.correlationId.getD cur.correlationId
  payloadHash := patch.payloadHash.getD cur.payloadHash
  idempotencyKey := patch.idempotencyKey.getD cur.idempotencyKey
  workspaceId := patch.workspaceId.getD cur.workspaceId
  expiresAt := patch.expiresAt.getD cur.expiresAt
  claimVersion := patch.claimVersion.getD cur.claimVersion
  action := patch.action.getD cur.action
  createdAt := patch.createdAt.getD cur.createdAt
  updatedAt := patch.updatedAt.getD now

/-- The statuses from which a change may start; none or an empty list is any. -/
def allowedFrom (fromStatuses : Option (List OperationStatus)) (status : OperationStatus) : Bool :=
  match fromStatuses with
  | none => true
  | some [] => true
  | some statuses => status ∈ statuses

end OwnMesh.ControlPlane
