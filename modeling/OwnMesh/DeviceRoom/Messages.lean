import OwnMesh.DeviceRoom.Router

/-!
# Messages of a device room

`handleMessage` reads one text message of a known session: it checks the envelope, passes the
session's replay guard and then does what the message's type asks for.  A message whose payload
is missing makes some of the branches throw; what the guard has changed by then stays.

The clock is read twice, `guardNow` by the guard and `now` by the rest, because the two may be
apart.
-/

namespace OwnMesh.DeviceRoom

open ControlPlane Foundations Ipc

/-! ## Results -/

structure WorkspaceGeneration where
  (id generation : String)
deriving DecidableEq

structure DeferredDispatch where
  frame : Frame
  recipients : List String
  (pendingKey clientSessionId : Option String)

structure McpResult where
  correlationId : String
  operationId : Option String
  payload : Json

structure AuthenticatedAgent where
  agentVersion : Option String
  protocolVersion : String
  workspaces : Option (List WorkspaceGeneration)
  enforceWorkspace : Option Bool

structure ReconcileRequest where
  sessionId : String
  operationIds : List String
  correlationId : Option Json

structure RegistrySync where
  enforceWorkspace : Bool
  workspaces : List WorkspaceGeneration

structure RegistryAck where
  sessionId : String
  frame : Frame
  workspaceCount : Nat

structure SocketClose where
  code : Nat
  reason : String
deriving DecidableEq

structure HandleMessageResult where
  ok : Bool
  error : Option String := none
  close : Option SocketClose := none
  mcpResult : Option McpResult := none
  deferredForward : Option String := none
  deferredDispatch : Option DeferredDispatch := none
  expiredPending : Option (List PendingOperation) := none
  agentReadySessionId : Option String := none
  agentPendingCorrelations : Option (List String) := none
  operationReconcileRequest : Option ReconcileRequest := none
  authenticatedAgent : Option AuthenticatedAgent := none
  workspaceRegistrySync : Option RegistrySync := none
  deferredWorkspaceRegistryAck : Option RegistryAck := none

inductive MessageOutcome where
  | returned (result : HandleMessageResult)
  | thrown

def rejected (error : String) : HandleMessageResult := { ok := false, error := some error }

def accepted : HandleMessageResult := { ok := true }

/-! ## What a ready agent announces -/

def isWordChar (c : Char) : Bool := c.isAlphanum || c = '_' || c = '-'

def isWorkspaceId (id : String) : Bool :=
  id.length ≤ 128 && id.startsWith "ws_" && (id.toList.drop 3).all isWordChar

def isWorkspaceGeneration (generation : String) : Bool :=
  generation.startsWith "wsg_" && generation.length = 36 &&
    (generation.toList.drop 4).all isLowerHex

def isOperationId (id : String) : Bool :=
  id.length ≤ 128 && id.startsWith "op_" &&
    match id.toList.drop 3 with
    | [] => false
    | first :: rest => first.isAlphanum && rest.all fun c => isWordChar c || c = '.'

/-- A list of distinct operation ids; none when it is malformed, and nothing when missing. -/
def readyPendingCorrelations (value : Option Json) : Option (Option (List String)) :=
  match value with
  | none => some none
  | some (.array items) =>
    if 64 < items.length then none
    else
      match items.mapM Json.asText with
      | none => none
      | some ids => if ids.all isOperationId && decide ids.Nodup then some (some ids) else none
  | some _ => none

def readyAgentVersion (value : Option Json) : Option String :=
  match value with
  | some (.text s) =>
    let version := trim s
    if version = "" || 128 < version.length ||
        version.toList.any (fun c => c.toNat ≤ 0x1f || c.toNat = 0x7f) then none
    else some version
  | _ => none

structure WorkspaceRegistry where
  workspaces : Option (List WorkspaceGeneration)
  enforceWorkspace : Bool

def readWorkspaceEntry (value : Json) : Option WorkspaceGeneration :=
  match value with
  | .object members =>
    if members.any fun member => member.1 ≠ "id" && member.1 ≠ "generation" then none
    else
      match (Fields.get members "id").bind Json.asText,
        (Fields.get members "generation").bind Json.asText with
      | some id, some generation =>
        if isWorkspaceId id && isWorkspaceGeneration generation then some ⟨id, generation⟩
        else none
      | _, _ => none
  | _ => none

/-- The workspaces with their generations, in order of their ids. -/
def readWorkspaces (localeLe : String → String → Bool) (items : List Json) :
    Option (List WorkspaceGeneration) :=
  match items.mapM readWorkspaceEntry with
  | none => none
  | some workspaces =>
    let ids := workspaces.map WorkspaceGeneration.id
    if decide ids.Nodup && "ws_default" ∈ ids then
      some (workspaces.insertionSort fun a b => localeLe a.id b.id)
    else none

/-- An older agent announces ids only. -/
def readLegacyIds (items : List Json) : Bool :=
  match items.mapM Json.asText with
  | none => false
  | some ids => ids.all isWorkspaceId && decide ids.Nodup && "ws_default" ∈ ids

/-- The workspace registry of an agent; none when it is malformed, nothing when missing. -/
def readyWorkspaceRegistry (localeLe : String → String → Bool) (value : Option Json) :
    Option (Option WorkspaceRegistry) :=
  match value with
  | none => some none
  | some (.object raw) =>
    match (Fields.get raw "enforce_workspace").bind Json.asBool with
    | none => none
    | some enforce =>
      match Fields.get raw "ids", Fields.get raw "workspaces" with
      | some (.array ids), none =>
        if 1 ≤ ids.length && ids.length ≤ 64 && readLegacyIds ids then
          some (some ⟨none, enforce⟩)
        else none
      | _, some (.array items) =>
        if 1 ≤ items.length && items.length ≤ 64 then
          (readWorkspaces localeLe items).map fun workspaces =>
            some ⟨some workspaces, enforce⟩
        else none
      | _, _ => none
  | some _ => none

/-! ## The guard -/

variable (env : Platform)

/-- The message's own expiry has passed. -/
def envelopeExpired (now : Int) (msg : Fields) : Bool :=
  match msg.get "expires_at" with
  | some expiry =>
    expiry.isTruthy &&
      match env.parseDate (env.enc.string expiry) with
      | some deadline => deadline ≤ now
      | none => false
  | none => false

/-- Accept a message id and sequence number for a guard. -/
def Router.admitMessage (now : Int) (r : Router) (sessionId messageId : String) (seq : Int)
    (guard : IngressGuard) : Router :=
  let seen : IngressGuard :=
    { pruneSeenMessageIds now
        { guard with seenMessageIds := guard.seenMessageIds.set messageId now } with
      lastSeq := seq }
  let r := { r with ingressGuards := r.ingressGuards.set sessionId seen }
  match r.sessions.get sessionId with
  | some att =>
    { r with sessions := r.sessions.set sessionId { att with lastSeq := some seq } }
  | none => r

/-- Pass the replay guard of the session, or reject the message. -/
def Router.guardOrReject (guardNow : Int) (r : Router) (sessionId : String) (msg : Fields) :
    Router × Option HandleMessageResult :=
  let correlation := msg.get "correlation_id"
  let (r, _) := r.pruneAll env.parseDate guardNow
  if !r.ingressGuards.has sessionId && !r.sessions.has sessionId then
    (r.sendError env sessionId "OWNMESH_E_NO_SESSION" "session not registered" correlation guardNow,
      some (rejected "no_session"))
  else
    -- a live session without a guard gets a new one
    let guard := (r.ingressGuards.get sessionId).getD ⟨0, .empty⟩
    let r := if r.ingressGuards.has sessionId then r
      else { r with ingressGuards := r.ingressGuards.set sessionId guard }
    if envelopeExpired env guardNow msg then
      (r.sendError env sessionId "OWNMESH_E_ENVELOPE_EXPIRED" "envelope expired" correlation
        guardNow, some (rejected "envelope_expired"))
    else
      let messageId := ((msg.get "message_id").bind Json.asText).getD ""
      if messageId = "" then
        (r.sendError env sessionId "OWNMESH_E_BAD_ENVELOPE" "message_id required" correlation
          guardNow, some (rejected "bad_message_id"))
      else if guard.seenMessageIds.has messageId then
        (r.sendError env sessionId "OWNMESH_E_DUPLICATE_MESSAGE" "duplicate message_id"
          correlation guardNow, some (rejected "duplicate_message_id"))
      else
        match ((msg.get "seq").bind env.integer).filter fun seq => guard.lastSeq < seq with
        | none =>
          (r.sendError env sessionId "OWNMESH_E_BAD_SEQ"
            s!"seq must be monotonically increasing (last={guard.lastSeq})" correlation
            guardNow, some (rejected "bad_seq"))
        | some seq => (r.admitMessage guardNow sessionId messageId seq guard, none)

/-! ## Messages by type -/

/-- A member of the payload; a payload that is not an object has none. -/
def payloadMember (payload : Json) (name : String) : Option Json :=
  match payload with
  | .object members => Fields.get members name
  | _ => none

def Router.handleHello (now : Int) (r : Router) (sessionId : String) (att : SessionAttachment)
    (msg : Fields) : Router × MessageOutcome :=
  if att.role ≠ .agent || att.phase ≠ .connected then (r, .returned (rejected "invalid_state"))
  else
    let nonceB := env.nonceB r.seqOut
    let challenge := "ownmesh-device-challenge:" ++ nonceB ++ ":" ++ r.deviceId
    let (r, envelope) := r.nextEnvelope env "challenge"
      [("nonce_b", .text nonceB), ("connection_id", .text (env.connectionId r.seqOut)),
        ("message", .text challenge)] (msg.get "correlation_id") none now
    let att := { att with phase := .challenged, challengeMessage := some challenge }
    let r := { r with sessions := r.sessions.set sessionId att }
    ((r.sendToSession env sessionId (.envelope envelope)).1, .returned accepted)

def Router.handleProof (now : Int) (r : Router) (sessionId : String) (att : SessionAttachment)
    (msg : Fields) : Router × MessageOutcome :=
  match att.challengeMessage.filter (· ≠ "") with
  | none => (r, .returned (rejected "invalid_state"))
  | some challenge =>
    if att.role ≠ .agent || att.phase ≠ .challenged then
      (r, .returned (rejected "invalid_state"))
    else
      match (msg.get "payload").filter (!·.isNull) with
      | none => (r, .thrown)
      | some payload =>
        let signature := env.enc.stringOr (payloadMember payload "signature") ""
        if !env.verifyProof r.deviceId challenge signature then
          (r, .returned (rejected "invalid_proof"))
        else
          let att := { att with phase := .proven, challengeMessage := none }
          let r := { r with sessions := r.sessions.set sessionId att }
          (r.reply env sessionId "accepted"
            [("selected_protocol", .text protocol),
              ("session_parameters", .object
                [("heartbeat_sec", .ofNat 30), ("max_payload_bytes", .ofNat maxPayloadBytes),
                  ("operation_commit_reconcile", .bool true)])]
            (msg.get "correlation_id") now, .returned accepted)

/-- The answer to an agent that is ready. -/
def readyResult (sessionId : String) (routing : Bool) (expired : List PendingOperation)
    (version : Option String) (registry : Option WorkspaceRegistry)
    (correlations : Option (List String)) : HandleMessageResult where
  ok := true
  expiredPending := some expired
  agentPendingCorrelations := correlations
  authenticatedAgent := some
    { agentVersion := version
      protocolVersion := protocol
      workspaces := registry.bind WorkspaceRegistry.workspaces
      enforceWorkspace := registry.map WorkspaceRegistry.enforceWorkspace }
  agentReadySessionId := if routing then some sessionId else none

def Router.handleReady (now : Int) (r : Router) (sessionId : String) (att : SessionAttachment)
    (msg : Fields) : Router × MessageOutcome :=
  if att.role ≠ .agent || att.phase ≠ .proven then (r, .returned (rejected "invalid_state"))
  else
    match (msg.get "payload").filter (!·.isNull) with
    | none => (r, .thrown)
    | some payload =>
      match readyWorkspaceRegistry env.localeLe (payloadMember payload "workspace_registry"),
        readyPendingCorrelations (payloadMember payload "pending_correlations") with
      | none, _ => (r, .returned (rejected "invalid_workspace_registry"))
      | some _, none => (r, .returned (rejected "invalid_pending_correlations"))
      | some registry, some correlations =>
        let routing :=
          (payloadMember payload "remote_routing_enabled").bind Json.asBool = some true
        let att := { att with phase := .ready, remoteRoutingEnabled := routing }
        let r := { r with sessions := r.sessions.set sessionId att }
        let r := r.reply env sessionId "ready.ack" [("ok", .bool true)]
          (msg.get "correlation_id") now
        let (r, expired) := r.pruneExpiredPending env.parseDate now
        (r, .returned (readyResult sessionId routing expired
          (readyAgentVersion (payloadMember payload "agent_version")) registry correlations))

/-- The request of a client once its payload is normalised, or why it is refused before the
pending operations are looked at. -/
structure RequestParts where
  pendingKey : String
  normalized : Fields
  (capability action : String)

/-- The action of a normalised request: its argument's, or the message's `op`. -/
def requestAction (payload : Json) (normalized : Fields) : String :=
  let named :=
    match normalized.get "arguments" with
    | some (.object arguments) => Fields.get arguments "action"
    | _ => none
  env.enc.stringOr named (env.enc.stringOr (payloadMember payload "op") "")

def readRequest (att : SessionAttachment) (msg : Fields) (payload : Json) :
    Except (String × Option Json) RequestParts :=
  let key := ((msg.get "correlation_id").filter Json.isTruthy) <|>
    ((msg.get "message_id").filter Json.isTruthy)
  match key with
  | none => .error ("missing_correlation", none)
  | some key =>
    let opType := env.enc.stringOr (payloadMember payload "op")
      (env.enc.stringOr (payloadMember payload "capability") "")
    let members := if payload.isTruthy then payload.members else []
    let normalized :=
      buildOperationRequestPayload env.enc env.lower opType members (env.enc.string key)
    -- an id that is not a text is never equal to the text of the operation id
    if key.asText ≠ some (env.enc.stringOr (normalized.get "operation_id") "") then
      .error ("operation_id_mismatch", some key)
    else
      let capability := env.enc.stringOr (normalized.get "capability") ""
      let action := requestAction env payload normalized
      let scope := requiredScopeForCapability capability action
      if scope = "" || !requireScope (att.scope.getD "") scope then
        .error ("insufficient_scope", none)
      else .ok ⟨env.enc.string key, normalized, capability, action⟩

def offlineResult (pendingKey : String) : Fields :=
  [("operation_contract", .text operationContractV1), ("operation_id", .text pendingKey),
    ("status", .text "device_offline"),
    ("error", .object
      [("code", .text "OWNMESH_E_DEVICE_OFFLINE"),
        ("message", .text "No remote-routing-ready agent is connected"),
        ("retryable", .bool true)])]

/-- Stage a client's request for the ready agents. -/
def Router.stageRequest (now : Int) (r : Router) (sessionId : String) (parts : RequestParts) :
    Router × HandleMessageResult :=
  let recipients := r.agentSessions
  let (r, frame) := r.nextEnvelope env "operation.request" parts.normalized
    (some (.text parts.pendingKey)) none now
  if recipients = [] then
    let (r, offline) := r.nextEnvelope env "operation.result" (offlineResult parts.pendingKey)
      (some (.text parts.pendingKey)) none now
    (r, { ok := true, deferredDispatch :=
      some ⟨.envelope offline, [sessionId], none, some sessionId⟩ })
  else
    let entry : PendingOperation :=
      { correlationId := parts.pendingKey
        type :=
          if parts.action ≠ "" then parts.action
          else if parts.capability ≠ "" then parts.capability
          else "operation.request"
        fromSession := sessionId
        createdAt := some now
        payload := parts.normalized
        expiresAt := frame.expiresAt
        dispatchedAt := none
        dispatchCount := 0
        liveOnly := false }
    ({ r with pending := r.pending.set parts.pendingKey entry },
      { ok := true, deferredDispatch :=
        some ⟨.envelope frame, recipients, some parts.pendingKey, some sessionId⟩ })

def Router.handleRequest (now : Int) (r : Router) (sessionId : String) (att : SessionAttachment)
    (msg : Fields) : Router × MessageOutcome :=
  if att.role ≠ .client then (r, .returned (rejected "invalid_role"))
  else
    match (msg.get "payload").filter (!·.isNull) with
    | none => (r, .thrown)
    | some payload =>
      match readRequest env att msg payload with
      | .error (error, none) => (r, .returned (rejected error))
      | .error (error, some key) =>
        (r.sendError env sessionId "OWNMESH_E_BAD_ENVELOPE"
          "correlation_id must equal payload operation_id" (some key) now,
          .returned (rejected error))
      | .ok parts =>
        let (r, _) := r.pruneExpiredPending env.parseDate now
        if maxPendingOperations ≤ r.pending.size then
          (r.sendError env sessionId "OWNMESH_E_PENDING_LIMIT" "too many pending operations"
            (some (.text parts.pendingKey)) now, .returned (rejected "pending_limit"))
        else if maxPendingPayloadBytes < r.totalPendingPayloadBytes env +
            (env.enc.object parts.normalized).utf8ByteSize then
          (r.sendError env sessionId "OWNMESH_E_PENDING_PAYLOAD_LIMIT"
            "pending payload budget exceeded" (some (.text parts.pendingKey)) now,
            .returned (rejected "pending_payload_limit"))
        else
          let (r, result) := r.stageRequest env now sessionId parts
          (r, .returned result)

/-- The operation id that a payload names. -/
def namedOperation (payload : Fields) : Option String :=
  ((payload.get "operation_id").filter (!·.isNull)).map env.enc.string

/-- Bind an agent's report to the pending operation of its correlation. -/
def Router.reportPending (r : Router) (msg : Fields) :
    Except String (String × PendingOperation × Option String) :=
  match (msg.get "correlation_id").bind Json.asText with
  | none => .error "unknown_correlation"
  | some correlation =>
    match r.pending.get correlation with
    | none => .error "unknown_correlation"
    | some p =>
      if correlation = "" then .error "unknown_correlation"
      else
        let payload := match msg.get "payload" with
          | some (.object members) => members
          | _ => []
        let result := namedOperation env payload
        let waiting := namedOperation env p.payload
        let truthy (id : Option String) : Option String := id.filter (· ≠ "")
        match truthy result, truthy waiting with
        | some mine, some theirs =>
          if mine ≠ theirs then .error "operation_id_mismatch"
          else .ok (correlation, p, some mine)
        | some mine, none => .ok (correlation, p, some mine)
        | none, _ => .ok (correlation, p, waiting)

def Router.handleReport (now : Int) (r : Router) (att : SessionAttachment) (msg : Fields)
    (type : String) : Router × MessageOutcome :=
  if att.role ≠ .agent || att.phase ≠ .ready then (r, .returned (rejected "invalid_state"))
  else
    let (r, _) := r.pruneExpiredPending env.parseDate now
    match r.reportPending env msg with
    | .error error => (r, .returned (rejected error))
    | .ok (correlation, p, boundId) =>
      if type = "operation.result" then
        let payload := ((msg.get "payload").filter Json.isTruthy).getD (.object [])
        (r, .returned
          { ok := true
            mcpResult := some ⟨correlation, boundId, payload⟩
            deferredForward := some (env.enc.object msg) })
      else
        ((r.sendToSession env p.fromSession (.raw (env.enc.object msg))).1, .returned accepted)

def handleReconcile (sessionId : String) (att : SessionAttachment) (msg : Fields) :
    HandleMessageResult :=
  if att.role ≠ .agent || att.phase ≠ .ready then rejected "invalid_state"
  else
    match msg.get "payload" with
    | some (.object members) =>
      if members.length ≠ 1 then rejected "invalid_operation_reconcile_request"
      else
        match readyPendingCorrelations (Fields.get members "operation_ids") with
        | some (some (first :: rest)) =>
          { ok := true
            operationReconcileRequest := some
              ⟨sessionId, first :: rest, (msg.get "correlation_id").filter Json.isTruthy⟩ }
        | _ => rejected "invalid_operation_reconcile_request"
    | _ => rejected "invalid_operation_reconcile_request"

def Router.handleRegistry (now : Int) (r : Router) (sessionId : String)
    (att : SessionAttachment) (msg : Fields) : Router × MessageOutcome :=
  if att.role ≠ .agent || att.phase ≠ .ready then (r, .returned (rejected "invalid_state"))
  else
    match (readyWorkspaceRegistry env.localeLe (msg.get "payload")).join with
    | some ⟨some (first :: rest), enforce⟩ =>
      let (r, ack) := r.nextEnvelope env "workspace.registry.ack" [("ok", .bool true)]
        (msg.get "correlation_id") none now
      (r, .returned
        { ok := true
          workspaceRegistrySync := some ⟨enforce, first :: rest⟩
          deferredWorkspaceRegistryAck :=
            some ⟨sessionId, .envelope ack, (first :: rest).length⟩ })
    | _ =>
      (r.sendError env sessionId "OWNMESH_E_BAD_ENVELOPE" "invalid workspace registry"
        (msg.get "correlation_id") now, .returned (rejected "invalid_workspace_registry"))

/-- What the type of a guarded message asks for. -/
def Router.handleType (now : Int) (r : Router) (sessionId : String) (att : SessionAttachment)
    (msg : Fields) : Router × MessageOutcome :=
  match (msg.get "type").bind Json.asText with
  | some "hello" => r.handleHello env now sessionId att msg
  | some "proof" => r.handleProof env now sessionId att msg
  | some "ready" => r.handleReady env now sessionId att msg
  | some "operation.request" => r.handleRequest env now sessionId att msg
  | some "operation.result" => r.handleReport env now att msg "operation.result"
  | some "operation.event" => r.handleReport env now att msg "operation.event"
  | some "operation.progress" => r.handleReport env now att msg "operation.progress"
  | some "operation.reconcile.request" => (r, .returned (handleReconcile sessionId att msg))
  | some "workspace.registry" => r.handleRegistry env now sessionId att msg
  | some "ping" =>
    (r.reply env sessionId "pong" [("t", .number (.integer now))] (msg.get "correlation_id") now,
      .returned accepted)
  | _ => (r, .returned (rejected "unsupported_message_type"))

/-- The envelope of a message, or the answer to one that is not looked at further. -/
def Router.readEnvelope (now : Int) (r : Router) (sessionId raw : String) :
    Router × Except HandleMessageResult (SessionAttachment × Fields) :=
  match r.sessions.get sessionId with
  | none => (r, .error (rejected "unknown_session"))
  | some att =>
    if maxPayloadBytes < raw.utf8ByteSize then
      (r.sendError env sessionId "OWNMESH_E_PAYLOAD_TOO_LARGE"
        s!"payload exceeds {maxPayloadBytes} bytes" none now,
        .error { rejected "payload_too_large" with close := some ⟨1009, "payload too large"⟩ })
    else
      let malformed : HandleMessageResult :=
        { rejected "bad_json" with close := some ⟨1003, "malformed JSON"⟩ }
      match env.parse raw with
      | none =>
        (r.sendError env sessionId "OWNMESH_E_BAD_JSON" "malformed JSON" none now,
          .error malformed)
      | some (.object msg) =>
        if (Fields.get msg "protocol").bind Json.asText ≠ some protocol then
          (r.sendError env sessionId "OWNMESH_E_UNSUPPORTED_PROTOCOL"
            ("expected " ++ protocol) none now, .error (rejected "bad_protocol"))
        else
          match (Fields.get msg "device_id").filter Json.isTruthy with
          | some deviceId =>
            if deviceId.asText ≠ some r.deviceId then
              (r, .error (rejected "device_mismatch"))
            else (r, .ok (att, msg))
          | none => (r, .ok (att, msg))
      | some _ =>
        (r.sendError env sessionId "OWNMESH_E_BAD_JSON" "malformed envelope" none now,
          .error malformed)

/-- The session as the guard has left it: the guard only writes its last sequence number. -/
def withLastSeq (att : SessionAttachment) (r : Router) (sessionId : String) : SessionAttachment :=
  (r.sessions.get sessionId).getD att

/-- Handle one text message of a session. -/
def Router.handleMessage (guardNow now : Int) (r : Router) (sessionId raw : String) :
    Router × MessageOutcome :=
  match r.readEnvelope env guardNow sessionId raw with
  | (r, .error result) => (r, .returned result)
  | (r, .ok (att, msg)) =>
    match r.guardOrReject env guardNow sessionId msg with
    | (r, some result) => (r, .returned result)
    | (r, none) => r.handleType env now sessionId (withLastSeq att r sessionId) msg

end OwnMesh.DeviceRoom
