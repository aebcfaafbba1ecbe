import OwnMesh.DeviceRoom.Contract
import OwnMesh.Foundations.OrderedMap

/-!
# The router of a device room

A device room connects the agent of one device with the clients of its owner.  Its router
keeps the sessions, one replay guard for each session and the operations that wait for a
result.  This module has the router's state and the parts of it that every message uses;
`handleMessage` itself is in the next module.

A table of the router is a map in insertion order.  `dropped` is a history variable: it lists
every pending operation that `pruneExpiredPending` has removed, and no function reads it.  `sent`
lists the frames that have gone out.  Times are in milliseconds; a time that is missing is not
a finite number.
-/

namespace OwnMesh.DeviceRoom

open ControlPlane Foundations Ipc

/-! ## Constants -/

def protocol : String := "ownmesh.device/1.0"

def operationRequestTtlMs : Int := 60000

def maxSeenMessageIds : Nat := 4096

def seenMessageIdTtlMs : Int := 10 * 60 * 1000

def maxPendingOperations : Nat := 1024

def pendingTtlMs : Int := 15 * 60 * 1000

def liveTransferTombstoneMaxTtlMs : Int := 24 * 60 * 60 * 1000

def maxSerializedStateBytes : Nat := 1048576

def roomStateNonPayloadReserveBytes : Nat := 256 * 1024

def maxPendingPayloadBytes : Nat := maxSerializedStateBytes - roomStateNonPayloadReserveBytes

def maxGuardSessions : Nat := 128

def maxPayloadBytes : Nat := 1000000

/-! ## State -/

inductive SessionRole where
  | agent
  | client
deriving DecidableEq

inductive SessionPhase where
  | connected
  | challenged
  | proven
  | ready
deriving DecidableEq

structure SessionAttachment where
  role : SessionRole
  (deviceId sessionId : String)
  connectedAt : Int
  phase : SessionPhase
  challengeMessage : Option String := none
  scope : Option String := none
  lastSeq : Option Int := none
  remoteRoutingEnabled : Bool := false

structure DeviceEnvelope where
  (messageId type deviceId : String)
  correlationId : Option Json
  seq : Nat
  sentAt : String
  expiresAt : Option String
  payload : Fields

structure PendingOperation where
  (correlationId type fromSession : String)
  createdAt : Option Int
  payload : Fields
  expiresAt : Option String
  dispatchedAt : Option Int
  dispatchCount : Nat
  liveOnly : Bool

/-- The last sequence number of a session and when each of its message ids was seen. -/
structure IngressGuard where
  lastSeq : Int
  seenMessageIds : OrderedMap String Int

/-- A frame: an envelope of the router's own, or a text passed on. -/
inductive Frame where
  | envelope (e : DeviceEnvelope)
  | raw (text : String)

structure Router where
  deviceId : String
  sessions : OrderedMap String SessionAttachment
  pending : OrderedMap String PendingOperation
  ingressGuards : OrderedMap String IngressGuard
  seqOut : Nat
  sent : List (String × Frame)
  dropped : List PendingOperation

/-- What the platform answers: encoders and parsers, random ids (one for each outbound
sequence number), and whether a session's socket takes a frame. -/
structure Platform where
  enc : Encoding
  parse : String → Option Json
  parseDate : String → Option Int
  integer : Json → Option Int
  lower : String → String
  timestamp : Int → String
  localeLe : String → String → Bool
  (messageId nonceB connectionId : Nat → String)
  verifyProof : String → String → String → Bool
  delivers : String → Bool

/-! ## Expiry of pending operations -/

/-- The deadline of a pending operation. -/
def pendingDeadlineMs (parseDate : String → Option Int) (p : PendingOperation) : Option Int :=
  let fallback := p.createdAt.map fun createdAt =>
    createdAt + if p.liveOnly then liveTransferTombstoneMaxTtlMs else pendingTtlMs
  match p.expiresAt with
  | some expiresAt =>
    if trim expiresAt = "" then fallback
    else
      match parseDate expiresAt with
      | some deadline => some deadline
      | none => fallback
  | none => fallback

/-- The operation is a detached command, which waits until its own expiry. -/
def isDetachedCommandPending (p : PendingOperation) : Bool :=
  (p.payload.get "capability").bind Json.asText = some "command.run" &&
    match p.payload.get "arguments" with
    | some (.object arguments) => (Fields.get arguments "detach").bind Json.asBool = some true
    | _ => false

def staleByTtl (now : Int) (p : PendingOperation) : Bool :=
  !p.liveOnly &&
    match p.createdAt with
    | none => true
    | some createdAt => !isDetachedCommandPending p && pendingTtlMs < now - createdAt

def staleByExpiry (parseDate : String → Option Int) (now : Int) (p : PendingOperation) : Bool :=
  match pendingDeadlineMs parseDate p with
  | some deadline => deadline ≤ now
  | none => false

def isStale (parseDate : String → Option Int) (now : Int) (p : PendingOperation) : Bool :=
  staleByTtl now p || staleByExpiry parseDate now p

/-- The order in which entries over the cap are dropped. -/
def createdFirst (a b : String × PendingOperation) : Bool :=
  match a.2.createdAt, b.2.createdAt with
  | some left, some right => left ≤ right
  | _, _ => true

/-- The entries over the cap, oldest first. -/
def overflow (pending : OrderedMap String PendingOperation) : List (String × PendingOperation) :=
  (pending.entries.insertionSort fun a b => createdFirst a b).take
    (pending.size - maxPendingOperations)

/-- The entries that pruning removes. -/
def expiredEntries (parseDate : String → Option Int) (now : Int)
    (pending : OrderedMap String PendingOperation) : List (String × PendingOperation) :=
  pending.entries.filter (fun entry => isStale parseDate now entry.2) ++
    overflow (pending.retain fun entry => !isStale parseDate now entry.2)

/-- Remove the pending operations that have expired and those over the cap. -/
def Router.pruneExpiredPending (parseDate : String → Option Int) (now : Int) (r : Router) :
    Router × List PendingOperation :=
  let fresh := r.pending.retain fun entry => !isStale parseDate now entry.2
  let over_ := overflow fresh
  let removed := (expiredEntries parseDate now r.pending).map Prod.snd
  ({ r with
      pending := fresh.retain fun entry => !over_.any fun dropped => dropped.1 = entry.1
      dropped := r.dropped ++ removed }, removed)

/-! ## Replay guards -/

def seenFirst (a b : String × Int) : Bool := a.2 ≤ b.2

def pruneSeenMessageIds (now : Int) (guard : IngressGuard) : IngressGuard :=
  let recent := guard.seenMessageIds.retain fun entry => now - entry.2 ≤ seenMessageIdTtlMs
  let over_ := (recent.entries.insertionSort fun a b => seenFirst a b).take
    (recent.size - maxSeenMessageIds)
  { guard with
    seenMessageIds := recent.retain fun entry => !over_.any fun dropped => dropped.1 = entry.1 }

/-- Prune what every guard has seen, then the pending operations. -/
def Router.pruneAll (parseDate : String → Option Int) (now : Int) (r : Router) :
    Router × List PendingOperation :=
  { r with
    ingressGuards := r.ingressGuards.mapValues (pruneSeenMessageIds now) }.pruneExpiredPending
      parseDate now

/-- Drop the guards without a session, lowest sequence number first, down to a size. -/
def Router.pruneDetachedGuards (r : Router) (targetSize : Nat) : Router :=
  let detached := (r.ingressGuards.entries.filter fun entry => !r.sessions.has entry.1)
    |>.insertionSort fun a b => a.2.lastSeq ≤ b.2.lastSeq
  let dropped := detached.take (r.ingressGuards.size - targetSize)
  { r with
    ingressGuards := r.ingressGuards.retain fun entry =>
      !dropped.any fun guard => guard.1 = entry.1 }

/-- Register a session; refused when a new guard would evict a live one. -/
def Router.registerSession (r : Router) (att : SessionAttachment) : Router × Bool :=
  match r.ingressGuards.get att.sessionId with
  | some guard =>
    let lastSeq := match att.lastSeq with
      | some seq => max guard.lastSeq seq
      | none => guard.lastSeq
    ({ r with
        ingressGuards := r.ingressGuards.set att.sessionId { guard with lastSeq := lastSeq }
        sessions := r.sessions.set att.sessionId att }, true)
  | none =>
    let r := if maxGuardSessions ≤ r.ingressGuards.size then
        r.pruneDetachedGuards (maxGuardSessions - 1)
      else r
    if maxGuardSessions ≤ r.ingressGuards.size then (r, false)
    else
      let guard : IngressGuard :=
        { lastSeq := max 0 (att.lastSeq.getD 0), seenMessageIds := .empty }
      ({ r with
          ingressGuards := r.ingressGuards.set att.sessionId guard
          sessions := r.sessions.set att.sessionId att }, true)

/-! ## Frames -/

variable (env : Platform)

/-- Send a frame; the answer says whether the socket took it. -/
def Router.sendToSession (r : Router) (sessionId : String) (frame : Frame) : Router × Bool :=
  if env.delivers sessionId then ({ r with sent := r.sent ++ [(sessionId, frame)] }, true)
  else (r, false)

/-- The next outbound envelope. -/
def Router.nextEnvelope (r : Router) (type : String) (payload : Fields)
    (correlationId : Option Json) (expiresAt : Option String) (now : Int) :
    Router × DeviceEnvelope :=
  let seq := r.seqOut + 1
  ({ r with seqOut := seq },
    { messageId := env.messageId seq
      type := type
      deviceId := r.deviceId
      correlationId := correlationId.filter Json.isTruthy
      seq := seq
      sentAt := env.timestamp now
      expiresAt :=
        match expiresAt.filter (· ≠ "") with
        | some expiry => some expiry
        | none =>
          if type = "operation.request" then some (env.timestamp (now + operationRequestTtlMs))
          else none
      payload := payload })

/-- Send an envelope of the given type to a session. -/
def Router.reply (r : Router) (sessionId type : String) (payload : Fields)
    (correlationId : Option Json) (now : Int) : Router :=
  let (r, envelope) := r.nextEnvelope env type payload correlationId none now
  (r.sendToSession env sessionId (.envelope envelope)).1

def Router.sendError (r : Router) (sessionId code message : String)
    (correlationId : Option Json) (now : Int) : Router :=
  r.reply env sessionId "error" [("code", .text code), ("message", .text message)]
    correlationId now

/-- The session is that of an agent that takes remote operations. -/
def isRemoteRoutingAgent (session : SessionAttachment) : Bool :=
  session.role = .agent && session.phase = .ready && session.remoteRoutingEnabled

/-- The sessions that a request is sent to. -/
def Router.agentSessions (r : Router) : List String :=
  (r.sessions.entries.filter fun entry => isRemoteRoutingAgent entry.2).map Prod.fst

/-- Send a frame to every ready agent; the answer counts the sockets that took it. -/
def Router.sendToAgents (r : Router) (frame : Frame) : Router × Nat :=
  r.agentSessions.foldl
    (fun (r, n) sessionId =>
      let (r, taken) := r.sendToSession env sessionId frame
      (r, if taken then n + 1 else n)) (r, 0)

def Router.totalPendingPayloadBytes (r : Router) : Nat :=
  (r.pending.values.map fun p => (env.enc.object p.payload).utf8ByteSize).sum

/-! ## Operations injected over HTTP -/

structure InjectRequest where
  type : String
  payload : Fields
  correlationId : String
  (fromSession expiresAt : Option String)

/-- The session that the operation is sent for. -/
def InjectRequest.source (op : InjectRequest) : String :=
  (op.fromSession.filter (· ≠ "")).getD "http_client"

/-- A staged injection: its pending entry and sequence number are reserved, nothing is sent. -/
structure PreparedInject where
  correlationId : String
  envelope : DeviceEnvelope
  fromSession : String
  createdSessionId : Option String

/-- The status and the detail of an injection that is not dispatched. -/
structure InjectRefusal where
  (status code : String)
  message : Option String := none
  reason : Option String := none

/-- The deadline that an injection binds, or why it is refused. -/
def boundExpiry (now : Int) (expiresAt : Option String) : Except InjectRefusal (Option String) :=
  match expiresAt with
  | none => .ok none
  | some expiry =>
    if trim expiry = "" then .ok none
    else
      match env.parseDate expiry with
      | none =>
        .error ⟨"rejected", "OWNMESH_E_BAD_ENVELOPE",
          some "expires_at is not a valid timestamp", none⟩
      | some deadline =>
        if deadline ≤ now then
          .error ⟨"rejected", "OWNMESH_E_ENVELOPE_EXPIRED",
            some "operation expires_at already elapsed", none⟩
        else .ok (some expiry)

/-- The cancel control is kept for a device that is offline. -/
def isDurableOfflineCancel (type : String) (payload : Fields) : Bool :=
  type = "ownmesh_cancel_operation" &&
    (payload.get "capability").bind Json.asText = some "operation.cancel"

/-- The session that an injection is for, registered where it is new. -/
def Router.injectSession (now : Int) (r : Router) (from_ : String) :
    Router × Except InjectRefusal (Option String) :=
  if r.sessions.has from_ then (r, .ok none)
  else
    let (r, registered) := r.registerSession
      { role := .client, deviceId := r.deviceId, sessionId := from_, connectedAt := now,
        phase := .connected }
    if registered then (r, .ok (some from_))
    else (r, .error ⟨"rejected", "OWNMESH_E_GUARD_SESSION_LIMIT", none, none⟩)

/-- What is wrong with a normalised request. -/
def requestFault (normalized : Fields) (correlationId : String) : Option InjectRefusal :=
  if env.enc.stringOr (normalized.get "operation_id") "" ≠ correlationId then
    some ⟨"rejected", "OWNMESH_E_BAD_ENVELOPE",
      some "correlation_id must equal payload operation_id", none⟩
  else if trim (env.enc.stringOr (normalized.get "capability") "") = "" then
    some ⟨"rejected", "OWNMESH_E_BAD_ENVELOPE", some "capability is required", none⟩
  else none

/-- The type under which a request is kept: its own, its action, or its capability. -/
def pendingType (type : String) (normalized : Fields) : String :=
  if type ≠ "" then type
  else
    let action :=
      match normalized.get "arguments" with
      | some (.object arguments) => Fields.get arguments "action"
      | _ => none
    env.enc.stringOr action (env.enc.stringOr (normalized.get "capability") "")

/-- Reserve the pending entry and the sequence number of an injection. -/
def Router.stageInject (now : Int) (r : Router) (op : InjectRequest) (from_ : String)
    (createdSessionId : Option String) : Router × Except InjectRefusal PreparedInject :=
  let normalized :=
    buildOperationRequestPayload env.enc env.lower op.type op.payload op.correlationId
  match requestFault env normalized op.correlationId with
  | some fault => (r, .error fault)
  | none =>
    match boundExpiry env now op.expiresAt with
    | .error refusal => (r, .error refusal)
    | .ok expiry =>
      let (r, envelope) := r.nextEnvelope env "operation.request" normalized
        (some (.text op.correlationId)) expiry now
      let entry : PendingOperation :=
        { correlationId := op.correlationId
          type := pendingType env op.type normalized
          fromSession := from_
          createdAt := some now
          payload := normalized
          expiresAt := envelope.expiresAt
          dispatchedAt := none
          dispatchCount := 0
          liveOnly := false }
      ({ r with pending := r.pending.set op.correlationId entry },
        .ok ⟨op.correlationId, envelope, from_, createdSessionId⟩)

/-- Stage an operation that came over HTTP. -/
def Router.prepareInjectOperation (now : Int) (r : Router) (op : InjectRequest) :
    Router × Except InjectRefusal PreparedInject :=
  let (r, _) := r.pruneExpiredPending env.parseDate now
  if maxPendingOperations ≤ r.pending.size then
    (r, .error ⟨"rejected", "OWNMESH_E_PENDING_LIMIT", none, none⟩)
  else if maxPendingPayloadBytes <
      r.totalPendingPayloadBytes env + (env.enc.object op.payload).utf8ByteSize then
    (r, .error ⟨"rejected", "OWNMESH_E_PENDING_PAYLOAD_LIMIT", none, none⟩)
  else if r.agentSessions = [] && !isDurableOfflineCancel op.type op.payload then
    (r, .error ⟨"device_offline", "OWNMESH_E_DEVICE_OFFLINE", none, some "no_ready_agent"⟩)
  else
    match r.injectSession now op.source with
    | (r, .error refusal) => (r, .error refusal)
    | (r, .ok createdSessionId) => r.stageInject env now op op.source createdSessionId

/-! ## Status -/

structure RouterStatus where
  deviceId : String
  (sessions pending agents clients readyAgents : Nat)
  online : Bool

def Router.status (now : Int) (r : Router) : Router × RouterStatus :=
  let (r, _) := r.pruneExpiredPending env.parseDate now
  let agents := r.sessions.values.filter fun s => s.role = .agent
  let readyAgents := agents.filter fun s => s.phase = .ready
  (r,
    { deviceId := r.deviceId
      sessions := r.sessions.size
      pending := r.pending.size
      agents := agents.length
      clients := r.sessions.size - agents.length
      readyAgents := readyAgents.length
      online := readyAgents ≠ [] })

end OwnMesh.DeviceRoom
