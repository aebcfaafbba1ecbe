import OwnMesh.Daemon.Handlers

/-!
# The handlers that end a session

Closing keeps the session and ends its host; terminating also removes the session.
The two handlers differ in little else, so they share one program, `endSessionOf`, with
the differences in an `Ending`.  Unlike the other mutations they check the device
before anything is written down, and they fall back on the operating system when the
supervisor is out of reach.
-/

namespace OwnMesh.Daemon

open Foundations Ipc Sessions Transitions Program
open Supervisor (SupervisorBinding)

structure CloseParams where
  id : String
  leaseId : Option String
  controllerEpoch : Option Nat
  (workspaceId idempotencyKey : Option String)

structure TerminateParams where
  (id sessionId : Option String)
  all : Bool
  (workspaceId leaseId : Option String)
  controllerEpoch : Option Nat
  idempotencyKey : Option String

/-- What distinguishes closing from terminating. -/
structure Ending where
  kind : TransitionKind
  name : String
  done : String × Value

def closing : Ending where
  kind := .close
  name := "close"
  done := ("closed", .bool true)

def terminating : Ending where
  kind := .terminate
  name := "terminate"
  done := ("terminated", .ofInt 1)

/-- A request to end one session, as the handler has checked it. -/
structure EndRequest where
  (id client : String)
  leaseId : Option String
  controllerEpoch : Option Nat
  workspace : String
  key : Option String
  now : Int

section Handlers

variable {ω : Type} (env : Environment ω)

/-- The answer of a request that ended its session. -/
def answerEnding (ending : Ending) (request : EndRequest) (operation : String)
    (reconciled : Bool) : DaemonM ω Value :=
  storeSessionMutationReceipt env request.key operation
    (.ofFields
      ([ending.done] ++ (if reconciled then [("reconciled", .bool true)] else []) ++
        [("session_id", .string request.id), ("workspace_id", .string request.workspace),
          ("operation_id", .string operation)]))

/-- Remote principals name their lease; local ones must hold the seat. -/
def requireSeat (ending : Ending) (id client : String) (leaseId : Option String)
    (controllerEpoch : Option Nat) (now : Int) : DaemonM ω Unit :=
  if isRemoteRuntimePrincipal env client then
    authorizeRemoteSeat ending.name id client leaseId controllerEpoch now
  else requireController id client now

/-- The record of the end of a session, for the seat that is given up. -/
def terminalRecord (ending : Ending) (request : EndRequest) (active : ControllerLease)
    (old : SidecarHostBinding) : TransitionRecord :=
  let seatLease := request.leaseId.getD active.leaseId
  let seatEpoch := request.controllerEpoch.getD active.epoch
  intentRecord ending.kind s!"{ending.name}:{request.id}:{seatLease}:{seatEpoch}"
    request.id request.workspace request.client old
    { seatOf active with principal := request.client, terminal := true } request.now

/-- Whether the child of a binding is alive; an unknown process is an error. -/
def persistentChildIsLive (binding : SidecarHostBinding) : DaemonM ω Bool :=
  let unverified (reason : String) : IpcError :=
    .remote AppError.conflict
      (s!"persistent session supervisor unavailable; unable to verify child identity: {reason}")
  match binding.childPid, binding.childProcessBirth with
  | none, _ =>
    fail (unverified "persistent sidecar binding lacks a durable child PID")
  | some _, none =>
    fail (unverified "persistent sidecar binding lacks a durable child birth witness")
  | some pid, some expected => do
    match ← ask (env.runningProcessBirthId pid) with
    | .error reason => fail (unverified reason)
    | .ok none => pure false
    | .ok (some observed) => pure (observed == expected)

/-- What is left of a session whose child is proven dead. -/
def reconciledOutcome (kind : TransitionKind) (id : String) : DaemonM ω Unit :=
  match kind with
  | .terminate => withSessions (terminate id)
  | _ => closeHostless id

/-- End a session without the supervisor, when its child is proven dead. -/
def reconcileTerminalAfterSupervisorFailure (kind : TransitionKind) (id : String) :
    DaemonM ω Unit := do
  let current ← withSessions (info id)
  match current.sidecarHost with
  | none =>
    fail (.remote AppError.conflict
      (s!"persistent session supervisor unavailable; session {id} has no durable child " ++
        "identity to reconcile safely"))
  | some binding => do
    let live ← persistentChildIsLive env binding
    require (live = false)
      (.remote AppError.conflict
        ("persistent session supervisor unavailable; authenticated child is still alive, " ++
          "refusing PID-only termination"))
    let snapshot ← reads DaemonRuntime.sessions
    reconciledOutcome kind id
    commitSessions env snapshot

/-- The copy of the manager to install after the supervisor ended the host. -/
def boundPreview (kind : TransitionKind) (id : String) (preview : SessionManager) :
    DaemonM ω SessionManager :=
  match kind with
  | .terminate => pure preview
  | _ => do
    let bound ← onPreview preview (setSidecarHostBinding id none)
    pure bound.2

/-- Ask the supervisor to end the host, then install and write the copy. -/
def sendEnding (ending : Ending) (request : EndRequest) (record : TransitionRecord)
    (binding : SupervisorBinding) (preview snapshot : SessionManager) : DaemonM ω Unit := do
  let _ ← withTransitions (fun reason => s!"begin sidecar {ending.name} journal: {reason}")
    (beginTransition env.transitions record)
  requireSupervisor AppError.conflict "sidecar unavailable after bootstrap"
  match ← requestTerminate env binding record.transitionId with
  | some e =>
    fail (.remote AppError.conflict s!"sidecar {ending.name} failed: {e.display}")
  | none => do
    withTransitions (fun reason => s!"mark sidecar {ending.name} journal: {reason}")
      (markTerminalApplied env.transitions record.transitionId)
    let bound ← boundPreview ending.kind request.id preview
    installSessions env bound snapshot
    clearTransition env s!"clear sidecar {ending.name} journal" record.transitionId

/-- A session whose host was cleaned up while reconnecting: closing is done, and
terminating still removes it. -/
def finishRecoveredEnding (kind : TransitionKind) (id : String) : DaemonM ω Unit :=
  match kind with
  | .terminate => do
    let snapshot ← reads DaemonRuntime.sessions
    withSessions (terminate id)
    commitSessions env snapshot
  | _ => pure ()

/-- End a session that has a host at the supervisor. -/
def endThroughSupervisor (ending : Ending) (request : EndRequest) (record : TransitionRecord)
    (old : SidecarHostBinding) (operation : String) (preview snapshot : SessionManager) :
    DaemonM ω Value := do
  let binding ← verifiedSidecarBindingFrom request.id old
  match ← attempt (ensureRemoteSupervisor env) with
  | .error _ => do
    reconcileTerminalAfterSupervisorFailure env ending.kind request.id
    answerEnding env ending request operation true
  | .ok _ => do
    match ← reads fun d : DaemonRuntime ω => d.sessions.get request.id with
    | .error .notFound => answerEnding env ending request operation true
    | .error e => fail (sessionErr e)
    | .ok current =>
      if current.sidecarHost = none then do
        finishRecoveredEnding env ending.kind request.id
        answerEnding env ending request operation true
      else do
        sendEnding env ending request record binding preview snapshot
        answerEnding env ending request operation false

/-- Move the output of a host the daemon runs itself into its session. -/
def drainLiveOutputIntoSession (id : String) : DaemonM ω Unit := do
  let sessions ← reads DaemonRuntime.sessions
  let drained ← ask (env.drainLiveOutput id sessions)
  Program.modify fun d => { d with sessions := drained }

/-- Stop a host the daemon runs itself. -/
def stopLiveHost (id : String) : DaemonM ω Unit := do
  let liveHosts ← reads DaemonRuntime.liveHosts
  whenever (id ∈ liveHosts) (do
    Program.modify fun d => { d with liveHosts := d.liveHosts.erase id }
    let _ ← attempt (withSessions (setHostPid id none) : DaemonM ω Unit)
    pure ())

/-- End one session, once the request has been checked. -/
def endSessionOf (ending : Ending) (request : EndRequest) : DaemonM ω Value := do
  drainLiveOutputIntoSession env request.id
  let snapshot ← reads DaemonRuntime.sessions
  let current ← withSessions (info request.id)
  match current.controller with
  | none => fail (.remote AppError.conflict "session has no active controller")
  | some active => do
    let ended ← onPreview snapshot (terminalOutcome ending.kind request.id)
    let operation ← operationId env
    withJournal (OpJournal.beginIdempotent env.journal request.key operation)
    match current.sidecarHost with
    | some old =>
      endThroughSupervisor env ending request (terminalRecord ending request active old) old
        operation ended.2 snapshot
    | none => do
      installSessions env ended.2 snapshot
      stopLiveHost request.id
      answerEnding env ending request operation false

/-- The checks of a request to end one session, then its end. -/
def checkAndEnd (ending : Ending) (id client : String) (leaseId : Option String)
    (controllerEpoch : Option Nat) (workspaceId key : Option String) (now : Int) :
    DaemonM ω Value := do
  let workspace ← requireSessionWorkspace id workspaceId
  requireSeat env ending id client leaseId controllerEpoch now
  fenceAmbiguousTransition env id
  endSessionOf env ending
    { id := id, client := client, leaseId := leaseId, controllerEpoch := controllerEpoch,
      workspace := workspace, key := key, now := now }

/-- Answer a repeated request from its receipt. -/
def unlessReplayed (key : Option String) (rest : DaemonM ω Value) : DaemonM ω Value := do
  match ← remoteMutationReceipt env key with
  | some receipt => pure receipt
  | none => rest

def handleSessionClose (params : Except IpcError CloseParams) (client : String) :
    DaemonM ω Value := do
  let p ← ofExcept params
  let key := journalKey env client p.idempotencyKey
  unlessReplayed env key (do
    let now ← prepareSessionAccess env
    checkAndEnd env closing p.id client p.leaseId p.controllerEpoch p.workspaceId key now)

/-- End every session a local principal holds. -/
def terminateAll (client : String) (now : Int) : DaemonM ω Value := do
  require (isRemoteRuntimePrincipal env client = false)
    (.remote AppError.policyDenied
      "remote session.terminate all is forbidden; terminate one exact lease")
  let sessions ← reads DaemonRuntime.sessions
  let controlled := (sessions.list.filter fun info =>
    (info.activeController now).any fun lease => lease.principalId = client).map SessionInfo.id
  forEach (fenceAmbiguousTransition env) controlled
  forEach (drainLiveOutputIntoSession env) controlled
  let snapshot ← reads DaemonRuntime.sessions
  forEach (fun id => withSessions (terminate id)) controlled
  commitSessions env snapshot
  forEach stopLiveHost controlled
  pure (.ofFields [("terminated", .ofInt controlled.length), ("all", .bool true)])

/-- The session a terminate request names; its two names for it must agree. -/
def terminatedId (p : TerminateParams) : Except IpcError String :=
  if p.id.isSome ∧ p.sessionId.isSome ∧ p.id ≠ p.sessionId then
    .error (.remote AppError.invalidParams "id and session_id disagree")
  else
    match p.id.or p.sessionId with
    | some id => .ok id
    | none => .error (.remote AppError.invalidParams "id or all required")

def handleSessionTerminate (params : Except IpcError TerminateParams) (client : String) :
    DaemonM ω Value := do
  let p ← ofExcept params
  let key := journalKey env client p.idempotencyKey
  unlessReplayed env key (do
    let now ← prepareSessionAccess env
    if p.all then terminateAll env client now
    else do
      let id ← ofExcept (terminatedId p)
      checkAndEnd env terminating id client p.leaseId p.controllerEpoch p.workspaceId key now)

end Handlers

end OwnMesh.Daemon
