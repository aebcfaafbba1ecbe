import OwnMesh.OpJournal.Store
import OwnMesh.Supervisor.Manifest
import OwnMesh.Transitions.Journal

/-!
# The daemon's session state

The daemon holds the session manager, the transition journal and the operation
journal in memory and on disk, and a connection to the session-host supervisor.
Handlers change a copy of the manager, ask the supervisor, then install the copy and
write it (`commitSessions`); a failed write installs the copy taken before.

Everything outside the daemon is a parameter (`Environment`) over an arbitrary world
`ω`: the clock, random identifiers, the outcome of each write, the answers of the
supervisor and of the operating system.  `sent` is a history of the mutations asked of
the supervisor; no program reads it.
-/

namespace OwnMesh.Daemon

open Foundations Ipc Sessions Transitions Program
open Supervisor (SupervisorBinding SupervisorStatus TerminationReceipt Change)

/-! ## Surroundings and state -/

/-- What the surroundings decide.  An answer `some reason` of a write is a failure.
`bootstrap` launches the supervisor and connects to it; `change` and `terminate` are the
supervisor's mutations, each with the identifier of its transition; `loadFiles` is the
reading of the daemon's files when it starts, and `drainLiveOutput` moves the output of
a host the daemon runs itself into its session. -/
structure Environment (ω : Type) where
  journal : OpJournal.Environment ω
  transitions : Transitions.Environment ω
  (transitionJournalDir sessionsPath : String)
  canonicalizePrincipalKey : String → String
  fresh : ω → String × ω
  writeSessions : SessionManager → ω → Option String × ω
  bootstrap : ω → Option IpcError × ω
  status : SupervisorBinding → ω → Except IpcError SupervisorStatus × ω
  hostLive : String → ω → Except IpcError Bool × ω
  change : SupervisorBinding → Change → String → ω → Except IpcError SupervisorBinding × ω
  terminate : SupervisorBinding → String → ω → Option IpcError × ω
  runningProcessBirthId : Nat → ω → Except String (Option Nat) × ω
  terminationReceipt : String → ω → Option TerminationReceipt × ω
  loadFiles : ω → Option String × ω
  drainLiveOutput : String → SessionManager → ω → SessionManager × ω

/-- The daemon's clock. -/
def Environment.now {ω : Type} (env : Environment ω) : ω → Int × ω := env.journal.now

/-- A mutation asked of the supervisor. -/
inductive Sent where
  | change (binding : SupervisorBinding) (change : Change) (transitionId : String)
  | terminate (binding : SupervisorBinding) (transitionId : String)
deriving DecidableEq, Repr

/-- The state of the daemon; the operation journal carries the world. -/
structure DaemonRuntime (ω : Type) extends OpJournal.Journal ω where
  (sessions sessionsFile : SessionManager)
  (transitions transitionsFile : Table String TransitionRecord)
  /-- Whether the daemon is connected to the supervisor. -/
  (connected transitionRecoveryRunning : Bool)
  retainedExpired : List String
  (retainedExpiredTotal reattachRetainedSessions : Nat)
  liveHosts : List String
  (activeRemoteOperationId activeRemoteDeviceId : Option String)
  sent : List Sent

/-- Programs of the daemon. -/
abbrev DaemonM (ω α : Type) : Type := Program (DaemonRuntime ω) IpcError α

section Primitives

variable {ω : Type}

/-- Ask the surroundings. -/
def ask {ε α : Type} (question : ω → α × ω) : Program (DaemonRuntime ω) ε α :=
  query fun d => ((question d.world).1, { d with world := (question d.world).2 })

/-- The transition journal of the daemon. -/
def DaemonRuntime.transitionJournal (d : DaemonRuntime ω) : TransitionJournal ω where
  entries := d.transitions
  file := d.transitionsFile
  world := d.world

def DaemonRuntime.setTransitionJournal (j : TransitionJournal ω) (d : DaemonRuntime ω) :
    DaemonRuntime ω :=
  { d with transitions := j.entries, transitionsFile := j.file, world := j.world }

/-- An operation of the transition journal; `describe` words its error. -/
def withTransitions {α : Type} (describe : String → String) (m : TransitionM ω α) : DaemonM ω α :=
  Program.mapError (fun reason => .remote AppError.internal (describe reason))
    (Program.zoom DaemonRuntime.transitionJournal DaemonRuntime.setTransitionJournal m)

/-- An operation of the operation journal. -/
def withJournal {α : Type} (m : OpJournal.JournalM ω α) : DaemonM ω α :=
  Program.zoom DaemonRuntime.toJournal (fun j d => { d with toJournal := j }) m

/-- The request error of a session error. -/
def sessionErr (e : SessionError) : IpcError :=
  match e with
  | .notFound | .invalid _ | .chunkTooLarge | .sequenceRequired _ | .sequenceStale _ _ _
  | .sequenceGap _ _ _ | .sequenceConflict _ _ => .remote AppError.invalidParams e.display
  | .notReader => .remote AppError.policyDenied e.display
  | .sessionLimit | .replayBudget | .leaseHeld _ | .notController | .observerCannotWrite
  | .closed => .remote AppError.conflict e.display
  | .persist _ => .remote AppError.internal e.display

/-- An operation of the session manager in memory. -/
def withSessions {α : Type} (m : SessionM α) : DaemonM ω α :=
  Program.mapError sessionErr
    (Program.zoom DaemonRuntime.sessions (fun sessions d => { d with sessions := sessions }) m)

/-- An operation on a copy of the session manager. -/
def onPreview {α : Type} (preview : SessionManager) (m : SessionM α) :
    DaemonM ω (α × SessionManager) :=
  match m.run preview with
  | (.ok a, next) => pure (a, next)
  | (.error e, _) => fail (sessionErr e)

variable (env : Environment ω)

/-! ## The session store -/

/-- Write the sessions in memory to their file. -/
def persistSessions : DaemonM ω Unit := do
  let sessions ← reads DaemonRuntime.sessions
  match ← ask (env.writeSessions sessions) with
  | some reason => fail (.remote AppError.internal s!"session persist failed: {reason}")
  | none => Program.modify fun d => { d with sessionsFile := sessions }

/-- Write the sessions; when that fails, go back to an earlier copy. -/
def commitSessions (snapshot : SessionManager) : DaemonM ω Unit := do
  match ← attempt (persistSessions env) with
  | .ok _ => pure ()
  | .error e => do
    Program.modify fun d => { d with sessions := snapshot }
    fail e

/-- Make a copy the sessions in memory, and write it. -/
def installSessions (preview snapshot : SessionManager) : DaemonM ω Unit := do
  Program.modify fun d => { d with sessions := preview }
  commitSessions env snapshot

/-- Whether a session has a lease that is no longer active. -/
def hasStaleLease (now : Int) (info : SessionInfo) : Bool :=
  info.controller.any fun lease => !lease.isActive now

/-- Expire stale leases and write the result, before a request looks at sessions. -/
def prepareSessionAccess : DaemonM ω Int := do
  let now ← ask env.now
  let snapshot ← reads DaemonRuntime.sessions
  whenever (snapshot.list.any (hasStaleLease now)) (do
    Program.modify fun d => { d with sessions := d.sessions.expireStaleLeases now }
    commitSessions env snapshot)
  pure now

/-! ## Checks of a request -/

def rejectSpoofedPrincipal (claimed : Option String) (authenticated : String) : DaemonM ω Unit :=
  match claimed with
  | none => pure ()
  | some claimed =>
    require (claimed = authenticated)
      (.remote AppError.unauthorized
        (s!"self-reported principal '{claimed}' does not match authenticated client " ++
          s!"'{authenticated}'"))

def requireReader (id principal : String) : DaemonM ω Unit := do
  match ← reads fun d : DaemonRuntime ω => ((authorizeReader id principal).run d.sessions).1 with
  | .ok _ => pure ()
  | .error .notReader =>
    fail (.remote AppError.policyDenied s!"principal {principal} cannot read session {id}")
  | .error e => fail (sessionErr e)

def requireController (id principal : String) (now : Int) : DaemonM ω Unit := do
  match ← reads fun d : DaemonRuntime ω =>
    ((authorizeController id principal now).run d.sessions).1 with
  | .ok _ => pure ()
  | .error .notController =>
    fail
      (.remote AppError.policyDenied s!"principal {principal} is not controller of session {id}")
  | .error e => fail (sessionErr e)

/-- The legacy name of the built-in workspace. -/
def aliasDefault (workspaceId : String) : String :=
  if workspaceId = "default" then "ws_default" else workspaceId

/-- A workspace identifier without surrounding white space, if there is one. -/
def givenWorkspace (workspaceId : Option String) : Option String :=
  (workspaceId.map trim).filter fun id => id ≠ ""

/-- The workspace a session is bound to. -/
def boundWorkspace (workspaceId : Option String) : String :=
  aliasDefault ((givenWorkspace workspaceId).getD "ws_default")

def requireSessionWorkspace (id : String) (workspaceId : Option String) : DaemonM ω String := do
  let info ← withSessions (info id)
  let bound := boundWorkspace info.workspaceId
  match givenWorkspace workspaceId with
  | none => pure bound
  | some raw => do
    require (bound = aliasDefault raw)
      (.remote AppError.policyDenied
        s!"session {id} is bound to workspace {bound}, not {aliasDefault raw}")
    pure bound

/-- Refuse to change a session whose last transition is unresolved. -/
def fenceAmbiguousTransition (id : String) : DaemonM ω Unit := do
  let fenced ← reads fun d : DaemonRuntime ω =>
    d.transitionJournal.pending.any fun record => record.sessionId == id
  require (fenced = false)
    (.remote AppError.conflict
      (s!"session {id} has an unresolved sidecar transition journal record; operations are " ++
        "fenced until it is resolved — run `ownmesh doctor` or inspect " ++
        env.transitionJournalDir))

/-- The binding to present to the supervisor. -/
def supervisorBindingFrom (sessionId : String) (binding : SidecarHostBinding) :
    SupervisorBinding where
  sessionId := sessionId
  deviceId := binding.deviceId
  workspaceId := binding.workspaceId
  ownerPrincipal := binding.ownerPrincipal
  hostNonce := binding.hostNonce
  controllerEpoch := binding.controllerEpoch

/-- The binding to present, if the request came from the device it belongs to. -/
def verifiedSidecarBindingFrom (sessionId : String) (binding : SidecarHostBinding) :
    DaemonM ω SupervisorBinding := do
  match ← reads DaemonRuntime.activeRemoteDeviceId with
  | none => pure (supervisorBindingFrom sessionId binding)
  | some device => do
    require (binding.deviceId = device)
      (.remote AppError.policyDenied
        (s!"persistent session {sessionId} is bound to device {binding.deviceId}, not " ++
          s!"verified device {device}"))
    pure (supervisorBindingFrom sessionId binding)

def principalJournalKey (principal idempotencyKey : String) : String :=
  env.canonicalizePrincipalKey principal ++ "\x1f" ++ idempotencyKey

/-- The journal key of a request that sent a non-empty idempotency key. -/
def journalKey (principal : String) (idempotencyKey : Option String) : Option String :=
  (idempotencyKey.filter fun key => key ≠ "").map (principalJournalKey env principal)

/-! ## Receipts of session mutations -/

/-- The receipt a repeated request is answered with. -/
def remoteMutationReceipt (key : Option String) : DaemonM ω (Option Value) :=
  match key with
  | none => pure none
  | some key => do
    let previous ← withJournal (OpJournal.lookupIdempotent env.journal (some key))
    pure (previous.map fun receipt => receipt.insert "replayed" (.bool true))

def storeSessionMutationReceipt (key : Option String) (operationId : String) (body : Value) :
    DaemonM ω Value := do
  let receipt := (body.insert "operation_id" (.string operationId)).insert OpJournal.stateField
    (.string "completed")
  withJournal (OpJournal.storeIdempotent env.journal key receipt)
  pure receipt

/-- The operation a request belongs to; a request without one gets a fresh one. -/
def operationId : DaemonM ω String := do
  match ← reads DaemonRuntime.activeRemoteOperationId with
  | some id => pure id
  | none => do
    let fresh ← ask env.fresh
    pure s!"op_{fresh}"

/-! ## Calls to the supervisor -/

/-- Ask the supervisor for a change of controller. -/
def requestChange (binding : SupervisorBinding) (change : Change) (transitionId : String) :
    DaemonM ω (Except IpcError SupervisorBinding) := do
  Program.modify fun d => { d with sent := d.sent ++ [.change binding change transitionId] }
  ask (env.change binding change transitionId)

/-- Ask the supervisor to end a host. -/
def requestTerminate (binding : SupervisorBinding) (transitionId : String) :
    DaemonM ω (Option IpcError) := do
  Program.modify fun d => { d with sent := d.sent ++ [.terminate binding transitionId] }
  ask (env.terminate binding transitionId)

/-- Fail unless the daemon is connected to the supervisor. -/
def requireSupervisor (code : Int) (message : String) : DaemonM ω Unit := do
  let connected ← reads DaemonRuntime.connected
  require (connected = true) (.remote code message)

end Primitives

/-! ## Surroundings in which everything succeeds -/

/-- Surroundings with a stopped clock in which no write fails and the supervisor grants
every change under a new nonce. -/
def calmEnvironment (now : Int) : Environment Unit where
  journal :=
    { now := fun _ => (now, ())
      encode := fun _ => .ok 0
      primaryPath := "op-journal.json"
      backupPath := "op-journal.json.bak"
      removeBackup := fun _ => (none, ())
      writePrimary := fun _ => (none, ())
      readFile := fun _ => (none, ())
      persistApprovals := fun _ => (none, ())
      persistGrants := fun _ => (none, ())
      consumeGrantUse := fun _ => (none, ()) }
  transitions := { encode := fun _ => .ok [], write := fun _ _ => (.written, ()) }
  transitionJournalDir := "session-transitions"
  sessionsPath := "sessions/sessions.json"
  canonicalizePrincipalKey := id
  fresh := fun _ => ("fresh", ())
  writeSessions := fun _ _ => (none, ())
  bootstrap := fun _ => (none, ())
  status := fun _ _ => (.error (.other "no status"), ())
  hostLive := fun _ _ => (.ok true, ())
  change := fun binding change _ _ =>
    (.ok { binding with
      hostNonce := "host_next"
      controllerEpoch := if change.isRenew then binding.controllerEpoch
        else binding.controllerEpoch + 1 }, ())
  terminate := fun _ _ _ => (none, ())
  runningProcessBirthId := fun _ _ => (.error "unknown process", ())
  terminationReceipt := fun _ _ => (none, ())
  loadFiles := fun _ => (none, ())
  drainLiveOutput := fun _ sessions _ => (sessions, ())

/-- A binding of a host that expires at `hostExpires`. -/
def plainBinding (owner nonce : String) (epoch : Nat) (bindingExpires hostExpires : Int) :
    SidecarHostBinding where
  deviceId := "dev"
  workspaceId := "ws_default"
  ownerPrincipal := owner
  hostNonce := nonce
  controllerEpoch := epoch
  bindingExpiresUnix := bindingExpires
  hostExpiresUnix := hostExpires
  childPid := none
  childProcessBirth := none

/-- A detached session with one observer, kept alive by a host. -/
def plainSession (id observer : String) (binding : SidecarHostBinding) : Session where
  info :=
    { id := id
      kind := .process
      state := .detached
      title := id
      controller := none
      controllerEpoch := binding.controllerEpoch
      observers := [observer]
      cols := 80
      rows := 24
      nextSeq := 1
      viewMode := .raw
      hostPid := none
      sidecarHost := some binding
      command := none
      cwd := none
      workspaceId := some "ws_default"
      lastInputSeq := 0
      lastInputDigest := none
      lastInputState := .none
      lastResizeSeq := 0
      lastResizeDigest := none
      lastResizeState := .none }
  replay := []
  replayLimit := 256
  replayBytes := 0

def plainManager (sessions : Table String Session) : SessionManager where
  sessions := sessions
  defaultReplayLimit := 256
  defaultLeaseTtlSecs := 60
  maxSessions := 64
  maxReplayBytes := 1024

/-- A daemon that has just started on the given sessions and transitions. -/
def startedDaemon (sessions : SessionManager) (transitions : Table String TransitionRecord) :
    DaemonRuntime Unit where
  entries := ∅
  degraded := none
  primary := none
  backup := none
  world := ()
  sessions := sessions
  sessionsFile := sessions
  transitions := transitions
  transitionsFile := transitions
  connected := false
  transitionRecoveryRunning := false
  retainedExpired := []
  retainedExpiredTotal := 0
  reattachRetainedSessions := 0
  liveHosts := []
  activeRemoteOperationId := none
  activeRemoteDeviceId := none
  sent := []

end OwnMesh.Daemon
