import OwnMesh.Daemon.Runtime

/-!
# Recovery of interrupted transitions

When the daemon connects to the supervisor it first finishes the transitions a crash
interrupted (`recoverSidecarTransitions`), then looks at every host a session is bound
to (`reattachPersistentSidecars`).  A record whose host has outlived its time is not
replayed; it is cleared when the host is proven dead and the session can no longer use
it, and kept otherwise.

The programs here run inside every handler that talks to the supervisor, through
`ensureRemoteSupervisor`, and they change and write sessions other than the one the
handler is about.
-/

namespace OwnMesh.Daemon

open Foundations Ipc Sessions Transitions Program
open Supervisor (SupervisorBinding SupervisorStatus TerminationReceipt Change)

section Recovery

variable {ω : Type} (env : Environment ω)

/-- Remove a record from the transition journal. -/
def clearTransition (what : String) (id : String) : DaemonM ω Unit :=
  withTransitions (fun reason => s!"{what}: {reason}") (clear env.transitions id)

def doctorHint : String :=
  s!"run `ownmesh doctor` or inspect {env.transitionJournalDir} "

/-! ## Records whose host has outlived its time -/

/-- What the operating system says of the child of a binding. -/
inductive ProcessProof where
  | dead
  | live
  | unknown
deriving DecidableEq, Repr

/-- A child is dead when its process is gone or its number belongs to another one. -/
def probeChild {ε : Type} (binding : SidecarHostBinding) :
    Program (DaemonRuntime ω) ε ProcessProof :=
  match binding.childPid, binding.childProcessBirth with
  | some pid, some expectedBirth => do
    match ← ask (env.runningProcessBirthId pid) with
    | .ok none => pure .dead
    | .ok (some birth) => pure (if birth = expectedBirth then .live else .dead)
    | .error _ => pure .unknown
  | _, _ => pure .unknown

/-- Probe the children of some bindings; a live one ends the search.  Otherwise the
answer says whether the supervisor must be asked. -/
def probeChildren {ε : Type} : List SidecarHostBinding → Bool →
    Program (DaemonRuntime ω) ε (Option Bool)
  | [], needSupervisor => pure (some needSupervisor)
  | binding :: rest, needSupervisor => do
    match ← probeChild env binding with
    | .dead => probeChildren rest needSupervisor
    | .live => pure none
    | .unknown => probeChildren rest true

def proveExpiredSidecarDead (record : TransitionRecord) :
    Program (DaemonRuntime ω) String Bool := do
  match ← probeChildren env (record.oldBinding :: record.newBinding.toList) false with
  | none => pure false
  | some false => pure true
  | some true => do
    let connected ← reads DaemonRuntime.connected
    require (connected = true)
      "sidecar has no attested child pid and the session supervisor is not connected"
    match ← ask (env.hostLive record.sessionId) with
    | .ok live => pure !live
    | .error e => fail s!"supervisor liveness probe failed: {e.display}"

/-- Whether a host expires after the record that refers to it. -/
def hostOutlivesRecord (record : TransitionRecord) : Bool :=
  decide (record.expiresUnix < record.oldBinding.hostExpiresUnix) ||
    record.newBinding.any fun binding => decide (record.expiresUnix < binding.hostExpiresUnix)

/-- Whether a binding is one of those the record refers to. -/
def referencesRecord (record : TransitionRecord) (binding : SidecarHostBinding) : Bool :=
  binding.hostNonce == record.oldBinding.hostNonce ||
    record.newBinding.any fun new => binding.hostNonce == new.hostNonce

/-- Refuse when a closed session still names a live host of the record. -/
def refuseLiveHost (record : TransitionRecord) (current : SessionInfo) : DaemonM ω Unit :=
  match current.sidecarHost with
  | none => pure ()
  | some binding =>
    whenever (referencesRecord record binding) (do
      let now ← ask env.now
      require (binding.hostExpiresUnix ≤ now)
        (.remote AppError.conflict
          (s!"expired sidecar transition journal record {record.transitionId} references a " ++
            "still-live host; retained for review — " ++ doctorHint env)))

def reconcileExpiredTransitionRecord (record : TransitionRecord) : DaemonM ω Unit := do
  require (hostOutlivesRecord record = false)
    (.remote AppError.conflict
      (s!"expired sidecar transition journal record {record.transitionId} has an inconsistent " ++
        "host-expiry bound; retained for review — " ++ doctorHint env))
  match ← attempt (proveExpiredSidecarDead env record) with
  | .ok false =>
    fail (.remote AppError.conflict
      (s!"expired sidecar transition journal record {record.transitionId} still references a " ++
        "live sidecar (attested child process or supervisor-tracked host); retained for " ++
        "review — " ++ doctorHint env))
  | .error message =>
    fail (.remote AppError.conflict
      (s!"expired sidecar transition journal record {record.transitionId} cannot prove its " ++
        s!"sidecar terminated ({message}); retained fail-closed — " ++ doctorHint env))
  | .ok true => do
    match ← reads fun d : DaemonRuntime ω => d.sessions.get record.sessionId with
    | .error .notFound =>
      clearTransition env "clear moot expired transition" record.transitionId
    | .error e => fail (sessionErr e)
    | .ok current =>
      if current.state = .closed then do
        refuseLiveHost env record current
        clearTransition env "clear moot expired transition" record.transitionId
      else
        fail (.remote AppError.conflict
          (s!"expired sidecar transition journal record {record.transitionId} (session " ++
            s!"{record.sessionId} still present) retained for review; " ++ doctorHint env))

/-! ## Records that are still in their window -/

/-- The change of controller a record asks of the supervisor; terminal records ask for
the end of the host instead. -/
def replayChange (record : TransitionRecord) : Option Change :=
  match record.kind with
  | .detach => some (.detach record.target.controllerEpoch)
  | .claim =>
    some (.claim record.target.principal record.target.controllerEpoch
      record.target.bindingExpiresUnix)
  | .give =>
    some (.rotate record.target.principal record.target.controllerEpoch
      record.target.bindingExpiresUnix)
  | .renew => some (.renew record.target.bindingExpiresUnix)
  | .reclaim =>
    some (.reclaim record.target.principal record.target.controllerEpoch
      record.target.bindingExpiresUnix)
  | .close | .terminate => none

/-- The binding recovery records for the supervisor's answer.  Device and workspace are
those of the record. -/
def recoveredBinding (record : TransitionRecord) (next : SupervisorBinding) :
    SidecarHostBinding where
  deviceId := record.deviceId
  workspaceId := record.workspaceId
  ownerPrincipal := record.target.principal
  hostNonce := next.hostNonce
  controllerEpoch := next.controllerEpoch
  bindingExpiresUnix := record.target.bindingExpiresUnix
  hostExpiresUnix := record.oldBinding.hostExpiresUnix
  childPid := record.oldBinding.childPid
  childProcessBirth := record.oldBinding.childProcessBirth

def replayError (e : IpcError) : IpcError :=
  .remote AppError.conflict s!"replay sidecar transition: {e.display}"

/-- Ask the supervisor for a transition again, and note that it is applied. -/
def replayTransition (record : TransitionRecord) : DaemonM ω (Option SidecarHostBinding) := do
  requireSupervisor AppError.conflict "sidecar unavailable during transition recovery"
  let old := supervisorBindingFrom record.sessionId record.oldBinding
  match replayChange record with
  | none => do
    match ← requestTerminate env old record.transitionId with
    | some e => fail (replayError e)
    | none => do
      withTransitions
        (fun reason => s!"mark recovered terminal transition applied: {reason}")
        (markTerminalApplied env.transitions record.transitionId)
      pure none
  | some change => do
    match ← requestChange env old change record.transitionId with
    | .error e => fail (replayError e)
    | .ok next => do
      withTransitions (fun reason => s!"mark recovered transition applied: {reason}")
        (markApplied env.transitions record.transitionId (recoveredBinding record next))
      pure (some (recoveredBinding record next))

/-- The binding a record leads to: the one it carries, or the one a replay returns. -/
def bindingOfRecord (record : TransitionRecord) : DaemonM ω (Option SidecarHostBinding) :=
  match record.phase with
  | .applied =>
    if record.kind.isTerminal then pure none
    else
      match record.newBinding with
      | some binding => pure (some binding)
      | none =>
        fail
          (.remote AppError.internal "applied sidecar transition missing binding")
  | .intent => replayTransition env record

/-- Write the recovered sessions and remove the record. -/
def finishRecovery (record : TransitionRecord) (snapshot : SessionManager) : DaemonM ω Unit := do
  commitSessions env snapshot
  clearTransition env "clear recovered transition journal" record.transitionId

/-- The lease identifier a record must carry for its seat to be restored. -/
def recordedLeaseId (record : TransitionRecord) : DaemonM ω String :=
  match record.target.leaseId with
  | some leaseId => pure leaseId
  | none =>
    fail (.remote AppError.internal
      (s!"recovered sidecar transition {record.transitionId} for session " ++
        s!"{record.sessionId} is missing its recorded lease id; retained fail-closed — " ++
        doctorHint env))

/-- Install the controller seat and the binding of a record in its session.  A session
whose generation is already past the record is left alone. -/
def resumeController (record : TransitionRecord) (binding : SidecarHostBinding)
    (snapshot : SessionManager) : DaemonM ω Unit := do
  let current ← withSessions (info record.sessionId)
  if record.target.controllerEpoch < current.controllerEpoch then do
    require
      (current.sidecarHost.all fun binding =>
        decide (record.target.controllerEpoch ≤ binding.controllerEpoch))
      (.remote AppError.conflict
        (s!"recovered sidecar transition {record.transitionId} for session " ++
          s!"{record.sessionId} is older than the durable controller generation but its " ++
          "sidecar binding is still the pre-transition generation; retained fail-closed — " ++
          doctorHint env))
    clearTransition env "clear already-superseded recovered transition" record.transitionId
  else do
    let leaseId ← recordedLeaseId env record
    withSessions (reconcileControllerFromTransition record.sessionId record.target.principal
      leaseId record.target.controllerEpoch record.target.bindingExpiresUnix
      record.target.controllerAttached)
    withSessions (setSidecarHostBinding record.sessionId (some binding))
    finishRecovery env record snapshot

/-- What a terminal transition does to its session: closing keeps it, terminating
removes it. -/
def terminalOutcome (kind : TransitionKind) (id : String) : SessionM Unit :=
  match kind with
  | .terminate => terminate id
  | _ => close id

/-- End the session of a terminal record.  The binding is cleared after the session is
closed or removed, also when it was removed. -/
def endSession (record : TransitionRecord) (snapshot : SessionManager) : DaemonM ω Unit := do
  withSessions (terminalOutcome record.kind record.sessionId)
  withSessions (setSidecarHostBinding record.sessionId none)
  finishRecovery env record snapshot

/-- Recover the session of a record that is still there. -/
def recoverSession (record : TransitionRecord) (current : SessionInfo) : DaemonM ω Unit := do
  require (current.workspaceId = some record.workspaceId)
    (.remote AppError.conflict "sidecar transition workspace mismatch during recovery")
  let binding ← bindingOfRecord env record
  let snapshot ← reads DaemonRuntime.sessions
  match binding with
  | some binding => resumeController env record binding snapshot
  | none => endSession env record snapshot

def recoverTransitionRecord (record : TransitionRecord) : DaemonM ω Unit := do
  let now ← ask env.now
  if record.expiresUnix ≤ now then reconcileExpiredTransitionRecord env record
  else do
    match ← reads fun d : DaemonRuntime ω => d.sessions.get record.sessionId with
    | .ok current => recoverSession env record current
    | .error e =>
      if e = .notFound ∧ record.kind.isTerminal = true ∧ record.phase = .applied then
        clearTransition env "clear completed terminal transition" record.transitionId
      else fail (sessionErr e)

/-! ## The recovery passes -/

def transitionHealthRetainedCap : Nat := 16

/-- Note a record that stays in the journal past its time. -/
def recordTransitionRecoveryIssue {ε : Type} (id : String) : Program (DaemonRuntime ω) ε Unit :=
  Program.modify fun d =>
    if id ∈ d.retainedExpired then d
    else
      { d with
        retainedExpired :=
          if d.retainedExpired.length < transitionHealthRetainedCap then d.retainedExpired ++ [id]
          else d.retainedExpired
        retainedExpiredTotal := d.retainedExpiredTotal + 1 }

def refreshTransitionRecoveryHealth {ε : Type} : Program (DaemonRuntime ω) ε Unit := do
  let now ← ask env.now
  Program.modify fun d =>
    let retained := (d.transitionJournal.pending.filter fun record =>
      decide (record.expiresUnix ≤ now)).map TransitionRecord.transitionId
    { d with
      retainedExpiredTotal := retained.length
      retainedExpired := retained.take transitionHealthRetainedCap }

def setRecoveryRunning {ε : Type} (running : Bool) : Program (DaemonRuntime ω) ε Unit :=
  Program.modify fun d => { d with transitionRecoveryRunning := running }

/-- One round of the pass over expired records; a record that stays is noted. -/
def reconcileExpiredRound {ε : Type} (now : Int) (record : TransitionRecord) :
    Program (DaemonRuntime ω) ε Unit :=
  whenever (record.expiresUnix ≤ now) (do
    match ← attempt (reconcileExpiredTransitionRecord env record) with
    | .ok _ => pure ()
    | .error _ => recordTransitionRecoveryIssue record.transitionId)

def reconcileExpiredTransitions {ε : Type} : Program (DaemonRuntime ω) ε Unit := do
  let running ← reads DaemonRuntime.transitionRecoveryRunning
  whenever (running = false) (do
    setRecoveryRunning true
    let records ← reads fun d : DaemonRuntime ω => d.transitionJournal.pending
    let now ← ask env.now
    forEach (reconcileExpiredRound env now) records
    refreshTransitionRecoveryHealth env
    setRecoveryRunning false)

/-- One round of the replay pass. -/
def recoverRound (now : Int) (record : TransitionRecord) : DaemonM ω Unit :=
  whenever (now < record.expiresUnix) (recoverTransitionRecord env record)

/-- Replay the records that are still in their window; the first that cannot be
replayed ends the pass. -/
def replayPending : DaemonM ω Unit := do
  setRecoveryRunning true
  let records ← reads fun d : DaemonRuntime ω => d.transitionJournal.pending
  let now ← ask env.now
  let outcome ← attempt (forEach (recoverRound env now) records)
  setRecoveryRunning false
  ofExcept outcome

def recoverSidecarTransitions : DaemonM ω Unit := do
  reconcileExpiredTransitions env
  let running ← reads DaemonRuntime.transitionRecoveryRunning
  whenever (running = false) (replayPending env)

/-! ## Reattaching to hosts -/

/-- What the reattach pass finds out about one session. -/
inductive Reattached where
  | interrupted
  | retained
  | skipped
  | exited
  | recovered (pid birth : Nat)
deriving DecidableEq, Repr

def maxReattach : Nat := 64

/-- Ask the supervisor about the host of one session. -/
def examineSidecar (now : Int) (session : SessionInfo × SidecarHostBinding) :
    DaemonM ω (String × Reattached) := do
  let id := session.1.id
  let binding := session.2
  let exact := supervisorBindingFrom id binding
  if session.1.state = .starting then do
    match ← requestTerminate env exact s!"open-recovery:{id}:{binding.controllerEpoch}" with
    | some _ => pure (id, .retained)
    | none => pure (id, .interrupted)
  else if binding.bindingExpiresUnix ≤ now then pure (id, .skipped)
  else do
    match ← ask (env.status exact) with
    | .error _ => pure (id, .retained)
    | .ok status =>
      match status.pid, status.processBirthId, status.exited with
      | some pid, some birth, false =>
        match binding.childPid, binding.childProcessBirth with
        | some expectedPid, some expectedBirth =>
          if pid = expectedPid ∧ birth = expectedBirth then
            pure (id, .recovered pid birth)
          else pure (id, .retained)
        | _, _ => pure (id, .recovered pid birth)
      | _, _, _ => pure (id, .exited)

/-- Close a session whose host is gone. -/
def closeHostless (id : String) : DaemonM ω Unit := do
  withSessions (close id)
  withSessions (setSidecarHostBinding id none)
  withSessions (setHostPid id none)

/-- Record the process of a host that answered. -/
def recordChild (id : String) (pid birth : Nat) : DaemonM ω Unit := do
  withSessions (setHostPid id (some pid))
  let current ← withSessions (info id)
  match current.sidecarHost with
  | none =>
    fail (.remote AppError.internal "reattached persistent session lost binding")
  | some binding =>
    withSessions (setSidecarHostBinding id
      (some { binding with childPid := some pid, childProcessBirth := some birth }))

def Reattached.isExited : Reattached → Bool
  | .exited => true
  | _ => false

def Reattached.isInterrupted : Reattached → Bool
  | .interrupted => true
  | _ => false

/-- The process of a recovered session. -/
def recoveredChild (found : String × Reattached) : Option (String × Nat × Nat) :=
  match found with
  | (id, .recovered pid birth) => some (id, pid, birth)
  | _ => none

def reattachPersistentSidecars : DaemonM ω Unit := do
  let now ← ask env.now
  let sessions ← reads DaemonRuntime.sessions
  let bindings := sessions.list.filterMap fun info =>
    info.sidecarHost.map fun binding => (info, binding)
  require (bindings.length ≤ maxReattach)
    (.remote AppError.conflict "persistent sidecar reattach quota exceeded")
  requireSupervisor AppError.conflict "sidecar unavailable during reattach"
  let found ← Program.collect (examineSidecar env now) bindings
  Program.modify fun d =>
    { d with reattachRetainedSessions := found.countP fun outcome => outcome.2 = .retained }
  let exited := (found.filter fun outcome => outcome.2.isExited).map Prod.fst
  let interrupted := (found.filter fun outcome => outcome.2.isInterrupted).map Prod.fst
  let recovered := found.filterMap recoveredChild
  whenever (¬ (recovered = [] ∧ interrupted = [] ∧ exited = [])) (do
    let snapshot ← reads DaemonRuntime.sessions
    forEach closeHostless exited
    forEach closeHostless interrupted
    forEach (fun child => recordChild child.1 child.2.1 child.2.2) recovered
    commitSessions env snapshot)

/-- Connect to the supervisor if there is no connection yet. -/
def connectSupervisor : DaemonM ω Unit := do
  let connected ← reads DaemonRuntime.connected
  whenever (connected = false) (do
    match ← ask env.bootstrap with
    | some e => fail e
    | none => Program.modify fun d => { d with connected := true })

def ensureRemoteSupervisor : DaemonM ω Unit := do
  connectSupervisor env
  recoverSidecarTransitions env
  reattachPersistentSidecars env
  requireSupervisor AppError.internal "persistent session sidecar state unavailable"

/-! ## Starting -/

/-- Whether a host is known to be dead when the daemon starts: its process is gone, or
nothing is known of the process and the supervisor left a receipt of its end. -/
def hostIsDead {ε : Type} (id : String) (binding : SidecarHostBinding) :
    Program (DaemonRuntime ω) ε Bool := do
  match ← probeChild env binding with
  | .dead => pure true
  | .live => pure false
  | .unknown => do
    let receipt ← ask (env.terminationReceipt id)
    pure (receipt.any fun receipt => receipt.binding = supervisorBindingFrom id binding)

/-- One round of the pass over persistent sessions. -/
def reconcileDeadRound {ε : Type} (session : SessionInfo × SidecarHostBinding) :
    Program (DaemonRuntime ω) ε Unit := do
  let dead ← hostIsDead env session.1.id session.2
  whenever (dead = true) (do
    let _ ← attempt (closeHostless session.1.id : DaemonM ω Unit)
    pure ())

def reconcileDeadPersistentSessions {ε : Type} : Program (DaemonRuntime ω) ε Unit := do
  let sessions ← reads DaemonRuntime.sessions
  forEach (reconcileDeadRound env)
    (sessions.list.filterMap fun info => info.sidecarHost.map fun binding => (info, binding))

/-- The daemon right after its files were read. -/
def loaded (d : DaemonRuntime ω) (transitions : Table String TransitionRecord) : DaemonRuntime ω :=
  { d with
    toJournal := OpJournal.restart env.journal d.toJournal
    sessions := d.sessionsFile.enforceLoadedBudgets.markHostsDetachedAfterRestart
    transitions := transitions
    connected := false
    transitionRecoveryRunning := false
    retainedExpired := []
    retainedExpiredTotal := 0
    reattachRetainedSessions := 0
    liveHosts := []
    activeRemoteOperationId := none
    activeRemoteDeviceId := none }

def saveRestartedSessions : Program (DaemonRuntime ω) String Unit := do
  let sessions ← reads DaemonRuntime.sessions
  match ← ask (env.writeSessions sessions) with
  | some reason =>
    fail s!"failed to persist restarted sessions to {env.sessionsPath}: {reason}"
  | none => Program.modify fun d => { d with sessionsFile := sessions }

/-- Start the daemon from its files; what was in memory is gone. -/
def restart : Program (DaemonRuntime ω) String Unit := do
  match ← ask env.loadFiles with
  | some reason => fail reason
  | none => do
    let file ← reads DaemonRuntime.transitionsFile
    let transitions ← ofExcept (openEntries file)
    Program.modify fun d => loaded env d transitions
    let hadSessions ← reads fun d : DaemonRuntime ω => !d.sessions.list.isEmpty
    reconcileDeadPersistentSessions env
    whenever (hadSessions = true) (saveRestartedSessions env)

end Recovery

end OwnMesh.Daemon
