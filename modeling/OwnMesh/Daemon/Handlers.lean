import OwnMesh.Daemon.Recovery

/-!
# The handlers of session mutations

A handler first decides, without changing anything but leases that have expired and
the reservation of its idempotency key: who may do this, on which copy of the session
manager, and what to ask of the supervisor.  What it decides is a `Plan`.  Carrying out
a plan is the same for claim, renew, detach and give: bring the connection to the
supervisor up to date, write the transition down, ask the supervisor, note its answer,
install the copy, write it, and clear the transition.

The copy is taken before the connection is brought up to date.
-/

namespace OwnMesh.Daemon

open Foundations Ipc Sessions Transitions Program
open Supervisor (SupervisorBinding Change)

/-! ## Requests -/

structure ClaimParams where
  id : String
  (principal workspaceId idempotencyKey : Option String)

structure RenewParams where
  (id leaseId : String)
  controllerEpoch : Nat
  ttlSecs : Int
  (principal workspaceId idempotencyKey : Option String)

structure DetachParams where
  (id leaseId : String)
  controllerEpoch : Nat
  (principal workspaceId idempotencyKey : Option String)

structure GiveParams where
  (id toPrincipal : String)
  (fromPrincipal workspaceId leaseId : Option String)
  controllerEpoch : Option Nat
  idempotencyKey : Option String

/-! ## Plans -/

/-- What a handler asks of the supervisor: the transition it writes down, the change
of controller, and what it refuses in the answer. -/
structure SidecarTransition where
  name : String
  record : TransitionRecord
  change : Change
  replyFault : SupervisorBinding → Option String

/-- What a handler has decided before it talks to the supervisor. -/
structure Plan (ω : Type) where
  sessionId : String
  (snapshot preview : SessionManager)
  sidecar : Option SidecarTransition
  journalKey : Option String
  operationId : String
  answer : DaemonRuntime ω → Except IpcError Value

/-- A request is answered from its receipt, or planned. -/
inductive Admitted (ω : Type) where
  | replayed (receipt : Value)
  | planned (plan : Plan ω)

/-- The record of a transition that is about to be asked for. -/
def intentRecord (kind : TransitionKind) (transitionId sessionId workspaceId principal : String)
    (old : SidecarHostBinding) (target : TransitionTarget) (now : Int) : TransitionRecord where
  transitionId := transitionId
  kind := kind
  phase := .intent
  sessionId := sessionId
  deviceId := old.deviceId
  workspaceId := workspaceId
  authenticatedPrincipal := principal
  oldBinding := old
  target := target
  newBinding := none
  createdUnix := now
  expiresUnix := old.hostExpiresUnix

/-- The seat a lease describes. -/
def seatOf (lease : ControllerLease) : TransitionTarget where
  principal := lease.principalId
  controllerEpoch := lease.epoch
  bindingExpiresUnix := lease.expiresUnix
  controllerAttached := true
  leaseId := some lease.leaseId
  terminal := false

/-- The binding a handler records for the supervisor's answer: the host, device and
workspace of the old one, the owner and expiry of the target. -/
def appliedBinding (record : TransitionRecord) (returned : SupervisorBinding) :
    SidecarHostBinding where
  deviceId := record.oldBinding.deviceId
  workspaceId := record.oldBinding.workspaceId
  ownerPrincipal := record.target.principal
  hostNonce := returned.hostNonce
  controllerEpoch := returned.controllerEpoch
  bindingExpiresUnix := record.target.bindingExpiresUnix
  hostExpiresUnix := record.oldBinding.hostExpiresUnix
  childPid := record.oldBinding.childPid
  childProcessBirth := record.oldBinding.childProcessBirth

def leaseValue (lease : ControllerLease) : Value :=
  .ofFields
    [("principal_id", .string lease.principalId), ("lease_id", .string lease.leaseId),
      ("epoch", .ofInt lease.epoch), ("expires_unix", .ofInt lease.expiresUnix)]

section Handlers

variable {ω : Type} (env : Environment ω)

/-! ## Carrying out a plan -/

/-- Write a transition down and ask the supervisor for it.  The device is checked after
the transition has been written down. -/
def sendTransition (sessionId : String) (transition : SidecarTransition) :
    DaemonM ω SupervisorBinding := do
  let record := transition.record
  let _ ← withTransitions (fun reason => s!"begin sidecar {transition.name} journal: {reason}")
    (beginTransition env.transitions record)
  let old ← verifiedSidecarBindingFrom sessionId record.oldBinding
  requireSupervisor AppError.conflict "sidecar unavailable after bootstrap"
  match ← requestChange env old transition.change record.transitionId with
  | .error e =>
    fail
      (.remote AppError.conflict s!"sidecar {transition.name} failed: {e.display}")
  | .ok returned =>
    match transition.replyFault returned with
    | some message => fail (.remote AppError.conflict message)
    | none => pure returned

/-- Take a transition through the supervisor and note its answer; the result is the copy
of the manager to install. -/
def prepareTransition (plan : Plan ω) (transition : SidecarTransition) :
    DaemonM ω SessionManager := do
  let returned ← sendTransition env plan.sessionId transition
  let binding := appliedBinding transition.record returned
  withTransitions (fun reason => s!"mark sidecar {transition.name} journal: {reason}")
    (markApplied env.transitions transition.record.transitionId binding)
  let bound ← onPreview plan.preview (setSidecarHostBinding plan.sessionId (some binding))
  pure bound.2

/-- Install and write the copy, and clear the transition. -/
def finishTransition (plan : Plan ω) (transition : SidecarTransition) (bound : SessionManager) :
    DaemonM ω Unit := do
  installSessions env bound plan.snapshot
  clearTransition env s!"clear sidecar {transition.name} journal" transition.record.transitionId

/-- Apply the mutation of a plan, through the supervisor if the session has a host
there. -/
def applyPlan (plan : Plan ω) : DaemonM ω Unit :=
  match plan.sidecar with
  | none => installSessions env plan.preview plan.snapshot
  | some transition => do
    ensureRemoteSupervisor env
    let bound ← prepareTransition env plan transition
    finishTransition env plan transition bound

/-- The answer of a request whose mutation was applied. -/
def answerPlan (plan : Plan ω) : DaemonM ω Value := do
  let body ← reads plan.answer
  let body ← ofExcept body
  storeSessionMutationReceipt env plan.journalKey plan.operationId body

def settle : Admitted ω → DaemonM ω Value
  | .replayed receipt => pure receipt
  | .planned plan => do
    applyPlan env plan
    answerPlan env plan

/-- Answer a repeated request from its receipt, and plan any other. -/
def admitOnce (key : Option String) (plan : DaemonM ω (Plan ω)) : DaemonM ω (Admitted ω) := do
  match ← remoteMutationReceipt env key with
  | some receipt => pure (.replayed receipt)
  | none => do
    let plan ← plan
    pure (.planned plan)

/-! ## Claim -/

/-- What every handler knows once its checks have passed. -/
structure Checked where
  (workspace operation : String)
  now : Int
  snapshot : SessionManager
  sidecarHost : Option SidecarHostBinding

/-- The transition of a claim.  An expired binding is reclaimed and a live one claimed;
the record says claim in both cases. -/
def claimTransition (id client : String) (checked : Checked) (lease : ControllerLease)
    (old : SidecarHostBinding) : SidecarTransition where
  name := "claim"
  record := intentRecord .claim s!"claim:{id}:{client}:{lease.epoch}" id checked.workspace client
    old { seatOf lease with principal := client } checked.now
  change :=
    if old.bindingExpiresUnix ≤ checked.now then .reclaim client lease.epoch lease.expiresUnix
    else .claim client lease.epoch lease.expiresUnix
  replyFault := fun _ => none

/-- The answer to a request that leaves its sender with a lease. -/
def leaseAnswer (id : String) (checked : Checked) (lease : ControllerLease) : Value :=
  .ofFields
    [("lease", leaseValue lease), ("session_id", .string id),
      ("workspace_id", .string checked.workspace), ("operation_id", .string checked.operation)]

def claimPlan (p : ClaimParams) (client : String) (checked : Checked) (lease : ControllerLease)
    (preview : SessionManager) : Plan ω where
  sessionId := p.id
  snapshot := checked.snapshot
  preview := preview
  sidecar := checked.sidecarHost.map (claimTransition p.id client checked lease)
  journalKey := journalKey env client p.idempotencyKey
  operationId := checked.operation
  answer := fun _ => .ok (leaseAnswer p.id checked lease)

/-- Reserve the idempotency key of a request and read the host of its session. -/
def reserve (id client : String) (idempotencyKey : Option String) (workspace : String) (now : Int)
    (snapshot : SessionManager) : DaemonM ω Checked := do
  let operation ← operationId env
  withJournal (OpJournal.beginIdempotent env.journal (journalKey env client idempotencyKey)
    operation)
  let current ← withSessions (info id)
  pure
    { workspace := workspace
      operation := operation
      now := now
      snapshot := snapshot
      sidecarHost := current.sidecarHost }

def planClaim (p : ClaimParams) (client : String) : DaemonM ω (Plan ω) := do
  let now ← prepareSessionAccess env
  requireReader p.id client
  let workspace ← requireSessionWorkspace p.id p.workspaceId
  let snapshot ← reads DaemonRuntime.sessions
  fenceAmbiguousTransition env p.id
  let fresh ← ask env.fresh
  let claimed ← onPreview snapshot (claimController p.id client now fresh)
  let checked ← reserve env p.id client p.idempotencyKey workspace now snapshot
  pure (claimPlan env p client checked claimed.1 claimed.2)

def admitSessionClaim (params : Except IpcError ClaimParams) (client : String) :
    DaemonM ω (Admitted ω) := do
  let p ← ofExcept params
  rejectSpoofedPrincipal p.principal client
  admitOnce env (journalKey env client p.idempotencyKey) (planClaim env p client)

def handleSessionClaim (params : Except IpcError ClaimParams) (client : String) :
    DaemonM ω Value := do
  let admitted ← admitSessionClaim env params client
  settle env admitted

/-! ## Renew -/

/-- A renewal must not come back with another generation. -/
def renewFault (lease : ControllerLease) (returned : SupervisorBinding) : Option String :=
  if returned.controllerEpoch = lease.epoch then none
  else some "sidecar renew returned a different controller epoch"

def renewTransition (p : RenewParams) (client : String) (checked : Checked)
    (lease : ControllerLease) (old : SidecarHostBinding) : SidecarTransition where
  name := "renew"
  record := intentRecord .renew
    s!"renew:{p.id}:{p.leaseId}:{p.controllerEpoch}:{lease.expiresUnix}" p.id checked.workspace
    client old { seatOf lease with principal := client } checked.now
  change := .renew lease.expiresUnix
  replyFault := renewFault lease

def renewPlan (p : RenewParams) (client : String) (checked : Checked) (lease : ControllerLease)
    (preview : SessionManager) : Plan ω where
  sessionId := p.id
  snapshot := checked.snapshot
  preview := preview
  sidecar := checked.sidecarHost.map (renewTransition p client checked lease)
  journalKey := journalKey env client p.idempotencyKey
  operationId := checked.operation
  answer := fun _ => .ok (leaseAnswer p.id checked lease)

def planRenew (p : RenewParams) (client : String) : DaemonM ω (Plan ω) := do
  let now ← prepareSessionAccess env
  let workspace ← requireSessionWorkspace p.id p.workspaceId
  fenceAmbiguousTransition env p.id
  let snapshot ← reads DaemonRuntime.sessions
  let renewed ← onPreview snapshot
    (renewControllerLease p.id client p.leaseId p.controllerEpoch now p.ttlSecs)
  let checked ← reserve env p.id client p.idempotencyKey workspace now snapshot
  pure (renewPlan env p client checked renewed.1 renewed.2)

def admitSessionRenew (params : Except IpcError RenewParams) (client : String) :
    DaemonM ω (Admitted ω) := do
  let p ← ofExcept params
  rejectSpoofedPrincipal p.principal client
  admitOnce env (journalKey env client p.idempotencyKey) (planRenew env p client)

def handleSessionRenew (params : Except IpcError RenewParams) (client : String) :
    DaemonM ω Value := do
  let admitted ← admitSessionRenew env params client
  settle env admitted

/-! ## Detach -/

/-- The seat a detach leads to: nobody holds it, and the binding stays with the owner
of the old one. -/
def detachedSeat (old : SidecarHostBinding) (leaseId : String) (epoch : Nat) :
    TransitionTarget where
  principal := old.ownerPrincipal
  controllerEpoch := epoch
  bindingExpiresUnix := old.bindingExpiresUnix
  controllerAttached := false
  leaseId := some leaseId
  terminal := false

def detachTransition (p : DetachParams) (client : String) (checked : Checked) (nextEpoch : Nat)
    (old : SidecarHostBinding) : SidecarTransition where
  name := "detach"
  record := intentRecord .detach s!"detach:{p.id}:{p.leaseId}:{p.controllerEpoch}" p.id
    checked.workspace client old (detachedSeat old p.leaseId nextEpoch) checked.now
  change := .detach nextEpoch
  replyFault := fun _ => none

def detachPlan (p : DetachParams) (client : String) (checked : Checked) (nextEpoch : Nat)
    (preview : SessionManager) : Plan ω where
  sessionId := p.id
  snapshot := checked.snapshot
  preview := preview
  sidecar := checked.sidecarHost.map (detachTransition p client checked nextEpoch)
  journalKey := journalKey env client p.idempotencyKey
  operationId := checked.operation
  answer := fun d => .ok (.ofFields
    [("detached", .bool true), ("session_id", .string p.id),
      ("workspace_id", .string checked.workspace),
      ("live_pty", .bool (d.liveHosts.contains p.id)),
      ("operation_id", .string checked.operation)])

def planDetach (p : DetachParams) (client : String) : DaemonM ω (Plan ω) := do
  let now ← prepareSessionAccess env
  let workspace ← requireSessionWorkspace p.id p.workspaceId
  fenceAmbiguousTransition env p.id
  let snapshot ← reads DaemonRuntime.sessions
  let detached ← onPreview snapshot
    (detachControllerLease p.id client p.leaseId p.controllerEpoch now)
  let checked ← reserve env p.id client p.idempotencyKey workspace now snapshot
  let left ← onPreview detached.2 (info p.id)
  pure (detachPlan env p client checked left.1.controllerEpoch detached.2)

def admitSessionDetach (params : Except IpcError DetachParams) (client : String) :
    DaemonM ω (Admitted ω) := do
  let p ← ofExcept params
  rejectSpoofedPrincipal p.principal client
  admitOnce env (journalKey env client p.idempotencyKey) (planDetach env p client)

def handleSessionDetach (params : Except IpcError DetachParams) (client : String) :
    DaemonM ω Value := do
  let admitted ← admitSessionDetach env params client
  settle env admitted

/-! ## Give -/

/-- What follows a given beginning of a text. -/
def dropLeading (leading text : String) : Option String :=
  if leading.toList.isPrefixOf text.toList then
    some (String.ofList (text.toList.drop leading.toList.length))
  else none

/-- A text before and after its first colon. -/
def splitColon (text : String) : String × String :=
  (String.ofList (text.toList.takeWhile fun c => c != ':'),
    String.ofList ((text.toList.dropWhile fun c => c != ':').drop 1))

def isRemoteRuntimePrincipal (principal : String) : Bool :=
  let canonical := env.canonicalizePrincipalKey principal
  (dropLeading "client:remote:" canonical).isSome ||
    (dropLeading "client:remote-agent:" canonical).isSome

/-- The principal a seat is handed to; remote principals stay within their tenant. -/
def normalizeHandoffTarget (giver receiver : String) : Except IpcError String :=
  let receiver := trim receiver
  if receiver = "" ∨ 128 < receiver.utf8ByteSize then
    .error (.remote AppError.invalidParams
      "session.give to must be a non-empty principal id (<=128 chars)")
  else if receiver.toList.any fun c => isControl c || c == '/' || c == '\\' || c == ' ' then
    .error (.remote AppError.invalidParams "session.give to contains invalid characters")
  else
    let canonical := env.canonicalizePrincipalKey receiver
    match dropLeading "client:remote:" (env.canonicalizePrincipalKey giver) with
    | none => .ok canonical
    | some rest =>
      let tenant := (splitColon rest).1
      if tenant = "" then
        .error (.remote AppError.internal "authenticated remote principal missing tenant")
      else
        match dropLeading "client:remote:" canonical with
        | some receiverRest =>
          if (splitColon receiverRest).1 ≠ tenant ∨ (splitColon receiverRest).2 = "" then
            .error (.remote AppError.policyDenied
              "session.give target must share the controller tenant")
          else .ok s!"client:remote:{tenant}:{(splitColon receiverRest).2}"
        | none =>
          if canonical.toList.contains ':' then
            .error (.remote AppError.invalidParams
              "session.give to must be a bare principal id or client:remote:... key")
          else .ok s!"client:remote:{tenant}:{canonical}"

/-- A remote principal must name the lease it acts under. -/
def authorizeRemoteSeat (method id client : String) (leaseId : Option String)
    (controllerEpoch : Option Nat) (now : Int) : DaemonM ω Unit :=
  match leaseId.filter fun value => value ≠ "", controllerEpoch with
  | none, _ =>
    fail (.remote AppError.invalidParams
      s!"session.{method} requires lease_id for remote principals")
  | some _, none =>
    fail (.remote AppError.invalidParams
      s!"session.{method} requires controller_epoch for remote principals")
  | some leaseId, some epoch => withSessions (authorizeControllerLease id client leaseId epoch now)

def rejectSpoofedGiver (claimed : Option String) (client : String) : DaemonM ω Unit :=
  match claimed with
  | none => pure ()
  | some claimed =>
    require (claimed = client)
      (.remote AppError.unauthorized
        (s!"session.give from must be authenticated client (got '{claimed}', auth is " ++
          s!"'{client}')"))

/-- The transition of a handoff is named after the seat the sender gave, if it named
one. -/
def giveTransition (p : GiveParams) (client : String) (checked : Checked)
    (lease : ControllerLease) (old : SidecarHostBinding) : SidecarTransition :=
  let seatLease := p.leaseId.getD lease.leaseId
  let seatEpoch := p.controllerEpoch.getD lease.epoch
  { name := "give"
    record := intentRecord .give s!"give:{p.id}:{seatLease}:{seatEpoch}" p.id checked.workspace
      client old (seatOf lease) checked.now
    change := .rotate lease.principalId lease.epoch lease.expiresUnix
    replyFault := fun _ => none }

def givePlan (p : GiveParams) (client : String) (checked : Checked) (lease : ControllerLease)
    (preview : SessionManager) : Plan ω where
  sessionId := p.id
  snapshot := checked.snapshot
  preview := preview
  sidecar := checked.sidecarHost.map (giveTransition p client checked lease)
  journalKey := journalKey env client p.idempotencyKey
  operationId := checked.operation
  answer := fun d => (d.sessions.get p.id).mapError sessionErr |>.map fun current =>
    .ofFields
      [("lease", leaseValue lease),
        ("readers", .array (current.readers.dedup.map Value.string)),
        ("workspace_id", .string checked.workspace), ("operation_id", .string checked.operation)]

def planGive (p : GiveParams) (client : String) : DaemonM ω (Plan ω) := do
  let now ← prepareSessionAccess env
  let workspace ← requireSessionWorkspace p.id p.workspaceId
  fenceAmbiguousTransition env p.id
  whenever (isRemoteRuntimePrincipal env client)
    (authorizeRemoteSeat "give" p.id client p.leaseId p.controllerEpoch now)
  let receiver ← ofExcept (normalizeHandoffTarget env client p.toPrincipal)
  let snapshot ← reads DaemonRuntime.sessions
  let fresh ← ask env.fresh
  let given ← onPreview snapshot (giveController p.id client receiver now fresh)
  let checked ← reserve env p.id client p.idempotencyKey workspace now snapshot
  pure (givePlan env p client checked given.1 given.2)

def admitSessionGive (params : Except IpcError GiveParams) (client : String) :
    DaemonM ω (Admitted ω) := do
  let p ← ofExcept params
  rejectSpoofedGiver p.fromPrincipal client
  admitOnce env (journalKey env client p.idempotencyKey) (planGive env p client)

def handleSessionGive (params : Except IpcError GiveParams) (client : String) :
    DaemonM ω Value := do
  let admitted ← admitSessionGive env params client
  settle env admitted

/-! ## The four requests -/

/-- A request that moves the controller seat of a session. -/
inductive SeatRequest where
  | claim (params : Except IpcError ClaimParams)
  | renew (params : Except IpcError RenewParams)
  | detach (params : Except IpcError DetachParams)
  | give (params : Except IpcError GiveParams)

/-- The session a request names. -/
def SeatRequest.sessionId : SeatRequest → Option String
  | claim (.ok p) => some p.id
  | renew (.ok p) => some p.id
  | detach (.ok p) => some p.id
  | give (.ok p) => some p.id
  | _ => none

/-- The first half of a handler. -/
def admitSeat (client : String) : SeatRequest → DaemonM ω (Admitted ω)
  | .claim params => admitSessionClaim env params client
  | .renew params => admitSessionRenew env params client
  | .detach params => admitSessionDetach env params client
  | .give params => admitSessionGive env params client

def handle (client : String) : SeatRequest → DaemonM ω Value
  | .claim params => handleSessionClaim env params client
  | .renew params => handleSessionRenew env params client
  | .detach params => handleSessionDetach env params client
  | .give params => handleSessionGive env params client

theorem handle_eq (client : String) (request : SeatRequest) :
    handle env client request = (admitSeat env client request >>= settle env) := by
  cases request <;> rfl

end Handlers

end OwnMesh.Daemon
