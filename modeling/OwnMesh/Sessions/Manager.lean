import OwnMesh.Foundations.Program
import OwnMesh.Foundations.Table

/-!
# The session manager

A session has one controller seat and any number of observers.  The seat is held
under a lease (principal, opaque lease id, generation, expiry); the generation,
`controllerEpoch`, survives while nobody holds the seat.  A session whose process
is kept alive by the session-host supervisor also records the binding under which
the daemon may talk to it (`SidecarHostBinding`).

The operations are programs over the manager, because some of them change the
session before they find out that they must fail.  Identifiers the source draws at
random are parameters here.
-/

namespace OwnMesh.Sessions

open Foundations Program

/-! ## Data -/

/-- Why an operation on a session is refused. -/
inductive SessionError where
  | notFound
  | leaseHeld (principal : String)
  | notController
  | notReader
  | observerCannotWrite
  | closed
  | invalid (message : String)
  | persist (reason : String)
  | sessionLimit
  | chunkTooLarge
  | replayBudget
  | sequenceStale (kind : String) (got last : Nat)
  | sequenceGap (kind : String) (got expected : Nat)
  | sequenceConflict (kind : String) (seq : Nat)
  | sequenceRequired (kind : String)
deriving DecidableEq, Repr

namespace SessionError

/-- The text of an error. -/
def display : SessionError → String
  | notFound => "session not found"
  | leaseHeld principal => s!"controller lease held by {principal}"
  | notController => "not controller"
  | notReader => "not a session reader"
  | observerCannotWrite => "observer cannot write stdin"
  | closed => "session closed"
  | invalid message => s!"invalid argument: {message}"
  | persist reason => s!"persist: {reason}"
  | sessionLimit => "session limit exceeded"
  | chunkTooLarge => "chunk too large"
  | replayBudget => "replay budget exceeded"
  | sequenceStale kind got last => s!"stale {kind} sequence {got} (last applied {last})"
  | sequenceGap kind got expected => s!"gap in {kind} sequence: got {got}, expected {expected}"
  | sequenceConflict kind seq =>
    s!"{kind} sequence {seq} payload digest mismatch (exact-once receipt already bound)"
  | sequenceRequired kind => s!"{kind} sequence required"

end SessionError

inductive SessionState where
  | starting
  | running
  | detached
  | closed
deriving DecidableEq, Repr

inductive SessionKind where
  | pty
  | process
deriving DecidableEq, Repr

inductive StreamKind where
  | stdout
  | stderr
  | system
deriving DecidableEq, Repr

inductive PtyViewMode where
  | raw
  | cooked
deriving DecidableEq, Repr

inductive SeqReceiptState where
  | none
  | pending
  | applied
deriving DecidableEq, Repr

structure OutputChunk where
  seq : Nat
  data : String
  stream : StreamKind
deriving DecidableEq, Repr

/-- The lease of the controller seat. -/
structure ControllerLease where
  (principalId leaseId : String)
  epoch : Nat
  expiresUnix : Int
deriving DecidableEq, Repr

/-- A lease is active until its expiry, exclusively. -/
def ControllerLease.isActive (lease : ControllerLease) (now : Int) : Bool :=
  decide (now < lease.expiresUnix)

/-- The facts needed to reattach the daemon to a session-host child. -/
structure SidecarHostBinding where
  (deviceId workspaceId ownerPrincipal hostNonce : String)
  controllerEpoch : Nat
  (bindingExpiresUnix hostExpiresUnix : Int)
  (childPid childProcessBirth : Option Nat)
deriving DecidableEq, Repr

/-- The description of a session. -/
structure SessionInfo where
  id : String
  kind : SessionKind
  state : SessionState
  title : String
  controller : Option ControllerLease
  controllerEpoch : Nat
  observers : List String
  (cols rows nextSeq : Nat)
  viewMode : PtyViewMode
  hostPid : Option Nat
  sidecarHost : Option SidecarHostBinding
  command : Option (List String)
  (cwd workspaceId : Option String)
  lastInputSeq : Nat
  lastInputDigest : Option String
  lastInputState : SeqReceiptState
  lastResizeSeq : Nat
  lastResizeDigest : Option String
  lastResizeState : SeqReceiptState
deriving DecidableEq, Repr

/-- The controller lease, if it is active. -/
def SessionInfo.activeController (info : SessionInfo) (now : Int) : Option ControllerLease :=
  info.controller.filter fun lease => lease.isActive now

/-- Input and resizing have sequences of their own. -/
inductive SeqChannel where
  | input
  | resize
deriving DecidableEq, Repr

def SeqChannel.kind : SeqChannel → String
  | input => "input"
  | resize => "resize"

/-- The receipt of the last reserved number of a sequence. -/
structure SeqReceipt where
  seq : Nat
  digest : Option String
  state : SeqReceiptState
deriving DecidableEq, Repr

def SessionInfo.receipt (info : SessionInfo) : SeqChannel → SeqReceipt
  | .input => ⟨info.lastInputSeq, info.lastInputDigest, info.lastInputState⟩
  | .resize => ⟨info.lastResizeSeq, info.lastResizeDigest, info.lastResizeState⟩

def SessionInfo.setReceipt (info : SessionInfo) (receipt : SeqReceipt) : SeqChannel → SessionInfo
  | .input =>
    { info with
      lastInputSeq := receipt.seq
      lastInputDigest := receipt.digest
      lastInputState := receipt.state }
  | .resize =>
    { info with
      lastResizeSeq := receipt.seq
      lastResizeDigest := receipt.digest
      lastResizeState := receipt.state }

/-- A session with its ring of recent output. -/
structure Session where
  info : SessionInfo
  replay : List OutputChunk
  (replayLimit replayBytes : Nat)
deriving DecidableEq, Repr

def maxSessions : Nat := 64
def defaultReplayChunkLimit : Nat := 256
def maxReplayBytes : Nat := 1024 * 1024

structure SessionManager where
  sessions : Table String Session
  defaultReplayLimit : Nat
  defaultLeaseTtlSecs : Int
  (maxSessions maxReplayBytes : Nat)

/-- Programs on the manager. -/
abbrev SessionM (α : Type) : Type := Program SessionManager SessionError α

/-! ## Access to one session -/

def SessionManager.get (m : SessionManager) (id : String) : Except SessionError SessionInfo :=
  match m.sessions.lookup id with
  | some session => .ok session.info
  | none => .error .notFound

/-- The descriptions of all sessions. -/
def SessionManager.list (m : SessionManager) : List SessionInfo :=
  m.sessions.toList.map fun entry => entry.2.info

/-- Change the description of one session. -/
def SessionManager.updateInfo (m : SessionManager) (id : String)
    (f : SessionInfo → SessionInfo) : SessionManager :=
  { m with sessions := m.sessions.adjust id fun session => { session with info := f session.info } }

/-- The description of a session that must be there. -/
def info (id : String) : SessionM SessionInfo where
  run m := (m.get id, m)

def updateInfo (id : String) (f : SessionInfo → SessionInfo) : SessionM Unit :=
  Program.modify fun m => m.updateInfo id f

/-! ## The controller seat -/

def authorizeControllerLease (id principal leaseId : String) (epoch : Nat) (now : Int) :
    SessionM Unit := do
  let info ← info id
  require
    ((info.activeController now).any fun lease =>
      lease.principalId = principal && lease.leaseId = leaseId && lease.epoch = epoch)
    .notController

def authorizeController (id principal : String) (now : Int) : SessionM Unit := do
  let info ← info id
  require
    ((info.activeController now).any fun lease => lease.principalId = principal) .notController

def renewControllerLease (id principal leaseId : String) (epoch : Nat) (now ttl : Int) :
    SessionM ControllerLease := do
  require (1 ≤ ttl ∧ ttl ≤ 3600) (.invalid "lease ttl out of bounds")
  authorizeControllerLease id principal leaseId epoch now
  let info ← info id
  match info.controller with
  | none => fail .notController
  | some lease => do
    require (now + ttl < 2 ^ 63) (.invalid "lease expiry overflow")
    let renewed := { lease with expiresUnix := now + ttl }
    updateInfo id fun info => { info with controller := some renewed }
    pure renewed

/-- Add an observer that is not there yet. -/
def addObserver (observers : List String) (principal : String) : List String :=
  if principal ∈ observers then observers else observers ++ [principal]

/-- Remove an observer. -/
def removeObserver (observers : List String) (principal : String) : List String :=
  observers.filter fun observer => observer ≠ principal

def releaseController (id principal : String) (now : Int) : SessionM Unit := do
  let info ← info id
  match info.controller with
  | none => pure ()
  | some lease => do
    -- an expired lease, and the lease of somebody else, are both refused
    require (lease.principalId = principal ∧ lease.isActive now = true) .notController
    updateInfo id fun info =>
      { info with
        observers := addObserver info.observers principal
        controller := none
        state := .detached }

/-- The next generation of the controller seat. -/
def nextEpoch (epoch : Nat) : SessionM Nat := do
  require (epoch + 1 < 2 ^ 64) (.invalid "controller epoch exhausted")
  pure (epoch + 1)

def detachControllerLease (id principal leaseId : String) (epoch : Nat) (now : Int) :
    SessionM Unit := do
  authorizeControllerLease id principal leaseId epoch now
  let info ← info id
  let next ← nextEpoch info.controllerEpoch
  releaseController id principal now
  updateInfo id fun info => { info with controllerEpoch := next }

/-- Claim the seat of a session nobody actively controls.  The principal leaves the
observers before the generation is known to have a successor. -/
def claimController (id principal : String) (now : Int) (fresh : String) :
    SessionM ControllerLease := do
  let info ← info id
  require (info.state ≠ .closed) .closed
  match info.activeController now with
  | some lease => fail (.leaseHeld lease.principalId)
  | none => do
    updateInfo id fun info =>
      { info with observers := removeObserver info.observers principal }
    let epoch ← nextEpoch info.controllerEpoch
    let ttl ← reads SessionManager.defaultLeaseTtlSecs
    let lease : ControllerLease :=
      { principalId := principal
        leaseId := s!"lease_{fresh}"
        epoch := epoch
        expiresUnix := now + ttl }
    updateInfo id fun info =>
      { info with controller := some lease, controllerEpoch := epoch, state := .running }
    pure lease

/-- Hand the seat from its active holder to another principal; the state of the
session is not touched. -/
def giveController (id giver receiver : String) (now : Int) (fresh : String) :
    SessionM ControllerLease := do
  let info ← info id
  match info.controller with
  | none => fail .notController
  | some lease => do
    require (lease.principalId = giver) (.leaseHeld lease.principalId)
    require (lease.isActive now = true) .notController
    updateInfo id fun info =>
      { info with
        observers := removeObserver (addObserver info.observers giver) receiver }
    let epoch ← nextEpoch info.controllerEpoch
    let ttl ← reads SessionManager.defaultLeaseTtlSecs
    let given : ControllerLease :=
      { principalId := receiver
        leaseId := s!"lease_{fresh}"
        epoch := epoch
        expiresUnix := now + ttl }
    updateInfo id fun info => { info with controller := some given, controllerEpoch := epoch }
    pure given

/-- Who may read a session: its observers and the holder of the seat, active or
not. -/
def SessionInfo.readers (info : SessionInfo) : List String :=
  info.observers ++ (info.controller.map ControllerLease.principalId).toList

def authorizeReader (id principal : String) : SessionM Unit := do
  let info ← info id
  require (principal ∈ info.readers) .notReader

/-! ## Recovery bookkeeping -/

/-- Set a part of a session that must be there. -/
def setInfo (id : String) (f : SessionInfo → SessionInfo) : SessionM Unit := do
  let _ ← info id
  updateInfo id f

def setHostPid (id : String) (pid : Option Nat) : SessionM Unit :=
  setInfo id fun info => { info with hostPid := pid }

def setSidecarHostBinding (id : String) (binding : Option SidecarHostBinding) : SessionM Unit :=
  setInfo id fun info => { info with sidecarHost := binding }

/-- Install the controller seat that an interrupted transition had decided on. -/
def reconcileControllerFromTransition (id principal leaseId : String) (epoch : Nat)
    (expiresUnix : Int) (attached : Bool) : SessionM Unit := do
  let info ← info id
  require (info.state ≠ .closed) .closed
  if attached then
    updateInfo id fun info =>
      { info with
        observers := removeObserver info.observers principal
        controller := some
          { principalId := principal, leaseId := leaseId, epoch := epoch,
            expiresUnix := expiresUnix }
        controllerEpoch := epoch
        state := .running }
  else
    updateInfo id fun info =>
      { info with
        observers := addObserver info.observers principal
        controller := none
        state := .detached
        controllerEpoch := epoch }

def close (id : String) : SessionM Unit :=
  setInfo id fun info => { info with state := .closed, controller := none }

def terminate (id : String) : SessionM Unit := do
  close id
  Program.modify fun m => { m with sessions := m.sessions.erase id }

/-! ## Whole-manager passes -/

/-- The holder of an expired lease becomes an observer. -/
def SessionInfo.expireStaleLease (now : Int) (info : SessionInfo) : SessionInfo :=
  match info.controller with
  | some lease =>
    if lease.isActive now then info
    else
      { info with
        controller := none
        state := .detached
        observers := addObserver info.observers lease.principalId }
  | none => info

def SessionManager.expireStaleLeases (m : SessionManager) (now : Int) : SessionManager :=
  { m with
    sessions := m.sessions.mapValues fun _ session =>
      { session with info := session.info.expireStaleLease now } }

/-- The number after `n`: an unsigned word that is counted up without a check. -/
def followingSeq (n : Nat) : Nat := (n + 1) % 2 ^ 64

/-- What a restart does to a session: the file descriptors of its host are gone. -/
def Session.markHostDetached (session : Session) : Session :=
  if session.info.state = .closed then session
  else if session.info.hostPid.isSome || session.info.kind = .pty then
    { session with
      info :=
        { session.info with
          hostPid := none
          state := if session.info.state = .running then .detached else session.info.state
          nextSeq := followingSeq session.info.nextSeq }
      replay := session.replay ++
        [{ seq := session.info.nextSeq
           data := "[system] session host disconnected after daemon restart\n"
           stream := .system }] }
  else session

def SessionManager.markHostsDetachedAfterRestart (m : SessionManager) : SessionManager :=
  { m with sessions := m.sessions.mapValues fun _ session => session.markHostDetached }

/-- Drop chunks from the front until at most `limit` remain. -/
def trimToCount (limit : Nat) : List OutputChunk → List OutputChunk
  | [] => []
  | chunk :: rest =>
    if (chunk :: rest).length > limit then trimToCount limit rest else chunk :: rest

/-- Drop chunks from the front until their bytes fit. -/
def trimToBytes (budget : Nat) : Nat → List OutputChunk → List OutputChunk × Nat
  | bytes, [] => ([], bytes)
  | bytes, chunk :: rest =>
    if bytes > budget then trimToBytes budget (bytes - chunk.data.utf8ByteSize) rest
    else (chunk :: rest, bytes)

/-- The bytes a ring holds. -/
def chunkBytes (chunks : List OutputChunk) : Nat :=
  (chunks.map fun chunk => chunk.data.utf8ByteSize).sum

/-- A number brought into an interval. -/
def clamp (low high n : Nat) : Nat := if n < low then low else if high < n then high else n

def Session.enforceBudgets (replayLimit replayBudget : Nat) (session : Session) : Session :=
  let limit := clamp 1 replayLimit session.replayLimit
  let counted := trimToCount limit session.replay
  let (replay, bytes) := trimToBytes replayBudget (chunkBytes counted) counted
  { session with replay := replay, replayLimit := limit, replayBytes := bytes }

/-- The caps a loaded manager is brought under; the sessions with the smallest
identifiers go first. -/
def SessionManager.enforceLoadedBudgets (m : SessionManager) : SessionManager :=
  let cap := clamp 1 Sessions.maxSessions m.maxSessions
  let budget := clamp 1 Sessions.maxReplayBytes m.maxReplayBytes
  let limit := clamp 1 (max defaultReplayChunkLimit 1024) m.defaultReplayLimit
  let excess := m.sessions.entries.length - cap
  let dropped := ((m.sessions.keys.mergeSort).take excess)
  { m with
    maxSessions := cap
    maxReplayBytes := budget
    defaultReplayLimit := limit
    sessions := (m.sessions.retain fun id _ => !dropped.contains id).mapValues fun _ session =>
      session.enforceBudgets (max limit defaultReplayChunkLimit) budget }

end OwnMesh.Sessions
