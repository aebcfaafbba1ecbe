import OwnMesh.Foundations.Program
import OwnMesh.Ipc.Value

/-!
# Host manifests and bindings

The session-host supervisor keeps one manifest per host: who owns it, the nonce and
generation of the one binding that may act on it, when that binding and the host
expire, whether a controller is attached, and the last transition it applied.  A
daemon proves possession of a host by a `SupervisorBinding`, which must agree with
the manifest in all its parts.

A change of controller replaces the manifest by a successor with a fresh nonce.  The
changes differ in what they ask of the presented binding (`Change.guard`), in whether
they advance the generation and in what the successor keeps; that is all of
`Change`.
-/

namespace OwnMesh.Supervisor

open Foundations Ipc

/-! ## Data -/

inductive HostIoMode where
  | pty
  | structuredPipes
deriving DecidableEq, Repr

/-- The facts a daemon presents to act on a host. -/
structure SupervisorBinding where
  (sessionId deviceId workspaceId ownerPrincipal hostNonce : String)
  controllerEpoch : Nat
deriving DecidableEq, Repr

/-- The idempotency witness kept with a manifest. -/
structure TransitionReceipt where
  (transitionId payloadDigest : String)
deriving DecidableEq, Repr

structure HostManifest where
  (sessionId deviceId workspaceId ownerPrincipal : String)
  ioMode : HostIoMode
  controllerAttached : Bool
  hostNonce : String
  controllerEpoch : Nat
  (bindingExpiresUnix hostExpiresUnix : Int)
  lastTransition : Option TransitionReceipt
deriving DecidableEq, Repr

/-- The receipt that survives a terminated host. -/
structure TerminationReceipt where
  binding : SupervisorBinding
  (transitionId payloadDigest : String)
deriving DecidableEq, Repr

/-- What the supervisor reports of a host. -/
structure SupervisorStatus where
  (pid processBirthId : Option Nat)
  (pendingOutputBytes pendingStdoutBytes pendingStderrBytes : Nat)
  exited : Bool
deriving DecidableEq, Repr

/-- The binding a manifest accepts. -/
def bindingOf (manifest : HostManifest) : SupervisorBinding where
  sessionId := manifest.sessionId
  deviceId := manifest.deviceId
  workspaceId := manifest.workspaceId
  ownerPrincipal := manifest.ownerPrincipal
  hostNonce := manifest.hostNonce
  controllerEpoch := manifest.controllerEpoch

/-- A binding matches a manifest when it agrees with it in every part. -/
def SupervisorBinding.matches (binding : SupervisorBinding) (manifest : HostManifest) : Bool :=
  binding = bindingOf manifest

/-! ## Checks -/

def exactIdentity (binding : SupervisorBinding) (manifest : HostManifest) (now : Int) :
    Except String Unit :=
  runChecks
    [(decide (now < manifest.bindingExpiresUnix), "supervisor binding expired"),
      (binding.matches manifest, "supervisor binding mismatch")]

/-- The check of every operation of an attached controller. -/
def exact (binding : SupervisorBinding) (manifest : HostManifest) (now : Int) :
    Except String Unit :=
  runChecks
    [(decide (now < manifest.bindingExpiresUnix), "supervisor binding expired"),
      (binding.matches manifest, "supervisor binding mismatch"),
      (manifest.controllerAttached, "supervisor controller is detached")]

def rotateEpoch (current next : Nat) : Except String Unit :=
  runChecks
    [(decide (current + 1 < 2 ^ 64), "supervisor controller epoch overflow"),
      (decide (next = current + 1), "supervisor controller epoch must advance exactly once")]

def supervisorBindingMaxTtlSecs : Int := 60 * 60
def supervisorHostMaxTtlSecs : Int := 24 * 60 * 60

/-- Addition of signed 64-bit numbers that stops at the largest of them. -/
def saturatingAdd (a b : Int) : Int := min (a + b) (2 ^ 63 - 1)

namespace HostManifest

def validate (manifest : HostManifest) : Except String Unit :=
  runChecks
    [(validComponent manifest.sessionId, "invalid supervisor session_id"),
      (validComponent manifest.deviceId, "invalid supervisor device_id"),
      (validComponent manifest.workspaceId, "invalid supervisor workspace_id"),
      (validComponent manifest.ownerPrincipal, "invalid supervisor owner_principal"),
      (validComponent manifest.hostNonce, "invalid supervisor host_nonce"),
      (decide (manifest.controllerEpoch ≠ 0 ∧ 0 < manifest.bindingExpiresUnix ∧
          0 < manifest.hostExpiresUnix), "invalid supervisor epoch or expiry")]

/-- A manifest for a fresh nonce, with a controller attached. -/
def new (sessionId deviceId workspaceId ownerPrincipal : String) (controllerEpoch : Nat)
    (bindingExpiresUnix hostExpiresUnix : Int) (fresh : String) : Except String HostManifest :=
  let manifest : HostManifest :=
    { sessionId := sessionId
      deviceId := deviceId
      workspaceId := workspaceId
      ownerPrincipal := ownerPrincipal
      ioMode := .pty
      controllerAttached := true
      hostNonce := s!"host_{fresh}"
      controllerEpoch := controllerEpoch
      bindingExpiresUnix := bindingExpiresUnix
      hostExpiresUnix := hostExpiresUnix
      lastTransition := none }
  manifest.validate.map fun _ => manifest

/-- The manifest of the next controller: the host and its io mode stay. -/
def successor (manifest : HostManifest) (ownerPrincipal : String) (controllerEpoch : Nat)
    (bindingExpiresUnix : Int) (fresh : String) : Except String HostManifest := do
  let next ← new manifest.sessionId manifest.deviceId manifest.workspaceId ownerPrincipal
    controllerEpoch bindingExpiresUnix manifest.hostExpiresUnix fresh
  let next := { next with ioMode := manifest.ioMode }
  next.validate
  pure next

def validateRuntimeLifetimes (manifest : HostManifest) (now : Int) : Except String Unit :=
  runChecks
    [(decide (now < manifest.bindingExpiresUnix ∧ now < manifest.hostExpiresUnix),
        "supervisor binding or host expiry is in the past"),
      (decide (manifest.bindingExpiresUnix ≤ saturatingAdd now supervisorBindingMaxTtlSecs ∧
          manifest.hostExpiresUnix ≤ saturatingAdd now supervisorHostMaxTtlSecs ∧
          manifest.bindingExpiresUnix ≤ manifest.hostExpiresUnix),
        "supervisor binding or host lifetime exceeds policy")]

end HostManifest

def maxTransitionIdBytes : Nat := 128
def maxTransitionDigestBytes : Nat := 128

/-- A receipt the supervisor is willing to keep. -/
def validateTransition (receipt : TransitionReceipt) : Except String Unit :=
  runChecks
    [(receipt.transitionId != ""
        && decide (receipt.transitionId.utf8ByteSize ≤ maxTransitionIdBytes)
        && receipt.payloadDigest != ""
        && decide (receipt.payloadDigest.utf8ByteSize ≤ maxTransitionDigestBytes)
        && !receipt.transitionId.toList.any isControl
        && !receipt.payloadDigest.toList.any isControl,
      "invalid supervisor transition receipt")]

/-- Whether a transition is the one the manifest applied last; the same identifier with
another payload is an error. -/
def HostManifest.matchesTransition (manifest : HostManifest) (receipt : TransitionReceipt) :
    Except String Bool := do
  validateTransition receipt
  match manifest.lastTransition with
  | none => pure false
  | some last =>
    if last = receipt then pure true
    else if last.transitionId = receipt.transitionId then
      throw "supervisor transition id payload conflict"
    else pure false

def HostManifest.recordTransition (manifest : HostManifest) (receipt : TransitionReceipt) :
    Except String HostManifest :=
  (validateTransition receipt).map fun _ => { manifest with lastTransition := some receipt }

/-! ## Changes of controller -/

/-- The five ways the controller of a host changes. -/
inductive Change where
  | rotate (owner : String) (epoch : Nat) (bindingExpiresUnix : Int)
  | reclaim (owner : String) (epoch : Nat) (bindingExpiresUnix : Int)
  | detach (epoch : Nat)
  | claim (owner : String) (epoch : Nat) (bindingExpiresUnix : Int)
  | renew (bindingExpiresUnix : Int)
deriving DecidableEq, Repr

namespace Change

/-- A renewal keeps the generation; every other change advances it. -/
def isRenew : Change → Bool
  | renew _ => true
  | _ => false

/-- What a change asks of the presented binding. -/
def guard (change : Change) (previous : SupervisorBinding) (manifest : HostManifest) (now : Int) :
    Except String Unit :=
  match change with
  | rotate .. | detach .. | renew .. => exact previous manifest now
  | claim .. =>
    runChecks
      [(decide (now < manifest.bindingExpiresUnix), "supervisor binding expired"),
        (previous.matches manifest, "supervisor binding mismatch"),
        (!manifest.controllerAttached, "supervisor controller is still attached")]
  | reclaim .. =>
    runChecks
      [(previous.matches manifest, "supervisor binding mismatch"),
        (decide (manifest.bindingExpiresUnix ≤ now), "supervisor binding has not expired")]

/-- The generation a change asks for must be the next one. -/
def checkEpoch (change : Change) (previous : SupervisorBinding) : Except String Unit :=
  match change with
  | rotate _ epoch _ | reclaim _ epoch _ | claim _ epoch _ | detach epoch =>
    rotateEpoch previous.controllerEpoch epoch
  | renew _ => .ok ()

/-- The manifest a change leads to. -/
def next (change : Change) (manifest : HostManifest) (fresh : String) :
    Except String HostManifest :=
  match change with
  | rotate owner epoch expires | reclaim owner epoch expires | claim owner epoch expires =>
    manifest.successor owner epoch expires fresh
  | detach epoch =>
    (manifest.successor manifest.ownerPrincipal epoch manifest.bindingExpiresUnix fresh).map
      fun next => { next with controllerAttached := false }
  | renew expires =>
    manifest.successor manifest.ownerPrincipal manifest.controllerEpoch expires fresh

/-- The lifetimes of a successor are checked, except those a detach leaves as they
were. -/
def checkLifetimes (change : Change) (next : HostManifest) (now : Int) : Except String Unit :=
  match change with
  | detach _ => .ok ()
  | _ => next.validateRuntimeLifetimes now

end Change

end OwnMesh.Supervisor
