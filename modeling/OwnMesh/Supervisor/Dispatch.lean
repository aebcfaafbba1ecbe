import OwnMesh.Supervisor.State

/-!
# The requests of the session-host supervisor

The supervisor accepts requests of the daemon only.  A request is checked for its size
and characters, its digest is derived from what was asked, and it is carried out on the
state; every refusal becomes an error of one code.  A caller never supplies a digest.
-/

namespace OwnMesh.Supervisor

open Foundations Ipc Program

def maxCommandArgs : Nat := 64
def maxCommandEnv : Nat := 64
def maxComponentBytes : Nat := 4096
def maxDrainBytes : Nat := 1024 * 1024

structure SupervisorCommand where
  program : String
  args : List String
  cwd : Option String
  env : List (String × String)
deriving DecidableEq, Repr

structure SupervisorSpawnRequest where
  (sessionId deviceId workspaceId ownerPrincipal : String)
  controllerEpoch : Nat
  (bindingExpiresUnix hostExpiresUnix : Int)
  command : SupervisorCommand
  (cols rows : Nat)
  ioMode : HostIoMode
deriving DecidableEq, Repr

/-- Every refusal of the supervisor has the code of invalid parameters. -/
def invalid (message : String) : IpcError := .remote AppError.invalidParams message

/-- The check of one text of a request. -/
def requireComponent (value field : String) : Bool × IpcError :=
  (value != "" && decide (value.utf8ByteSize ≤ maxComponentBytes) && !value.toList.any isControl,
    invalid s!"invalid supervisor {field}")

def requireTransitionId (value : String) : Bool × IpcError :=
  (value != "" && decide (value.utf8ByteSize ≤ 128) && !value.toList.any isControl,
    invalid "invalid supervisor transition id")

def validateSpawn (request : SupervisorSpawnRequest) : Except IpcError Unit :=
  runChecks
    ([requireComponent request.sessionId "session_id",
        requireComponent request.deviceId "device_id",
        requireComponent request.workspaceId "workspace_id",
        requireComponent request.ownerPrincipal "owner_principal",
        requireComponent request.command.program "program",
        (decide (request.command.args.length ≤ maxCommandArgs ∧
            request.command.env.length ≤ maxCommandEnv ∧ request.cols ≠ 0 ∧ request.rows ≠ 0 ∧
            request.cols ≤ 512 ∧ request.rows ≤ 512),
          invalid "supervisor spawn exceeds bounds")] ++
      (request.command.args ++ request.command.env.flatMap fun pair => [pair.1, pair.2]).map
        (fun value => requireComponent value "command component") ++
      request.command.cwd.toList.map fun cwd => requireComponent cwd "cwd")

/-- The stream a drain names; the standard output is the default. -/
def drainStreamOf : Option String → Except IpcError Bool
  | none => .ok false
  | some name =>
    if name = "stdout" then .ok false
    else if name = "stderr" then .ok true
    else .error (invalid "invalid supervisor drain stream")

/-- The principal a change hands the host to. -/
def Change.newOwner : Change → Option String
  | .rotate owner _ _ | .reclaim owner _ _ | .claim owner _ _ => some owner
  | .detach _ | .renew _ => none

section Requests

variable {ω : Type} (env : Environment ω)

/-- Answers of the supervisor. -/
abbrev Served (ω α : Type) : Type := Program (SupervisorState ω) IpcError α

def serve {α : Type} (m : SupervisorM ω α) : Served ω α := Program.mapError invalid m

def dispatchSpawn (request : SupervisorSpawnRequest) : Served ω SupervisorBinding := do
  ofExcept (validateSpawn request)
  let fresh ← ask env.fresh
  let manifest ← serve (ofExcept (HostManifest.new request.sessionId request.deviceId
    request.workspaceId request.ownerPrincipal request.controllerEpoch request.bindingExpiresUnix
    request.hostExpiresUnix fresh))
  serve (spawnWithIo env { manifest with ioMode := request.ioMode } request.ioMode)

def dispatchStatus (binding : SupervisorBinding) : Served ω SupervisorStatus :=
  serve (reattach env binding)

def dispatchWrite (binding : SupervisorBinding) (bytes : List UInt8) : Served ω Unit := do
  require (bytes.length ≤ 64 * 1024) (invalid "supervisor stdin frame exceeds budget")
  serve (write env binding bytes)

def dispatchResize (binding : SupervisorBinding) (cols rows : Nat) : Served ω Unit :=
  serve (resize env binding cols rows)

def dispatchDrain (binding : SupervisorBinding) (offset maxBytes : Nat) (stream : Option String) :
    Served ω SpoolPage := do
  require (¬ (maxBytes = 0 ∨ maxDrainBytes < maxBytes))
    (invalid "invalid supervisor drain budget")
  let stderr ← ofExcept (drainStreamOf stream)
  serve (drain env binding offset maxBytes stderr)

/-- The receipt of a request for a payload. -/
def receiptOf (transitionId : String) (payload : Payload) : TransitionReceipt where
  transitionId := transitionId
  payloadDigest := env.digest payload

def dispatchTerminate (binding : SupervisorBinding) (transitionId : String) : Served ω Unit := do
  ofExcept (runChecks [requireTransitionId transitionId])
  serve (terminateIdempotent env binding (receiptOf env transitionId (.terminate binding)))

/-- The checks of a request for a change. -/
def Change.checkRequest (change : Change) (transitionId : String) : Except IpcError Unit :=
  runChecks
    ((change.newOwner.toList.map fun owner => requireComponent owner "owner_principal") ++
      [requireTransitionId transitionId])

/-- The five requests for a change of controller. -/
def dispatchChange (binding : SupervisorBinding) (change : Change) (transitionId : String) :
    Served ω SupervisorBinding := do
  ofExcept (change.checkRequest transitionId)
  serve (changeBinding env binding change
    (some (receiptOf env transitionId (change.payload binding))))

/-- The requests that are carried out under the lock of the host table: all but the probe. -/
inductive SupervisorRequest where
  | spawn (request : SupervisorSpawnRequest)
  | status (binding : SupervisorBinding)
  | write (binding : SupervisorBinding) (bytes : List UInt8)
  | resize (binding : SupervisorBinding) (cols rows : Nat)
  | drain (binding : SupervisorBinding) (offset maxBytes : Nat) (stream : Option String)
  | change (binding : SupervisorBinding) (change : Change) (transitionId : String)
  | terminate (binding : SupervisorBinding) (transitionId : String)

/-- Serve a request; the answer is the binding it issues, if it issues one. -/
def dispatch : SupervisorRequest → Served ω (Option SupervisorBinding)
  | .spawn request => mapAnswer some (dispatchSpawn env request)
  | .status binding => mapAnswer (fun _ => none) (dispatchStatus env binding)
  | .write binding bytes => mapAnswer (fun _ => none) (dispatchWrite env binding bytes)
  | .resize binding cols rows => mapAnswer (fun _ => none) (dispatchResize env binding cols rows)
  | .drain binding offset maxBytes stream =>
    mapAnswer (fun _ => none) (dispatchDrain env binding offset maxBytes stream)
  | .change binding change transitionId =>
    mapAnswer some (dispatchChange env binding change transitionId)
  | .terminate binding transitionId =>
    mapAnswer (fun _ => none) (dispatchTerminate env binding transitionId)

end Requests

end OwnMesh.Supervisor
