import OwnMesh.Foundations.Run
import OwnMesh.Supervisor.Effects

/-!
# The supervisor as a machine

The calls of the supervisor interleave with its sweeps.  A call holds the lock of the
host table from its first look to its last change, so it is one step.  A sweep is several:
it takes expired hosts out of the table (`collect`), ends each of them without a lock
(`kill`), and settles each attempt under the locks again (`settle`): a confirmed end
clears the mark of the host, a failed one puts the host back.  Any number of sweeps may
be under way; `sweeping` holds the hosts they have taken and what became of each attempt.

Three histories are kept beside the state: the hosts that were spawned, those whose
child was confirmed to have ended, and the transitions that advanced a generation.
-/

namespace OwnMesh.Supervisor

open Foundations Foundations.Program Ipc

/-! ## Calls -/

/-- The calls of the supervisor, plain and idempotent. -/
inductive SupervisorCall where
  | spawn (manifest : HostManifest) (ioMode : HostIoMode)
  | reattach (binding : SupervisorBinding)
  | write (binding : SupervisorBinding) (bytes : List UInt8)
  | resize (binding : SupervisorBinding) (cols rows : Nat)
  | drain (binding : SupervisorBinding) (offset maxBytes : Nat) (stderr : Bool)
  | change (previous : SupervisorBinding) (asked : Change) (receipt : Option TransitionReceipt)
  | terminate (binding : SupervisorBinding) (receipt : TransitionReceipt)
deriving DecidableEq, Repr

section Machine

variable {ω : Type} (env : Environment ω)

/-- Carry out a call; the answer is the binding it issues, if it issues one. -/
def SupervisorCall.perform : SupervisorCall → SupervisorM ω (Option SupervisorBinding)
  | .spawn manifest ioMode => mapAnswer some (spawnWithIo env manifest ioMode)
  | .reattach binding => mapAnswer (fun _ => none) (Supervisor.reattach env binding)
  | .write binding bytes => mapAnswer (fun _ => none) (Supervisor.write env binding bytes)
  | .resize binding cols rows =>
    mapAnswer (fun _ => none) (Supervisor.resize env binding cols rows)
  | .drain binding offset maxBytes stderr =>
    mapAnswer (fun _ => none) (Supervisor.drain env binding offset maxBytes stderr)
  | .change previous asked receipt => mapAnswer some (changeBinding env previous asked receipt)
  | .terminate binding receipt =>
    mapAnswer (fun _ => none) (terminateIdempotent env binding receipt)

/-- Whether a termination gets as far as the confirmed end of the child. -/
def SupervisorState.endsChild (s : SupervisorState ω) (binding : SupervisorBinding) : Bool :=
  match s.hosts.lookup binding.sessionId with
  | none => false
  | some hosted =>
    match exact binding hosted.manifest (env.now s.world).1 with
    | .error _ => false
    | .ok _ => (env.terminateHost binding.sessionId (env.now s.world).2).1.isNone

/-- The generation of a live host. -/
def SupervisorState.epochAt (s : SupervisorState ω) (id : String) : Option Nat :=
  (s.hosts.lookup id).map fun hosted => hosted.manifest.controllerEpoch

/-! ## Steps -/

/-- A host a sweep has taken; `outcome` is what ending it came to, once that is known. -/
structure Sweeping where
  hosted : Hosted
  outcome : Option (Option String)

structure Machine (ω : Type) where
  state : SupervisorState ω
  sweeping : Table String Sweeping
  /-- The hosts that were spawned. -/
  spawned : List String
  /-- The hosts whose child was confirmed to have ended. -/
  confirmed : List String
  /-- The hosts and transitions that advanced a generation, the latest first. -/
  advanced : List (String × String)

inductive MachineEvent where
  | call (call : SupervisorCall)
  | collect (ids : List String)
  | kill (id : String)
  | settle (id : String)
deriving DecidableEq, Repr

namespace Machine

/-- A supervisor that has just started; directories may be left from earlier ones. -/
def initial (directories : Table String (Option TerminationReceipt)) (w : ω) : Machine ω where
  state := { hosts := ∅, terminating := [], directories := directories, world := w }
  sweeping := ∅
  spawned := []
  confirmed := []
  advanced := []

/-- What a call adds to the hosts that were spawned. -/
def newlySpawned (call : SupervisorCall) (before after : SupervisorState ω) : List String :=
  match call with
  | .spawn manifest _ =>
    if before.tracked manifest.sessionId = false ∧ after.tracked manifest.sessionId = true then
      [manifest.sessionId]
    else []
  | _ => []

/-- What a call adds to the hosts whose child was confirmed to have ended. -/
def newlyConfirmed (call : SupervisorCall) (before : SupervisorState ω) : List String :=
  match call with
  | .terminate binding _ => if before.endsChild env binding then [binding.sessionId] else []
  | _ => []

/-- What a call adds to the transitions that advanced a generation. -/
def newlyAdvanced (call : SupervisorCall) (before after : SupervisorState ω) :
    List (String × String) :=
  match call with
  | .change previous _ (some receipt) =>
    if after.epochAt previous.sessionId ≠ before.epochAt previous.sessionId then
      [(previous.sessionId, receipt.transitionId)]
    else []
  | _ => []

/-- The machine after a call that led to the given state. -/
def after (m : Machine ω) (call : SupervisorCall) (t : SupervisorState ω) : Machine ω :=
  { m with
    state := t
    spawned := newlySpawned call m.state t ++ m.spawned
    confirmed := newlyConfirmed env call m.state ++ m.confirmed
    advanced := newlyAdvanced call m.state t ++ m.advanced }

def perform (m : Machine ω) (call : SupervisorCall) : Machine ω :=
  m.after env call ((call.perform env).run m.state).2

/-- Take one host out of the table. -/
def take (m : Machine ω) (id : String) : Machine ω :=
  match m.state.hosts.lookup id with
  | none => m
  | some hosted =>
    { m with
      state := m.state.beginSweep id
      sweeping := m.sweeping.insert id { hosted := hosted, outcome := none } }

/-- The clock a sweep reads, and the state it leaves. -/
def sweepClock (m : Machine ω) : Int := (env.now m.state.world).1

def clocked (m : Machine ω) : Machine ω :=
  { m with state := { m.state with world := (env.now m.state.world).2 } }

/-- The first part of a sweep, under both locks. -/
def collect (m : Machine ω) (ids : List String) : Machine ω := ids.foldl take (m.clocked env)

/-- End the child of a host that was taken, without a lock. -/
def kill (m : Machine ω) (id : String) (hosted : Hosted) : Machine ω :=
  let ended := env.terminateHost id m.state.world
  { m with
    state := { m.state with world := ended.2 }
    sweeping := m.sweeping.insert id { hosted := hosted, outcome := some ended.1 }
    confirmed := if ended.1 = none then id :: m.confirmed else m.confirmed }

/-- The last part of a sweep, for one host. -/
def settle (m : Machine ω) (id : String) (hosted : Hosted) : Option String → Machine ω
  | none => { m with state := m.state.confirmSwept id, sweeping := m.sweeping.erase id }
  | some _ => { m with state := m.state.retrack id hosted, sweeping := m.sweeping.erase id }

end Machine

/-- The steps of the machine. -/
inductive MachineStep : Machine ω → MachineEvent → Machine ω → Prop where
  | call (m : Machine ω) (call : SupervisorCall) :
      MachineStep m (.call call) (m.perform env call)
  | collect (m : Machine ω) (ids : List String) (picks : m.state.Picks (m.sweepClock env) ids) :
      MachineStep m (.collect ids) (m.collect env ids)
  | kill (m : Machine ω) (id : String) (hosted : Hosted)
      (pending : m.sweeping.lookup id = some { hosted := hosted, outcome := none }) :
      MachineStep m (.kill id) (m.kill env id hosted)
  | settle (m : Machine ω) (id : String) (hosted : Hosted) (outcome : Option String)
      (ended : m.sweeping.lookup id = some { hosted := hosted, outcome := some outcome }) :
      MachineStep m (.settle id) (m.settle id hosted outcome)

/-- A sweep touches neither the directories nor, but for its clock, the world. -/
theorem Machine.collect_frame (m : Machine ω) (ids : List String) :
    (m.collect env ids).state.world = (env.now m.state.world).2 ∧
      (m.collect env ids).state.directories = m.state.directories := by
  have start : (m.clocked env).state.world = (env.now m.state.world).2 ∧
      (m.clocked env).state.directories = m.state.directories := ⟨rfl, rfl⟩
  unfold Machine.collect
  generalize m.clocked env = n at start
  induction ids generalizing n with
  | nil => exact start
  | cons id rest ih =>
    refine ih _ ?_
    unfold Machine.take
    cases n.state.hosts.lookup id with
    | none | some => exact start

variable {env} in
/-- An event leads to one state. -/
theorem machineStep_functional (a : Machine ω) (event : MachineEvent) (b c : Machine ω)
    (first : MachineStep env a event b) (second : MachineStep env a event c) : b = c := by
  cases first with
  | call | collect =>
    cases second
    rfl
  | kill id hosted pending =>
    cases second with
    | kill id hosted' pending' =>
      cases pending.symm.trans pending'
      rfl
  | settle id hosted outcome ended =>
    cases second with
    | settle id hosted' outcome' ended' =>
      cases ended.symm.trans ended'
      rfl

end Machine

/-! ## Sample surroundings and a sample host -/

/-- Surroundings in which everything succeeds and the clock advances by one second each
time it is read. -/
def clockEnvironment : Environment Int where
  now w := (w, w + 1)
  fresh w := ("nonce", w)
  digest _ := "digest"
  startHost w := (none, w)
  createSpool w := (none, w)
  createStderr w := (none, w)
  writeManifest w := (none, w)
  readReceipt w := (none, w)
  writeReceipt w := (.written, w)
  readSpool w := (none, w)
  writeSpool w := (.written, w)
  writeHost _ _ w := (none, w)
  resizeHost _ _ _ w := (none, w)
  drainHost _ _ _ w := (.ok ([], false), w)
  terminateHost _ w := (none, w)
  hostStatus _ w := (⟨none, none, 0, 0, 0, false⟩, w)

def sampleManifest (id : String) (expires : Int) : HostManifest where
  sessionId := id
  deviceId := "device"
  workspaceId := "workspace"
  ownerPrincipal := "owner"
  ioMode := .pty
  controllerAttached := true
  hostNonce := "host_nonce"
  controllerEpoch := 1
  bindingExpiresUnix := expires
  hostExpiresUnix := expires
  lastTransition := none

end OwnMesh.Supervisor
