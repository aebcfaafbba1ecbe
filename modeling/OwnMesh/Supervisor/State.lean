import OwnMesh.Foundations.Table
import OwnMesh.Supervisor.Manifest

/-!
# The state of the session-host supervisor

The supervisor keeps a table of live hosts and a set of hosts whose termination is in
flight.  Each host has a manifest, and its spool directory holds a copy of the manifest,
the retained output and, once the host is terminated, a receipt.  A directory is never
removed, so a session identifier is hosted at most once.

The operations that change the controller of a host differ only in their `Change`.  Each
exists in a plain form and in one that is given a receipt: repeating the transition the
manifest applied last returns the binding that transition issued.

Child processes, files, clock and random identifiers are a parameter (`Environment`) over
an arbitrary world.  Every operation runs under the lock of the host table, except the
sweep: it takes expired hosts out of the table under both locks, ends them without a
lock, and settles each attempt under the locks again.
-/

namespace OwnMesh.Supervisor

open Foundations Ipc Program

/-! ## State -/

def maxStdinBytes : Nat := 64 * 1024
def maxHosts : Nat := 64
def supervisorSpoolMaxBytes : Nat := 1024 * 1024

/-- Retained output; `base` is the absolute offset of its first byte. -/
structure Spool where
  base : Nat
  retained : List UInt8
deriving DecidableEq, Repr

structure SpoolPage where
  bytes : List UInt8
  nextOffset : Option Nat
  totalBytes : Nat
  truncated : Bool
deriving DecidableEq, Repr

/-- A live host; `custody` is the manifest its spool holds. -/
structure Hosted where
  (manifest custody : HostManifest)
  spool : Spool
  stderrSpool : Option Spool

structure SupervisorState (ω : Type) where
  hosts : Table String Hosted
  terminating : List String
  /-- The spool directories, each with the receipt of its host's end. -/
  directories : Table String (Option TerminationReceipt)
  world : ω

/-- What is asked of the supervisor, as far as its digest covers it.  A handoff, a
reclaim and a claim have payloads of one shape. -/
inductive Payload where
  | handoff (binding : SupervisorBinding) (owner : String) (epoch : Nat) (expires : Int)
  | detach (binding : SupervisorBinding) (epoch : Nat)
  | renew (binding : SupervisorBinding) (expires : Int)
  | terminate (binding : SupervisorBinding)
deriving DecidableEq, Repr

/-- What the surroundings decide; an answer `some reason` is a failure.  A failed
creation of a spool also says whether its directory is left behind.  Only for receipts and
output does it matter whether a failed write has put its file in place: a manifest is not
read back from its file. -/
structure Environment (ω : Type) where
  now : ω → Int × ω
  fresh : ω → String × ω
  digest : Payload → String
  startHost : ω → Option String × ω
  createSpool : ω → Option (String × Bool) × ω
  (createStderr writeManifest readReceipt readSpool : ω → Option String × ω)
  (writeReceipt writeSpool : ω → AtomicWrite × ω)
  writeHost : String → List UInt8 → ω → Option String × ω
  resizeHost : String → Nat → Nat → ω → Option String × ω
  drainHost : String → Bool → Nat → ω → Except String (List UInt8 × Bool) × ω
  terminateHost : String → ω → Option String × ω
  hostStatus : String → ω → SupervisorStatus × ω

/-- Programs of the supervisor; their errors are texts. -/
abbrev SupervisorM (ω α : Type) : Type := Program (SupervisorState ω) String α

section Operations

variable {ω : Type}

/-- Ask the surroundings. -/
def ask {ε α : Type} (question : ω → α × ω) : Program (SupervisorState ω) ε α :=
  query fun s => ((question s.world).1, { s with world := (question s.world).2 })

/-- Ask for something that may fail. -/
def attemptTo (describe : String → String) (question : ω → Option String × ω) :
    SupervisorM ω Unit := do
  match ← ask question with
  | some reason => fail (describe reason)
  | none => pure ()

/-- Replace a file of the supervisor. -/
def writeFile (describe : String → String) (question : ω → AtomicWrite × ω)
    (place : SupervisorState ω → SupervisorState ω) : SupervisorM ω Unit :=
  replaceFile (fun s => ((question s.world).1, { s with world := (question s.world).2 })) place
    describe

/-- The host of a session that must be live. -/
def hostOf (id : String) : SupervisorM ω Hosted := do
  match ← reads fun s : SupervisorState ω => s.hosts.lookup id with
  | some hosted => pure hosted
  | none => fail "supervisor host unavailable"

def setHost (id : String) (hosted : Hosted) : SupervisorM ω Unit :=
  Program.modify fun s => { s with hosts := s.hosts.insert id hosted }

variable (env : Environment ω)

/-! ## Spawning -/

/-- The directory of a session is created at most once. -/
def createSpool (manifest : HostManifest) : SupervisorM ω Unit := do
  ofExcept manifest.validate
  let taken ← reads fun s : SupervisorState ω =>
    (s.directories.lookup manifest.sessionId).isSome
  require (taken = false) "supervisor spool already exists (duplicate host refused)"
  match ← ask env.createSpool with
  | some (reason, left) => do
    whenever (left = true) (Program.modify fun s =>
      { s with directories := s.directories.insert manifest.sessionId none })
    fail reason
  | none =>
    Program.modify fun s =>
      { s with directories := s.directories.insert manifest.sessionId none }

def spawnWithIo (manifest : HostManifest) (ioMode : HostIoMode) :
    SupervisorM ω SupervisorBinding := do
  let now ← ask env.now
  ofExcept (manifest.validateRuntimeLifetimes now)
  let hosts ← reads SupervisorState.hosts
  require (hosts.entries.length < maxHosts) "supervisor host quota reached"
  require (hosts.lookup manifest.sessionId = none) "supervisor host already live"
  attemptTo id env.startHost
  createSpool env manifest
  whenever (ioMode = .structuredPipes) (attemptTo id env.createStderr)
  setHost manifest.sessionId
    { manifest := manifest
      custody := manifest
      spool := { base := 0, retained := [] }
      stderrSpool := if ioMode = .structuredPipes then some { base := 0, retained := [] }
        else none }
  pure (bindingOf manifest)

/-! ## Using a host -/

def reattach (binding : SupervisorBinding) : SupervisorM ω SupervisorStatus := do
  let hosted ← hostOf binding.sessionId
  let now ← ask env.now
  ofExcept (exactIdentity binding hosted.manifest now)
  ask (env.hostStatus binding.sessionId)

/-- The host of a binding that passes the check of an attached controller. -/
def controlled (binding : SupervisorBinding) : SupervisorM ω Hosted := do
  let hosted ← hostOf binding.sessionId
  let now ← ask env.now
  ofExcept (exact binding hosted.manifest now)
  pure hosted

def write (binding : SupervisorBinding) (bytes : List UInt8) : SupervisorM ω Unit := do
  require (bytes.length ≤ maxStdinBytes) "supervisor stdin frame exceeds budget"
  let _ ← controlled env binding
  attemptTo id (env.writeHost binding.sessionId bytes)

/-- Only terminals can be resized. -/
def resizeChild (hosted : Hosted) (id : String) (cols rows : Nat) : SupervisorM ω Unit :=
  match hosted.manifest.ioMode with
  | .pty => attemptTo (fun reason => reason) (env.resizeHost id cols rows)
  | .structuredPipes => fail "structured pipe hosts cannot resize"

def resize (binding : SupervisorBinding) (cols rows : Nat) : SupervisorM ω Unit := do
  require (¬ (cols = 0 ∨ rows = 0 ∨ 512 < cols ∨ 512 < rows))
    "invalid supervisor PTY size"
  let hosted ← controlled env binding
  resizeChild env hosted binding.sessionId cols rows

/-- Append output; the bytes that no longer fit are dropped from the front. -/
def Spool.append (spool : Spool) (bytes : List UInt8) : Except String Spool :=
  let dropped := spool.retained.length + bytes.length - supervisorSpoolMaxBytes
  if 2 ^ 64 ≤ spool.base + dropped then .error "supervisor offset overflow"
  else
    .ok
      { base := spool.base + dropped
        retained := spool.retained.drop dropped ++ bytes }

def Spool.readPage (spool : Spool) (offset maxBytes : Nat) : Except String SpoolPage :=
  let tail := spool.base + spool.retained.length
  if 2 ^ 64 ≤ tail then .error "supervisor offset overflow"
  else if offset < spool.base then
    .ok { bytes := [], nextOffset := some spool.base, totalBytes := tail, truncated := true }
  else if tail < offset then .error "supervisor spool cursor is beyond tail"
  else
    let bytes := (spool.retained.drop (offset - spool.base)).take maxBytes
    let next := offset + bytes.length
    .ok
      { bytes := bytes
        nextOffset := if next < tail then some next else none
        totalBytes := tail
        truncated := false }

/-- What the child has to say; a terminal has no separate error stream. -/
def drainChild (hosted : Hosted) (id : String) (stderr : Bool) (maxBytes : Nat) :
    SupervisorM ω (List UInt8 × Bool) := do
  if hosted.manifest.ioMode = .pty ∧ stderr = true then pure ([], false)
  else do
    let drained ← ask (env.drainHost id stderr maxBytes)
    ofExcept drained

/-- The stream a drain reads. -/
def Hosted.stream (hosted : Hosted) (stderr : Bool) : Option Spool :=
  if stderr then hosted.stderrSpool else some hosted.spool

def Hosted.setStream (hosted : Hosted) (stderr : Bool) (spool : Spool) : Hosted :=
  if stderr then { hosted with stderrSpool := some spool } else { hosted with spool := spool }

/-- Put drained bytes into the spool of a host. -/
def appendSpool (hosted : Hosted) (id : String) (stderr : Bool) (spool : Spool)
    (bytes : List UInt8) : SupervisorM ω Spool := do
  require (bytes.length ≤ supervisorSpoolMaxBytes)
    "supervisor output chunk exceeds spool budget"
  attemptTo (fun reason => reason) env.readSpool
  let next ← ofExcept (spool.append bytes)
  writeFile (fun reason => s!"write supervisor spool: {reason}") env.writeSpool fun s =>
    { s with hosts := s.hosts.insert id (hosted.setStream stderr next) }
  pure next

def readSpoolPage (spool : Spool) (offset maxBytes : Nat) : SupervisorM ω SpoolPage := do
  require (¬ (maxBytes = 0 ∨ supervisorSpoolMaxBytes < maxBytes))
    "invalid supervisor spool page budget"
  attemptTo (fun reason => reason) env.readSpool
  ofExcept (spool.readPage offset maxBytes)

/-- Drained bytes and the page that is read back. -/
def drainStream (hosted : Hosted) (id : String) (stderr : Bool) (spool : Spool)
    (drained : List UInt8 × Bool) (offset maxBytes : Nat) : SupervisorM ω SpoolPage := do
  let spool ← if drained.1 = [] then pure spool
    else appendSpool env hosted id stderr spool drained.1
  let page ← readSpoolPage env spool offset maxBytes
  pure { page with truncated := page.truncated || drained.2 }

def drain (binding : SupervisorBinding) (offset maxBytes : Nat) (stderr : Bool) :
    SupervisorM ω SpoolPage := do
  let hosted ← controlled env binding
  let drained ← drainChild env hosted binding.sessionId stderr maxBytes
  match hosted.stream stderr with
  | none => fail "stderr stream unavailable"
  | some spool => drainStream env hosted binding.sessionId stderr spool drained offset maxBytes

/-! ## Changes of controller -/

/-- What the digest of a change covers. -/
def Change.payload (change : Change) (binding : SupervisorBinding) : Payload :=
  match change with
  | .rotate owner epoch expires | .reclaim owner epoch expires | .claim owner epoch expires =>
    .handoff binding owner epoch expires
  | .detach epoch => .detach binding epoch
  | .renew expires => .renew binding expires

/-- The checks of a spool on the manifest that replaces its own. -/
def rotateManifest (custody next : HostManifest) : Except String Unit := do
  next.validate
  runChecks
    [(decide (next.sessionId = custody.sessionId ∧ next.deviceId = custody.deviceId ∧
        next.workspaceId = custody.workspaceId ∧ next.ioMode = custody.ioMode),
      "supervisor binding identity cannot change"),
      (decide (custody.controllerEpoch < next.controllerEpoch),
        "supervisor binding epoch must advance")]

def renewManifest (custody next : HostManifest) : Except String Unit := do
  next.validate
  runChecks
    [(decide (next.sessionId = custody.sessionId ∧ next.deviceId = custody.deviceId ∧
        next.workspaceId = custody.workspaceId ∧
        next.ownerPrincipal = custody.ownerPrincipal ∧
        next.controllerEpoch = custody.controllerEpoch ∧ next.controllerAttached = true ∧
        next.ioMode = custody.ioMode),
      "supervisor renewal identity cannot change")]

def Change.checkCustody (change : Change) (custody next : HostManifest) : Except String Unit :=
  if change.isRenew then renewManifest custody next else rotateManifest custody next

/-- The wording of a failed write of the manifest. -/
def Change.describeWrite (change : Change) (reason : String) : String :=
  if change.isRenew then s!"renew supervisor manifest: {reason}"
  else s!"rotate supervisor manifest: {reason}"

/-- Replace the manifest of a host, first in its spool. -/
def replaceManifest (change : Change) (id : String) (hosted : Hosted) (next : HostManifest) :
    SupervisorM ω Unit := do
  ofExcept (change.checkCustody hosted.custody next)
  attemptTo change.describeWrite env.writeManifest
  setHost id { hosted with manifest := next, custody := next }

/-- Whether the receipt of a call is the one the manifest applied last; a plain call has
none. -/
def HostManifest.replays (manifest : HostManifest) (receipt : Option TransitionReceipt) :
    Except String Bool :=
  match receipt with
  | none => .ok false
  | some receipt => manifest.matchesTransition receipt

def HostManifest.keepReceipt (manifest : HostManifest) (receipt : Option TransitionReceipt) :
    Except String HostManifest :=
  match receipt with
  | none => .ok manifest
  | some receipt => manifest.recordTransition receipt

/-- Apply a change that is not a repetition. -/
def applyChange (previous : SupervisorBinding) (change : Change)
    (receipt : Option TransitionReceipt) (hosted : Hosted) : SupervisorM ω SupervisorBinding := do
  let now ← ask env.now
  ofExcept (change.guard previous hosted.manifest now)
  ofExcept (change.checkEpoch previous)
  let fresh ← ask env.fresh
  let next ← ofExcept (change.next hosted.manifest fresh)
  let now ← ask env.now
  ofExcept (change.checkLifetimes next now)
  let next ← ofExcept (next.keepReceipt receipt)
  replaceManifest env change previous.sessionId hosted next
  pure (bindingOf next)

def changeBinding (previous : SupervisorBinding) (change : Change)
    (receipt : Option TransitionReceipt) : SupervisorM ω SupervisorBinding := do
  let hosted ← hostOf previous.sessionId
  let replayed ← ofExcept (hosted.manifest.replays receipt)
  if replayed then pure (bindingOf hosted.manifest)
  else applyChange env previous change receipt hosted

section Members

variable (previous : SupervisorBinding) (owner : String) (epoch : Nat) (expires : Int)
  (receipt : TransitionReceipt)

def rotateBinding : SupervisorM ω SupervisorBinding :=
  changeBinding env previous (.rotate owner epoch expires) none

def rotateBindingIdempotent : SupervisorM ω SupervisorBinding :=
  changeBinding env previous (.rotate owner epoch expires) (some receipt)

def reclaimExpiredBinding : SupervisorM ω SupervisorBinding :=
  changeBinding env previous (.reclaim owner epoch expires) none

def reclaimIdempotent : SupervisorM ω SupervisorBinding :=
  changeBinding env previous (.reclaim owner epoch expires) (some receipt)

def detachBinding : SupervisorM ω SupervisorBinding :=
  changeBinding env previous (.detach epoch) none

def detachIdempotent : SupervisorM ω SupervisorBinding :=
  changeBinding env previous (.detach epoch) (some receipt)

def claimDetachedBinding : SupervisorM ω SupervisorBinding :=
  changeBinding env previous (.claim owner epoch expires) none

def claimIdempotent : SupervisorM ω SupervisorBinding :=
  changeBinding env previous (.claim owner epoch expires) (some receipt)

def renewIdempotent : SupervisorM ω SupervisorBinding :=
  changeBinding env previous (.renew expires) (some receipt)

end Members

/-! ## Termination -/

/-- The receipt in the directory of a session. -/
def terminationReceipt (id : String) : SupervisorM ω (Option TerminationReceipt) := do
  require (validComponent id = true) "invalid supervisor session id"
  match ← reads fun s : SupervisorState ω => s.directories.lookup id with
  | none => pure none
  | some receipt => do
    attemptTo (fun reason => reason) env.readReceipt
    pure receipt

/-- Keep the receipt of a terminated host. -/
def recordTermination (custody : HostManifest) (receipt : TransitionReceipt) :
    SupervisorM ω Unit := do
  ofExcept (validateTransition receipt)
  let ended : TerminationReceipt :=
    { binding := bindingOf custody
      transitionId := receipt.transitionId
      payloadDigest := receipt.payloadDigest }
  match ← terminationReceipt env custody.sessionId with
  | some existing =>
    if existing = ended then pure ()
    else if existing.transitionId = receipt.transitionId then
      fail "supervisor termination id payload conflict"
    else fail "supervisor host already terminated"
  | none =>
    writeFile (fun reason => s!"write supervisor termination receipt: {reason}") env.writeReceipt
      fun s => { s with directories := s.directories.insert custody.sessionId (some ended) }

/-- End a live host; it leaves the table once its receipt is kept and reported as kept. -/
def terminateLive (hosted : Hosted) (binding : SupervisorBinding) (receipt : TransitionReceipt) :
    SupervisorM ω Unit := do
  let now ← ask env.now
  ofExcept (exact binding hosted.manifest now)
  attemptTo (fun reason => reason) (env.terminateHost binding.sessionId)
  recordTermination env hosted.custody receipt
  Program.modify fun s => { s with hosts := s.hosts.erase binding.sessionId }

/-- The answer for a host that is gone. -/
def TerminationReceipt.answer (ended : TerminationReceipt) (binding : SupervisorBinding)
    (receipt : TransitionReceipt) : Except String Unit :=
  if ended.binding ≠ binding then .error "supervisor termination binding mismatch"
  else if ended.transitionId = receipt.transitionId then
    if ended.payloadDigest = receipt.payloadDigest then .ok ()
    else .error "supervisor termination id payload conflict"
  else .error "supervisor host already terminated"

def terminateGone (binding : SupervisorBinding) (receipt : TransitionReceipt) :
    SupervisorM ω Unit := do
  match ← terminationReceipt env binding.sessionId with
  | none => fail "supervisor host unavailable"
  | some ended => ofExcept (ended.answer binding receipt)

def terminateIdempotent (binding : SupervisorBinding) (receipt : TransitionReceipt) :
    SupervisorM ω Unit := do
  match ← reads fun s : SupervisorState ω => s.hosts.lookup binding.sessionId with
  | some hosted => terminateLive env hosted binding receipt
  | none => terminateGone env binding receipt

/-! ## The sweep -/

/-- The hosts whose own lifetime has ended. -/
def SupervisorState.expired (s : SupervisorState ω) (now : Int) : List String :=
  (s.hosts.entries.filter fun entry => entry.2.manifest.hostExpiresUnix ≤ now).map Sigma.fst

/-- What one sweep takes of them: as many as it may, in the order of a hash table. -/
def SupervisorState.Picks (s : SupervisorState ω) (now : Int) (ids : List String) : Prop :=
  ids.Subperm (s.expired now) ∧ ids.length = min maxHosts (s.expired now).length

/-- Mark one host as being ended and take it out of the table. -/
def SupervisorState.beginSweep (s : SupervisorState ω) (id : String) : SupervisorState ω :=
  { s with
    hosts := s.hosts.erase id
    terminating := s.terminating.insert id }

/-- A confirmed end: the mark is cleared. -/
def SupervisorState.confirmSwept (s : SupervisorState ω) (id : String) : SupervisorState ω :=
  { s with terminating := s.terminating.erase id }

/-- A failed end: the host is tracked again, and its mark is cleared. -/
def SupervisorState.retrack (s : SupervisorState ω) (id : String) (hosted : Hosted) :
    SupervisorState ω :=
  { s with
    hosts := s.hosts.insert id hosted
    terminating := s.terminating.erase id }

/-- The two reads of the liveness probe. -/
def SupervisorState.tracked (s : SupervisorState ω) (id : String) : Bool :=
  (s.hosts.lookup id).isSome

def SupervisorState.inFlight (s : SupervisorState ω) (id : String) : Bool :=
  decide (id ∈ s.terminating)

end Operations

end OwnMesh.Supervisor
