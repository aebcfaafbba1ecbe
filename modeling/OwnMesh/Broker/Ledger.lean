import OwnMesh.Foundations.Program
import OwnMesh.Foundations.Table

/-!
# The broker's replay ledger

The privileged broker consumes the nonce of a request in a ledger before the elevated
process can start.  An entry goes from `reservedPreSpawn` over `spawnedUncertain` to
`completed`, or is aborted before the spawn by an operator; entries that are over are
pruned once their request has expired.  Every change is made in memory and then written;
a failed write closes the ledger until it is opened again.

The file is replaced by writing a temporary file, renaming it over the old one and
synchronising the directory.  A failure before the rename leaves the file alone; a
failure after it leaves the new file, which a loss of power may still undo.  `Disk`
therefore keeps, next to the file, the older contents the directory may fall back to.
What the surroundings decide (the file operations and what they report) is a parameter,
`Environment`, over an arbitrary world.
-/

namespace OwnMesh.Broker

open Foundations Program

/-! ## Data -/

def ledgerVersion : Nat := 2

def maxLedgerBytes : Nat := 4 * 1024 * 1024

def maxNonceBytes : Nat := 256

def digestHexBytes : Nat := 64

/-- Persistent replay state. -/
inductive ReplayState where
  | reservedPreSpawn
  | spawnedUncertain
  | completed
  | abortedBeforeSpawn
deriving DecidableEq, Repr

structure ReconciliationRecord where
  actor : String
  atUnix : Int
  (priorState newState : ReplayState)
deriving DecidableEq, Repr

structure LedgerEntry where
  digest : String
  (reservedAtUnix expiresAtUnix : Int)
  transitionSeq : Nat
  state : ReplayState
  (processPid processBirthId : Option Nat)
  resultDigest : Option String
  reconciliation : Option ReconciliationRecord
deriving DecidableEq, Repr

/-- The entries of a ledger by nonce. -/
abbrev Entries : Type := Table String LedgerEntry

structure LedgerFile where
  version : Nat
  entries : Entries

inductive LegacyReplayState where
  | reserved
  | completed
deriving DecidableEq, Repr

structure LegacyLedgerEntry where
  digest : String
  expiresAtUnix : Int
  state : LegacyReplayState

structure LegacyLedgerFile where
  version : Nat
  entries : Table String LegacyLedgerEntry

inductive ReconcileDecision where
  | markAbortedBeforeSpawn
  | markCompleted
deriving DecidableEq, Repr

/-- A successful reservation permits exactly one spawn. -/
inductive ReplayReservation where
  | reserved

inductive ReplayLedgerError where
  | replay
  | digestConflict
  | full
  | corrupt (reason : String)
  | custody (reason : String)
  | write (reason : String)
  | failedClosed
  | invalid (reason : String)
deriving DecidableEq, Repr

/-- What a ledger file can hold: no readable version, a version this broker does not
know, a body that is not of its version's schema, or a ledger. -/
inductive Document where
  | noVersion
  | forward (version : Nat)
  | malformed (reason : String)
  | legacy (file : LegacyLedgerFile)
  | current (file : LedgerFile)

structure FileMetadata where
  (isFile isDir isSymlink : Bool)
  (uid mode : Nat)

/-! ## Surroundings -/

/-- What the surroundings decide.  An answer `some reason` is a failure. -/
structure Environment (ω : Type) where
  path : String
  parent : Option String
  effectiveUid : ω → Nat × ω
  symlinkMetadata : String → ω → Except String FileMetadata × ω
  lockExists : ω → Bool × ω
  (openLock tryLockExclusive statFile readFile : ω → Option String × ω)
  length : Document → Nat
  serializeError : LedgerFile → Option String
  tempName : ω → String × ω
  (createTemp writeTemp syncTemp rename syncDirectory : ω → Option String × ω)
  /-- What the file is when the broker starts again: the latest content (0) or, after a
  loss of power, one of the contents whose replacement was not synchronised. -/
  survivor : ω → Nat × ω

/-- The ledger's file.  `persistFailures` is a history variable, no part of the
program: it counts the writes that failed. -/
structure Disk (ω : Type) where
  file : Option Document
  unsynced : List (Option Document)
  persistFailures : Nat
  world : ω

/-- Programs on the disk. -/
abbrev DiskM (ω α : Type) : Type := Program (Disk ω) ReplayLedgerError α

section Files

variable {ω : Type} (env : Environment ω)

/-- Ask the surroundings. -/
def ask {α : Type} (question : ω → α × ω) : DiskM ω α :=
  query fun d => ((question d.world).1, { d with world := (question d.world).2 })

/-- A file operation that may fail. -/
def tryFile (operation : ω → Option String × ω) (failure : String → ReplayLedgerError) :
    DiskM ω Unit := do
  match ← ask operation with
  | some reason => fail (failure reason)
  | none => pure ()

/-- What a custody check accepts of the file or directory at a path. -/
def inspect (path label : String) (accepts : FileMetadata → Bool) (refusal : String) :
    DiskM ω Unit := do
  match ← ask (env.symlinkMetadata path) with
  | .error reason => fail (.custody s!"inspect {label}: {reason}")
  | .ok metadata => require (accepts metadata = true) (.custody refusal)

/-- A regular file of root that nobody else may read or write. -/
def ownerOnly (metadata : FileMetadata) : Bool :=
  metadata.isFile && !metadata.isSymlink && metadata.uid == 0 && metadata.mode &&& 0o777 == 0o600

def verifyLedgerParent : DiskM ω Unit := do
  match env.parent with
  | none => fail (.custody "ledger requires a root-controlled parent")
  | some parent =>
    let uid ← ask env.effectiveUid
    require (uid = 0)
      (.custody "production replay ledger requires effective UID 0")
    inspect env parent parent
      (fun metadata => metadata.isDir && !metadata.isSymlink && metadata.uid == 0 &&
        metadata.mode &&& 0o022 == 0)
      "ledger parent must be root-owned, non-symlink, and not group/other writable"

def acquireLedgerLock : DiskM ω Unit := do
  match env.parent with
  | none => fail (.custody "ledger requires a parent directory")
  | some parent =>
    let present ← ask env.lockExists
    whenever (present = true)
      (inspect env (parent ++ "/replay-ledger.lock") "replay ledger lock" ownerOnly
        "replay ledger lock must be a root-owned 0600 regular file")
    tryFile env.openLock fun reason => .custody s!"open replay ledger lock: {reason}"
    tryFile env.tryLockExclusive fun _ =>
      .custody ("replay ledger is active in another broker process; stop the broker before " ++
        "reconciliation")

def verifyLedgerFile : DiskM ω Unit :=
  inspect env env.path env.path ownerOnly
    "ledger must be a root-owned 0600 regular non-symlink file"

/-- Put a new file in the place of the old one, which the directory may fall back to. -/
def replaceFile (document : Document) : DiskM ω Unit :=
  Program.modify fun d =>
    { d with file := some document, unsynced := d.file :: d.unsynced }

/-- Write the temporary file, rename it over the ledger and synchronise. -/
def writeLedger (parent : String) (file : LedgerFile) : DiskM ω Unit := do
  let temp ← ask env.tempName
  tryFile env.createTemp fun reason => .write s!"create {temp}: {reason}"
  tryFile env.writeTemp fun reason => .write s!"write {temp}: {reason}"
  tryFile env.syncTemp fun reason => .write s!"sync {temp}: {reason}"
  tryFile env.rename fun reason => .write s!"rename {env.path}: {reason}"
  replaceFile (.current file)
  tryFile env.syncDirectory fun reason => .write s!"sync directory {parent}: {reason}"
  Program.modify fun d => { d with unsynced := [] }
  verifyLedgerFile env

/-- The checks before the write, and the write. -/
def persistFile (file : LedgerFile) : DiskM ω Unit := do
  match env.serializeError file with
  | some reason => fail (.write s!"serialize: {reason}")
  | none =>
    require (env.length (.current file) ≤ maxLedgerBytes) .full
    match env.parent with
    | none => fail (.custody "ledger requires a parent directory")
    | some parent => writeLedger env parent file

/-- Make the entries durable. -/
def persist (entries : Entries) : DiskM ω Unit := do
  match ← attempt (persistFile env { version := ledgerVersion, entries := entries }) with
  | .ok _ => pure ()
  | .error e => do
    Program.modify fun d => { d with persistFailures := d.persistFailures + 1 }
    fail e

end Files

/-! ## Validation -/

def isDigest (value : String) : Bool :=
  decide (value.utf8ByteSize = digestHexBytes) &&
    value.toList.all fun c =>
      decide (('0' ≤ c ∧ c ≤ '9') ∨ ('a' ≤ c ∧ c ≤ 'f'))

/-- Checks of a reservation; an entry that is read back has no clock to be late by. -/
def validateReservation (nonce digest : String) (expiresAtUnix : Int) (nowUnix : Option Int) :
    Except ReplayLedgerError Unit :=
  runChecks
    [(nonce != "" && decide (nonce.utf8ByteSize ≤ maxNonceBytes) &&
        !nonce.toList.contains '\x00', .invalid "nonce"),
     (isDigest digest, .invalid "digest"),
     (nowUnix.all fun now => decide (now ≤ expiresAtUnix), .invalid "expired reservation")]

def validActor (actor : String) : Bool :=
  actor != "" && decide (actor.utf8ByteSize ≤ 128) &&
    !actor.toList.any fun c => c == '\n' || c == '\r' || c == '\x00'

def validateEntry (nonce : String) (entry : LedgerEntry) : Except ReplayLedgerError Unit := do
  validateReservation nonce entry.digest entry.expiresAtUnix none
  runChecks
    [(entry.transitionSeq != 0, .corrupt "zero transition sequence"),
     (entry.processPid.isSome == entry.processBirthId.isSome,
        .corrupt "partial process identity in replay ledger"),
     (entry.resultDigest.all isDigest, .corrupt "invalid result digest"),
     (entry.reconciliation.all fun record => validActor record.actor,
        .corrupt "invalid reconciliation metadata")]

/-! ## Opening -/

/-- An open ledger. -/
structure ReplayLedger where
  maxEntries : Nat
  entries : Entries
  failedClosed : Bool

/-- An old reservation may or may not have spawned. -/
def migrateState : LegacyReplayState → ReplayState
  | .reserved => .spawnedUncertain
  | .completed => .completed

def migrateEntry (entry : LegacyLedgerEntry) : LedgerEntry where
  digest := entry.digest
  reservedAtUnix := 0
  expiresAtUnix := entry.expiresAtUnix
  transitionSeq := 1
  state := migrateState entry.state
  processPid := none
  processBirthId := none
  resultDigest := none
  reconciliation := none

/-- The entries of a file that was read, and whether they were migrated. -/
def decode (maxEntries : Nat) : Document → Except ReplayLedgerError (Entries × Bool)
  | .noVersion => .error (.corrupt "missing ledger version")
  | .forward _ => .error (.corrupt "unsupported forward ledger version")
  | .malformed reason => .error (.corrupt reason)
  | .legacy file =>
    if file.version ≠ 1 ∨ file.entries.entries.length > maxEntries then
      .error (.corrupt "legacy version or entry count is invalid")
    else .ok (file.entries.mapValues fun _ => migrateEntry, true)
  | .current file =>
    if file.entries.entries.length > maxEntries then
      .error (.corrupt "entry count exceeds limit")
    else .ok (file.entries, false)

section Opening

variable {ω : Type} (env : Environment ω)

/-- Open an existing ledger or create a fresh one. -/
def openLedger (maxEntries : Nat) : DiskM ω ReplayLedger := do
  require (maxEntries ≠ 0) (.invalid "max entries must be positive")
  verifyLedgerParent env
  acquireLedgerLock env
  match ← reads Disk.file with
  | none =>
    persist env ∅
    pure { maxEntries := maxEntries, entries := ∅, failedClosed := false }
  | some document =>
    verifyLedgerFile env
    tryFile env.statFile fun reason => .corrupt s!"stat {env.path}: {reason}"
    require (env.length document ≤ maxLedgerBytes) (.corrupt "file exceeds size limit")
    tryFile env.readFile fun reason => .corrupt s!"read {env.path}: {reason}"
    let (entries, migrated) ← ofExcept (decode maxEntries document)
    forEach (fun entry => ofExcept (validateEntry entry.1 entry.2))
      entries.toList
    whenever (migrated = true) (persist env entries)
    pure { maxEntries := maxEntries, entries := entries, failedClosed := false }

/-- The broker stopped or crashed, and the machine may have lost power with it. -/
def surviving : DiskM ω Unit := do
  match ← ask env.survivor with
  | 0 => pure ()
  | index + 1 =>
    Program.modify fun d =>
      { d with file := (d.unsynced[index]?).getD d.file, unsynced := [] }

end Opening

/-! ## Transitions -/

/-- An open ledger and its file. -/
structure OpenLedger (ω : Type) where
  ledger : ReplayLedger
  disk : Disk ω

/-- Programs on an open ledger. -/
abbrev LedgerM (ω α : Type) : Type := Program (OpenLedger ω) ReplayLedgerError α

/-- An entry that may have had, or may yet have, its effect. -/
def ReplayState.isUncertain : ReplayState → Bool
  | .reservedPreSpawn | .spawnedUncertain => true
  | .completed | .abortedBeforeSpawn => false

/-- The entries that stay when the ones that are over and expired go. -/
def unexpired (nowUnix : Int) (entries : Entries) : Entries :=
  entries.retain fun _ entry => entry.state.isUncertain || decide (nowUnix ≤ entry.expiresAtUnix)

/-- The largest transition number; counting stops there. -/
def maxTransitionSeq : Nat := 2 ^ 64 - 1

def LedgerEntry.advance (entry : LedgerEntry) (next : ReplayState) : LedgerEntry :=
  { entry with state := next, transitionSeq := min (entry.transitionSeq + 1) maxTransitionSeq }

def freshEntry (digest : String) (expiresAtUnix nowUnix : Int) : LedgerEntry where
  digest := digest
  reservedAtUnix := nowUnix
  expiresAtUnix := expiresAtUnix
  transitionSeq := 1
  state := .reservedPreSpawn
  processPid := none
  processBirthId := none
  resultDigest := none
  reconciliation := none

def LedgerEntry.spawned (processIdentity : Option (Nat × Nat)) (entry : LedgerEntry) :
    LedgerEntry :=
  match processIdentity with
  | none => entry.advance .spawnedUncertain
  | some (pid, birth) =>
    { entry.advance .spawnedUncertain with
      processPid := some pid
      processBirthId := some birth }

def LedgerEntry.reconciled (actor : String) (nowUnix : Int) (next : ReplayState)
    (entry : LedgerEntry) : LedgerEntry :=
  { entry.advance next with
    reconciliation := some
      { actor := actor, atUnix := nowUnix, priorState := entry.state, newState := next } }

/-- The state an operator's decision leads to. -/
def reconcileNext (decision : ReconcileDecision) (prior : ReplayState)
    (acknowledgeUncertain : Bool) : Except ReplayLedgerError ReplayState :=
  match decision, prior with
  | .markAbortedBeforeSpawn, .reservedPreSpawn => .ok .abortedBeforeSpawn
  | .markCompleted, .spawnedUncertain =>
    if acknowledgeUncertain then .ok .completed
    else .error
      (.invalid "spawned-uncertain reconciliation requires explicit acknowledgement")
  | _, _ => .error (.invalid "reconciliation decision is incompatible with durable state")

section Transitions

variable {ω : Type} (env : Environment ω)

def onDisk {α : Type} (m : DiskM ω α) : LedgerM ω α :=
  Program.zoom OpenLedger.disk (fun disk s => { s with disk := disk }) m

def setEntries (entries : Entries) : LedgerM ω Unit :=
  Program.modify fun s => { s with ledger := { s.ledger with entries := entries } }

def ensureAvailable : LedgerM ω Unit := do
  let failedClosed ← reads fun s => s.ledger.failedClosed
  require (failedClosed = false) .failedClosed

/-- Write the entries; a failure closes the ledger. -/
def persistOrClose : LedgerM ω Unit := do
  let entries ← reads fun s => s.ledger.entries
  match ← attempt (onDisk (persist env entries)) with
  | .ok _ => pure ()
  | .error e => do
    Program.modify fun s => { s with ledger := { s.ledger with failedClosed := true } }
    fail e

def pruneCompleted (nowUnix : Int) : LedgerM ω Unit := do
  let entries ← reads fun s => s.ledger.entries
  setEntries (unexpired nowUnix entries)
  whenever ((unexpired nowUnix entries).entries.length ≠ entries.entries.length)
    (persistOrClose env)

/-- Persist and consume a nonce before its side effect. -/
def reserve (nonce digest : String) (expiresAtUnix nowUnix : Int) :
    LedgerM ω ReplayReservation := do
  ensureAvailable
  ofExcept (validateReservation nonce digest expiresAtUnix (some nowUnix))
  pruneCompleted env nowUnix
  let entries ← reads fun s => s.ledger.entries
  match entries.lookup nonce with
  | some entry =>
    fail (if entry.digest = digest then .replay else .digestConflict)
  | none =>
    let maxEntries ← reads fun s => s.ledger.maxEntries
    require (entries.entries.length < maxEntries) .full
    setEntries (entries.insert nonce (freshEntry digest expiresAtUnix nowUnix))
    persistOrClose env
    pure .reserved

/-- Replace the entry of a nonce and write the ledger. -/
def updateEntry (nonce : String) (change : LedgerEntry → Except ReplayLedgerError LedgerEntry) :
    LedgerM ω Unit := do
  let entries ← reads fun s => s.ledger.entries
  match entries.lookup nonce with
  | none => fail .replay
  | some entry =>
    let changed ← ofExcept (change entry)
    setEntries (entries.insert nonce changed)
    persistOrClose env

/-- Durably cross the side-effect boundary before spawning. -/
def markSpawned (nonce digest : String) (processIdentity : Option (Nat × Nat)) :
    LedgerM ω Unit := do
  ensureAvailable
  updateEntry env nonce fun entry =>
    if entry.digest ≠ digest then .error .digestConflict
    else if entry.state ≠ .reservedPreSpawn then .error .replay
    else .ok (entry.spawned processIdentity)

/-- Mark a known consumed nonce complete. -/
def markCompleted (nonce digest : String) : LedgerM ω Unit := do
  ensureAvailable
  updateEntry env nonce fun entry =>
    if entry.digest ≠ digest then .error .digestConflict
    else if entry.state ≠ .spawnedUncertain then .error .replay
    else .ok (entry.advance .completed)

/-- Apply an operator's disposition without running the operation again. -/
def reconcile (nonce : String) (decision : ReconcileDecision) (actor : String) (nowUnix : Int)
    (acknowledgeUncertain : Bool) : LedgerM ω Unit := do
  ensureAvailable
  require (validActor actor = true) (.invalid "reconciliation actor is invalid")
  updateEntry env nonce fun entry =>
    (reconcileNext decision entry.state acknowledgeUncertain).map fun next =>
      entry.reconciled actor nowUnix next

end Transitions

/-! ## Runs -/

/-- The mutating calls of a ledger. -/
inductive LedgerCall where
  | reserve (nonce digest : String) (expiresAtUnix : Int)
  | markSpawned (nonce digest : String) (processIdentity : Option (Nat × Nat))
  | markCompleted (nonce digest : String)
  | reconcile (nonce : String) (decision : ReconcileDecision) (actor : String)
      (acknowledgeUncertain : Bool)

/-- A call made at a time. -/
def LedgerCall.perform {ω : Type} (env : Environment ω) (nowUnix : Int) :
    LedgerCall → LedgerM ω Unit
  | .reserve nonce digest expiresAtUnix => do
    let _ ← Broker.reserve env nonce digest expiresAtUnix nowUnix
    pure ()
  | .markSpawned nonce digest processIdentity =>
    Broker.markSpawned env nonce digest processIdentity
  | .markCompleted nonce digest => Broker.markCompleted env nonce digest
  | .reconcile nonce decision actor acknowledgeUncertain =>
    Broker.reconcile env nonce decision actor nowUnix acknowledgeUncertain

/-- The broker over its lives: the clock, the disk and, while it is open, the ledger. -/
structure BrokerState (ω : Type) where
  clock : Int
  disk : Disk ω
  ledger : Option ReplayLedger

/-- What happened in a step: a call with its answer and whether a write failed in it, or
a restart. -/
inductive LedgerEvent where
  | called (call : LedgerCall) (nowUnix : Int) (answer : Except ReplayLedgerError Unit)
      (persistFailed : Bool)
  | reopened (maxEntries : Nat)

section Steps

variable {ω : Type} (env : Environment ω)

/-- One step: a call on the open ledger, or a crash and a reopening.  A crash inside a
call is a call whose remaining file operations fail.  The clock does not go back. -/
inductive LedgerStep : BrokerState ω → LedgerEvent → BrokerState ω → Prop where
  | call {s : BrokerState ω} {ledger : ReplayLedger} (isOpen : s.ledger = some ledger)
      (call : LedgerCall) (nowUnix : Int) (later : s.clock ≤ nowUnix)
      {answer : Except ReplayLedgerError Unit} {t : OpenLedger ω}
      (ran : (call.perform env nowUnix).run { ledger := ledger, disk := s.disk } = (answer, t)) :
      LedgerStep s
        (.called call nowUnix answer (decide (s.disk.persistFailures < t.disk.persistFailures)))
        { clock := nowUnix, disk := t.disk, ledger := some t.ledger }
  | reopen {s : BrokerState ω} (maxEntries : Nat) {answer : Except ReplayLedgerError ReplayLedger}
      {disk : Disk ω}
      (ran : (surviving env >>= fun _ => openLedger env maxEntries).run s.disk = (answer, disk)) :
      LedgerStep s (.reopened maxEntries)
        { s with disk := disk, ledger := answer.toOption }

end Steps

end OwnMesh.Broker
