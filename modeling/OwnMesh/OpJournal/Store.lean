import OwnMesh.Foundations.Program
import OwnMesh.OpJournal.Entry

/-!
# The operation journal

The journal reserves an idempotency key before its side effect runs and replaces
the reservation by a receipt when the effect is over.  It lives in memory and in
one file, `op-journal.json`, with a `.bak` that older writers may have left.
Every mutation is made in memory first, then written; a failed write puts the
memory back.

The file operations, the clock and the encoder are the daemon's surroundings.
They are a parameter (`Environment`) over an arbitrary world `ω`, so a statement
about the journal holds for every pattern of failing writes and every clock.  The
writer replaces the file atomically and fails only before it does, so a write
either fails and leaves the file alone or succeeds.
-/

namespace OwnMesh.OpJournal

open Foundations Ipc Program

/-- What the surroundings decide: the clock, the length of an encoded journal, and
whether each file operation succeeds.  An answer `some reason` is a failure. -/
structure Environment (ω : Type) where
  now : ω → Int × ω
  encode : Table String Value → Except String Nat
  (primaryPath backupPath : String)
  (removeBackup writePrimary readFile : ω → Option String × ω)
  (persistApprovals persistGrants consumeGrantUse : ω → Option IpcError × ω)

/-- The journal in memory and on disk. -/
structure Journal (ω : Type) where
  entries : Table String Value
  degraded : Option String
  (primary backup : Option (Table String Value))
  world : ω

/-- Programs on the journal. -/
abbrev JournalM (ω α : Type) : Type := Program (Journal ω) IpcError α

section Operations

variable {ω : Type} (env : Environment ω)

/-- Ask the surroundings. -/
def ask {ε α : Type} (question : ω → α × ω) : Program (Journal ω) ε α :=
  query fun s => ((question s.world).1, { s with world := (question s.world).2 })

def setEntries {ε : Type} (entries : Table String Value) : Program (Journal ω) ε Unit :=
  Program.modify fun s => { s with entries := entries }

def journalDegradedError (reason : String) : IpcError :=
  .remote AppError.conflict
    ("OWNMESH_E_JOURNAL_DEGRADED: side effects are refused because the op-journal could not be " ++
      s!"loaded ({reason}). Repair locally with " ++
      "`ownmesh doctor --repair-journal --i-understand-replay-risk` then restart ownmeshd")

/-! ## Writing the file -/

/-- Remove the stale backup; a backup that is not there is no failure. -/
def removeStaleBackup {ε : Type} (failure : String → ε) : Program (Journal ω) ε Unit := do
  match ← reads Journal.backup with
  | none => pure ()
  | some _ =>
    match ← ask env.removeBackup with
    | some reason => fail (failure reason)
    | none => Program.modify fun s => { s with backup := none }

/-- Replace the primary file. -/
def writeOpJournal {ε : Type} (failure : String → ε) (durable : Table String Value) :
    Program (Journal ω) ε Unit := do
  match ← ask env.writePrimary with
  | some reason => fail (failure reason)
  | none => Program.modify fun s => { s with primary := some durable }

def staleBackupError (reason : String) : IpcError :=
  .remote AppError.internal
    (s!"failed to remove stale op journal backup {env.backupPath} before writing the compacted " ++
      s!"primary: {reason}; remove or repair the backup (it may hold a legacy large-body " ++
      "journal) and retry — refusing the persist rather than claiming compaction succeeded " ++
      "while the copy remains")

/-- Refuse every write of a degraded journal. -/
def rejectDegraded : JournalM ω Unit := do
  match ← reads Journal.degraded with
  | some reason => fail (journalDegradedError reason)
  | none => pure ()

/-- The durable view of the entries, if it encodes within the budgets. -/
def durableWithinBudget (entries : Table String Value) : Except IpcError (Table String Value) :=
  let durable := opJournalDurableView entries
  match env.encode durable with
  | .error reason =>
    .error (.remote AppError.internal s!"failed to serialize op journal: {reason}")
  | .ok encodedLen =>
    if encodedLen > maxOpJournalFileBytes then
      .error (.remote AppError.internal
        s!"op journal exceeds {maxOpJournalFileBytes} durable byte budget")
    else if entries.entries.length > maxOpJournalEntries then
      .error (.remote AppError.internal
        s!"op journal exceeds {maxOpJournalEntries} entry budget")
    else .ok durable

def persistOpJournal : JournalM ω Unit := do
  rejectDegraded
  let entries ← reads Journal.entries
  let durable ← ofExcept (durableWithinBudget env entries)
  let primary ← reads Journal.primary
  -- a backup is kept while it may be the only durable copy
  whenever primary.isSome (removeStaleBackup env (staleBackupError env))
  writeOpJournal env
    (fun reason => .remote AppError.internal s!"failed to persist op journal: {reason}") durable
  -- the stale backup is retried after every successful write, failures ignored
  let _ ← attempt (removeStaleBackup env id)
  pure ()

/-- Write the journal; when that fails, put the given entries back in memory. -/
def persistOrRestore (snapshot : Table String Value) : JournalM ω Unit := do
  match ← attempt (persistOpJournal env) with
  | .ok _ => pure ()
  | .error e => do
    setEntries snapshot
    fail e

/-! ## Eviction and acknowledgement -/

/-- Keep only the entries that pass a test, and count the others.  The file is
written when at least one entry went; a failed write brings them back. -/
def dropEntries (keep : Value → Bool) : JournalM ω Nat := do
  let snapshot ← reads Journal.entries
  let kept := snapshot.retain fun _ value => keep value
  setEntries kept
  let dropped := snapshot.entries.length - kept.entries.length
  if dropped = 0 then pure 0
  else do
    persistOrRestore env snapshot
    pure dropped

/-- An entry that eviction keeps: not completed, or not past its window. -/
def keptAt (now : Int) (value : Value) : Bool :=
  opJournalEntryState value != .completed || !expiredAt now value

def evictExpiredCompletedOpJournalEntries : JournalM ω Nat := do
  let now ← ask env.now
  dropEntries env (keptAt now)

/-- An entry that an acknowledgement of the given operations keeps. -/
def unacknowledged (operationIds : List String) (value : Value) : Bool :=
  opJournalEntryState value != .completed ||
    !((stringAt value "operation_id").any operationIds.contains)

def acknowledgeControlPlaneOperations (operationIds : List String) : JournalM ω Nat :=
  if operationIds = [] then pure 0 else dropEntries env (unacknowledged operationIds)

/-- The reservation of a key. -/
def inProgressMarker (operationId : String) : Value :=
  .ofFields [(stateField, .string inProgressMark), ("operation_id", .string operationId)]

/-- The encoded journal would reach the byte budget. -/
def atByteCap (journal : Table String Value) : Bool :=
  match env.encode (opJournalDurableView journal) with
  | .ok bytes => decide (maxOpJournalFileBytes ≤ bytes)
  | .error _ => true

/-- Evict when the journal is full, or would be with the reservation in it. -/
def maybeMakeOpJournalRoom (key operationId : String) : JournalM ω Unit := do
  let entries ← reads Journal.entries
  let projected := entries.insert key (inProgressMarker operationId)
  if entries.entries.length < maxOpJournalEntries ∧ atByteCap env projected = false then pure ()
  else do
    let _ ← evictExpiredCompletedOpJournalEntries env
    pure ()

/-! ## Requests on a key -/

def uncertainOutcomeError (key : String) (entry : Value) : IpcError :=
  .remote AppError.conflict
    (if isOpJournalRecoverableOrphan entry then
      s!"OWNMESH_E_OPERATION_ORPHANED: idempotency key {key} was accepted by a prior daemon " ++
        "process but has no durable terminal result; operator investigation and reconciliation " ++
        "are required and automatic retry is refused"
    else s!"idempotency key {key} has an in-progress or uncertain outcome; retry refused")

def lookupIdempotent : Option String → JournalM ω (Option Value)
  | none => pure none
  | some key => do
    match ← reads fun s => s.entries.lookup key with
    | none => pure none
    | some entry =>
      if isOpJournalUncertain entry then fail (uncertainOutcomeError key entry)
      else do
        let now ← ask env.now
        if expiredAt now entry then do
          let snapshot ← reads Journal.entries
          setEntries (snapshot.erase key)
          match ← attempt (persistOpJournal env) with
          | .ok _ => pure none
          | .error _ => do
            setEntries snapshot
            pure none
        else pure (some entry)

def beginIdempotent (key : Option String) (operationId : String) : JournalM ω Unit :=
  match key with
  | none => pure ()
  | some key => do
    match ← reads fun s => s.entries.lookup key with
    | some _ =>
      fail
        (.remote AppError.conflict s!"idempotency key {key} is already reserved")
    | none => do
      maybeMakeOpJournalRoom env key operationId
      let snapshot ← reads Journal.entries
      require (snapshot.entries.length < maxOpJournalEntries)
        (.remote AppError.journalCapacity
          (s!"op journal at capacity ({maxOpJournalEntries}) with no evictable completed " ++
            "receipts; refuse new idempotency key (run `ownmesh doctor` for journal " ++
            "pressure)"))
      setEntries (snapshot.insert key (inProgressMarker operationId))
      persistOrRestore env snapshot

def storeIdempotent (key : Option String) (value : Value) : JournalM ω Unit :=
  match key with
  | none => pure ()
  | some key => do
    let snapshot ← reads Journal.entries
    let now ← ask env.now
    let stored := value.insert completedUnixField (.ofInt now)
    setEntries (snapshot.insert key stored)
    persistOrRestore env snapshot
    -- memory keeps the same receipt the file holds
    Program.modify fun s =>
      match (opJournalDurableView s.entries).lookup key with
      | some receipt => { s with entries := s.entries.insert key receipt }
      | none => s

/-- The longest beginning of a text that fits a number of bytes. -/
def takeBytes : Nat → List Char → List Char
  | _, [] => []
  | budget, c :: rest =>
    if c.utf8Size ≤ budget then c :: takeBytes (budget - c.utf8Size) rest else []

def boundedJournalErrorMessage (message : String) : String :=
  if message.utf8ByteSize ≤ 512 then message
  else String.ofList (takeBytes 512 message.toList) ++ "…"

def failedReceipt (operationId : String) (code : Int) (message : String) : Value :=
  .ofFields
    [("durable_receipt", .bool true),
     ("status", .string "failed"),
     ("operation_id", .string operationId),
     ("error", .ofFields
       [("code", .ofInt code),
        ("message", .string (boundedJournalErrorMessage message)),
        ("retryable", .bool false)])]

/-- The entry is the reservation made for the given operation. -/
def isMarkerOf (operationId : String) (entry : Value) : Bool :=
  opJournalEntryState entry == .inProgress && stringAt entry "operation_id" == some operationId

def failIdempotent (key : Option String) (operationId : String) (code : Int) (message : String) :
    JournalM ω Bool :=
  match key with
  | none => pure false
  | some key => do
    match ← reads fun s => s.entries.lookup key with
    | none => pure false
    | some entry =>
      if isMarkerOf operationId entry then do
        storeIdempotent env (some key) (failedReceipt operationId code message)
        pure true
      else pure false

/-! ## Completion -/

def validateCompletionMarker (key : Option String) (operationId : String) : JournalM ω Unit :=
  match key with
  | none => pure ()
  | some key => do
    match ← reads fun s => s.entries.lookup key with
    | some entry =>
      require (isMarkerOf operationId entry = true)
        (.remote AppError.conflict
          (s!"idempotency key for {operationId} changed before result finalization; " ++
            "outcome is uncertain and must not be retried"))
    | none =>
      fail
        (.remote AppError.conflict
          (s!"idempotency marker for {operationId} is missing at finalization; " ++
            "outcome is uncertain and must not be retried"))

def completionBody (operationId reason : String) (result : Value) : Value :=
  .ofFields
    [("approval_required", .bool false),
     ("operation_id", .string operationId),
     ("result", result),
     ("replayed", .bool false),
     ("decision", .string "allow"),
     ("reason", .string reason)]

def finalizeOperationCompletion (key : Option String) (operationId reason : String)
    (executed : Except IpcError Value) : JournalM ω Value := do
  validateCompletionMarker key operationId
  match executed with
  | .ok result => do
    let body := completionBody operationId reason result
    storeIdempotent env key body
    pure body
  | .error e => do
    let (code, message) := e.codeAndMessage
    -- a failure receipt that cannot be written is only logged
    let _ ← attempt (failIdempotent env key operationId code message)
    fail e

def restoreOpJournalEntry {ε : Type} (key : Option String) (previous : Option Value) :
    Program (Journal ω) ε Unit :=
  match key, previous with
  | none, _ => pure ()
  | some key, some previous =>
    Program.modify fun s => { s with entries := s.entries.insert key previous }
  | some key, none => Program.modify fun s => { s with entries := s.entries.erase key }

def approvedBody (operationId approvalId : String) (grant : Option Value) (result : Value) :
    Value :=
  let body := Value.ofFields
    [("approval_required", .bool false),
     ("operation_id", .string operationId),
     ("approval_id", .string approvalId),
     ("result", result),
     ("replayed", .bool false),
     ("decision", .string "allow"),
     ("reason", .string "human approved")]
  match grant with
  | some scope => body.insert "grant" scope
  | none => body

def finalizeApprovedCompletion (key : Option String) (operationId approvalId : String)
    (grant executingEntry : Option Value) (executed : Except IpcError Value) :
    JournalM ω Value := do
  validateCompletionMarker key operationId
  let result ← ofExcept executed
  let body := approvedBody operationId approvalId grant result
  match ← attempt (storeIdempotent env key body) with
  | .error e => do
    restoreOpJournalEntry key executingEntry
    fail e
  | .ok _ =>
    match ← ask env.persistApprovals with
    | some e => fail e
    | none => pure body

/-! ## Admission -/

/-- A policy decision with its reason and the rule it rests on. -/
inductive Decision where
  | allow
  | ask
  | deny
deriving DecidableEq, Repr

structure PolicyVerdict where
  decision : Decision
  reason : String
  matchedRuleId : Option String

/-- The answer of an admission: a reply, or a side effect to be run under a key. -/
inductive GateOutcome where
  | reply (body : Value)
  | run (key : Option String)

def approvalRequiredBody (operationId approvalId : String) (verdict : PolicyVerdict) : Value :=
  .ofFields
    [("approval_required", .bool true),
     ("operation_id", .string operationId),
     ("approval_id", .string approvalId),
     ("reason", .string verdict.reason),
     ("matched_rule_id", (verdict.matchedRuleId.map Value.string).getD .null),
     ("replayed", .bool false)]

/-- Refuse with the surroundings' error, if they have one. -/
def demand (question : ω → Option IpcError × ω) : JournalM ω Unit := do
  match ← ask question with
  | some e => fail e
  | none => pure ()

def withRollbackErrors (primary : IpcError) : List IpcError → IpcError
  | [] => primary
  | errors =>
    let details := "; ".intercalate (errors.map IpcError.display)
    match primary with
    | .remote code message =>
      .remote code s!"{message}; rollback persistence also failed: {details}"
    | .other message =>
      .remote AppError.internal s!"{message}; rollback persistence also failed: {details}"

/-- The errors of a list of attempted writes. -/
def failures (attempts : List (Except IpcError Unit)) : List IpcError :=
  attempts.filterMap fun
    | .error e => some e
    | .ok _ => none

/-- The admission of an approved request: the approval is committed as executing,
the key reserved, and a temporary grant stored if one was asked for.  Whatever
fails before the side effect starts is taken back. -/
def admitApproved (key : Option String) (operationId : String) (temporaryGrant : Bool) :
    JournalM ω GateOutcome := do
  let before ← reads fun s => key.bind fun k => s.entries.lookup k
  demand env.persistApprovals
  match ← attempt (beginIdempotent env key operationId) with
  | .error e => do
    let approvals ← attempt (demand env.persistApprovals)
    fail (withRollbackErrors e (failures [approvals]))
  | .ok _ =>
    if temporaryGrant then do
      match ← ask env.persistGrants with
      | none => pure (.run key)
      | some e => do
        restoreOpJournalEntry key before
        let journal ←
          if key.isSome then attempt (persistOpJournal env) else pure (.ok ())
        let approvals ← attempt (demand env.persistApprovals)
        fail (withRollbackErrors e (failures [journal, approvals]))
    else pure (.run key)

/-! ## Loading after a restart -/

/-- A reservation found at load belongs to a process that is gone. -/
def markOrphaned (now : Int) (value : Value) : Value :=
  if opJournalEntryState value = .inProgress ∧ value.get recoveryStateField = none then
    (value.insert recoveryStateField (.string recoverableOrphaned)).insert recoveredUnixField
      (.ofInt now)
  else value

/-- A completed entry without a stamp ages from the load on. -/
def stampCompleted (now : Int) (value : Value) : Value :=
  if opJournalEntryState value = .completed ∧ value.get completedUnixField = none then
    value.insert completedUnixField (.ofInt now)
  else value

/-- What a load makes of one entry of the file. -/
def boundEntry (now : Int) (value : Value) : Value :=
  stampCompleted now (markOrphaned now (durableEntry value))

def boundOpJournal (now : Int) (journal : Table String Value) :
    Except String (Table String Value) :=
  if journal.entries.length > maxOpJournalEntries then
    .error (s!"operation journal exceeds {maxOpJournalEntries} entry budget " ++
      s!"({journal.entries.length})")
  else
    let bounded := journal.mapValues fun _ value => boundEntry now value
    match env.encode bounded with
    | .error reason => .error s!"operation journal re-encode failed: {reason}"
    | .ok bytes =>
      if bytes > maxOpJournalFileBytes then
        .error s!"operation journal exceeds {maxOpJournalFileBytes} byte budget after compaction"
      else .ok bounded

def readAndBoundOpJournal (file : Table String Value) :
    Program (Journal ω) String (Table String Value) := do
  match ← ask env.readFile with
  | some reason => fail reason
  | none => do
    let now ← ask env.now
    ofExcept (boundOpJournal env now file)

def loadOpJournal : Program (Journal ω) String (Table String Value) := do
  match ← reads Journal.primary, ← reads Journal.backup with
  | none, none => pure ∅
  | none, some file => do
    let journal ← readAndBoundOpJournal env file
    writeOpJournal env
      (fun reason => s!"failed to persist recovered op journal {env.primaryPath}: {reason}")
      journal
    removeStaleBackup env fun reason =>
      s!"failed to remove recovered op journal backup {env.backupPath} after promoting the " ++
        s!"primary: {reason}; remove or repair the backup (it may hold a legacy large-body " ++
        "journal) and restart"
    pure journal
  | some file, _ => do
    let journal ← readAndBoundOpJournal env file
    removeStaleBackup env fun reason =>
      s!"failed to remove stale op journal backup {env.backupPath} before writing the compacted " ++
        s!"primary: {reason}; remove or repair the backup (it may hold a legacy large-body " ++
        "journal) and restart"
    writeOpJournal env
      (fun reason =>
        s!"failed to persist compacted operation journal {env.primaryPath}: {reason}; the " ++
          "journal remains over budget on disk — free space or repair the journal before starting")
      journal
    pure journal

/-- The journal of a new process: loaded, or empty and degraded when that failed. -/
def restart (s : Journal ω) : Journal ω :=
  match (loadOpJournal env).run s with
  | (.ok journal, s') => { s' with entries := journal, degraded := none }
  | (.error reason, s') => { s' with entries := ∅, degraded := some reason }

end Operations

end OwnMesh.OpJournal
