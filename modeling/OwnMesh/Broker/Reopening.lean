import OwnMesh.Broker.Replay

/-!
# Opening what was written

Opening applies strict checks to every entry of a ledger file.  A broker could lock itself
out with a file of its own, if one of its calls made an entry that the checks refuse, or
more entries than it accepts.  The calls do not: what is in memory is always acceptable
(`Acceptable`), and so is the file, so that opening it with the same bound gives exactly
its entries whenever the surroundings let the broker at it (`throughFiles`).

A file of the first version is migrated.  Each of its nonces was consumed, and stays so
through any run of the broker until its window is over.
-/

namespace OwnMesh.Broker

open Foundations Program List Table

variable {ω : Type} {env : Environment ω}

/-! ## What opening accepts -/

/-- Entries that opening accepts. -/
structure Acceptable (maxEntries : Nat) (entries : Entries) : Prop where
  count : entries.entries.length ≤ maxEntries
  valid : ∀ nonce entry, entries.lookup nonce = some entry → validateEntry nonce entry = .ok ()

variable {entries : Entries} {d d' : Disk ω}

theorem validateEntries_ok_iff {u : Unit} :
    (forEach (fun entry => (ofExcept (validateEntry entry.1 entry.2) :
        DiskM ω Unit)) entries.toList).run d = (.ok u, d') ↔
      (∀ nonce entry, entries.lookup nonce = some entry → validateEntry nonce entry = .ok ()) ∧
        d = d' := by
  refine forEach_ofExcept_ok_iff.trans (and_congr_left fun _ => ?_)
  refine ⟨fun all nonce entry found => ?_, fun all entry member => ?_⟩
  · exact all (nonce, entry) (mem_toList_iff.mpr found)
  · exact all entry.1 entry.2 (mem_toList_iff.mp member)

variable (env) in
/-- The file of the ledger is one that opening accepts. -/
def FileAcceptable (maxEntries : Nat) (d : Disk ω) : Prop :=
  ∃ file, d.file = some (.current file) ∧ Acceptable maxEntries file.entries ∧
    env.length (.current file) ≤ maxLedgerBytes

variable (env) in
/-- What the surroundings decide when a ledger that is there is opened. -/
def throughFiles {α : Type} (m : DiskM ω α) : DiskM ω α := do
  verifyLedgerParent env
  acquireLedgerLock env
  verifyLedgerFile env
  tryFile env.statFile fun reason => .corrupt s!"stat {env.path}: {reason}"
  tryFile env.readFile fun reason => .corrupt s!"read {env.path}: {reason}"
  m

variable {maxEntries : Nat}

/-- An acceptable file is opened, and its entries are those of the ledger, if the
surroundings let the broker at it. -/
theorem openLedger_of_acceptable {file : LedgerFile} (positive : maxEntries ≠ 0)
    (present : d.file = some (.current file)) (acceptable : Acceptable maxEntries file.entries)
    (small : env.length (.current file) ≤ maxLedgerBytes) : (openLedger env maxEntries).run d =
      (throughFiles env (pure ⟨maxEntries, file.entries, false⟩)).run d := by
  rw [openLedger, throughFiles, run_bind_of_ok (run_require_of_holds positive _ _)]
  refine run_bind_congr fun _ d₁ parent => run_bind_congr fun _ d₂ lock => ?_
  have kept : d₂.stored = d.stored :=
    (acquireLedgerLock_stored.of_eq lock).trans (verifyLedgerParent_stored.of_eq parent)
  rw [run_reads_bind, file_of_stored kept, present]
  refine run_bind_congr fun _ d₃ _ => run_bind_congr fun _ d₄ _ => ?_
  rw [run_bind_of_ok (run_require_of_holds small _ _)]
  refine run_bind_congr fun _ d₅ _ => ?_
  have decoded : decode maxEntries (.current file) = .ok (file.entries, false) :=
    if_neg (Nat.not_lt.mpr acceptable.count)
  rw [decoded, run_bind_of_ok (run_ofExcept _ _)]
  have checked := (validateEntries_ok_iff (d := d₅) (u := ())).mpr ⟨acceptable.valid, rfl⟩
  exact run_bind_of_ok checked

/-! ## What persisting writes -/

variable (env) in
/-- The file is as it was, or holds the entries and fits. -/
def Rewrites (entries : Entries) (d d' : Disk ω) : Prop :=
  d'.file = d.file ∨ d'.file = some (.current ⟨ledgerVersion, entries⟩) ∧
    env.length (.current ⟨ledgerVersion, entries⟩) ≤ maxLedgerBytes

instance (entries : Entries) : Std.Refl (Rewrites env entries) := ⟨fun _ => .inl rfl⟩

instance (entries : Entries) : IsTrans (Disk ω) (Rewrites env entries) :=
  ⟨fun _ _ _ first second => by
    rcases second with same | written
    · rw [Rewrites, same]
      exact first
    · exact .inr written⟩

theorem persistFile_rewrites (entries : Entries) :
    Moves (Rewrites env entries) (persistFile env ⟨ledgerVersion, entries⟩) :=
  persistFile_moves (fun _ _ same => .inl (file_of_stored same))
    (fun small => .modify fun _ => .inr ⟨rfl, small⟩) fun _ => .inl rfl

variable (env) in
theorem persist_rewrites (entries : Entries) :
    Moves (Rewrites env entries) (persist env entries) := by
  refine .bind (.attempt (persistFile_rewrites entries)) fun answer => ?_
  cases answer with
  | ok => exact .pure
  | error => exact .bind (.modify fun _ => .inl rfl) fun _ => .fail

/-- A persist that succeeds has written the entries, and they fit. -/
theorem persist_ok {u : Unit} (ran : (persist env entries).run d = (.ok u, d')) :
    d'.file = some (.current ⟨ledgerVersion, entries⟩) ∧
      env.length (.current ⟨ledgerVersion, entries⟩) ≤ maxLedgerBytes := by
  rw [persist, run_attempt_bind] at ran
  rcases wrote : (persistFile env { version := ledgerVersion, entries := entries }).run d with
    ⟨e | _, d₁⟩
  · rw [wrote] at ran
    cases ran
  · rw [wrote] at ran
    cases ran
    obtain ⟨contents, small⟩ := persistFile_ok wrote
    exact ⟨file_of_contents contents, small⟩

/-! ## Entries stay valid -/

variable {nonce : String} {entry : LedgerEntry}

theorem validateEntry_ok_iff : validateEntry nonce entry = .ok () ↔
      validateReservation nonce entry.digest entry.expiresAtUnix none = .ok () ∧
      entry.transitionSeq ≠ 0 ∧ entry.processPid.isSome = entry.processBirthId.isSome ∧
      entry.resultDigest.all isDigest = true ∧
      (entry.reconciliation.all fun record => validActor record.actor) = true := by
  unfold validateEntry
  cases validateReservation nonce entry.digest entry.expiresAtUnix none with
  | error => exact iff_of_false nofun nofun
  | ok =>
    refine Iff.trans runChecks_ok_iff ?_
    simp

section

variable {digest : String} {expiresAtUnix nowUnix : Int}
  (accepted : validateReservation nonce digest expiresAtUnix (some nowUnix) = .ok ())
include accepted

/-- A reservation that is accepted at some time is accepted without a clock. -/
theorem validateReservation_timeless :
    validateReservation nonce digest expiresAtUnix none = .ok () := by
  have checks := runChecks_ok_iff.mp accepted
  simp only [forall_mem_cons] at checks
  refine runChecks_ok_iff.mpr ?_
  simp only [forall_mem_cons]
  exact ⟨checks.1, checks.2.1, rfl, checks.2.2.2⟩

end

section

variable (valid : validateEntry nonce entry = .ok ())
include valid

theorem advance_valid (next : ReplayState) : validateEntry nonce (entry.advance next) = .ok () := by
  obtain ⟨reservation, -, rest⟩ := validateEntry_ok_iff.mp valid
  refine validateEntry_ok_iff.mpr ⟨reservation, ?_, rest⟩
  simp only [LedgerEntry.advance, maxTransitionSeq]
  omega

theorem spawned_valid (processIdentity : Option (Nat × Nat)) :
    validateEntry nonce (entry.spawned processIdentity) = .ok () := by
  have advanced := advance_valid valid .spawnedUncertain
  cases processIdentity with
  | none => exact advanced
  | some =>
    obtain ⟨reservation, sequence, -, rest⟩ := validateEntry_ok_iff.mp advanced
    exact validateEntry_ok_iff.mpr ⟨reservation, sequence, rfl, rest⟩

theorem reconciled_valid {actor : String} (known : validActor actor = true) (nowUnix : Int)
    (next : ReplayState) : validateEntry nonce (entry.reconciled actor nowUnix next) = .ok () := by
  obtain ⟨reservation, sequence, identity, digest, -⟩ :=
    validateEntry_ok_iff.mp (advance_valid valid next)
  exact validateEntry_ok_iff.mpr ⟨reservation, sequence, identity, digest, known⟩

end

/-! ## Calls -/

theorem Acceptable.unexpired (acceptable : Acceptable maxEntries entries) (nowUnix : Int) :
    Acceptable maxEntries (Broker.unexpired nowUnix entries) where
  count := Nat.le_trans (length_filter_le _ _) acceptable.count
  valid nonce entry found := by
    rw [Broker.unexpired, lookup_retain, Option.filter_eq_some_iff] at found
    exact acceptable.valid nonce entry found.1

theorem valid_of_insert (others : ∀ nonce entry, entries.lookup nonce = some entry →
      validateEntry nonce entry = .ok ()) (valid : validateEntry nonce entry = .ok ()) :
    ∀ other entry', (entries.insert nonce entry).lookup other = some entry' →
      validateEntry other entry' = .ok () := by
  intro other entry' found
  rcases lookup_insert_some found with ⟨rfl, rfl⟩ | older
  · exact valid
  · exact others other entry' older

variable (env) in
/-- The entries in memory are acceptable, and so is the file. -/
structure Tended (s : OpenLedger ω) : Prop where
  positive : s.ledger.maxEntries ≠ 0
  memory : Acceptable s.ledger.maxEntries s.ledger.entries
  file : FileAcceptable env s.ledger.maxEntries s.disk

/-- What a program leaves is tended. -/
def LeavesTended {α : Type} (env : Environment ω) (r : Except ReplayLedgerError α × OpenLedger ω) :
    Prop :=
  Tended env r.2

theorem persistOrClose_tended : Moves (Preserves (Tended env)) (persistOrClose env) := by
  intro s tended
  have rewrites := persist_rewrites env s.ledger.entries s.disk
  have written : FileAcceptable env s.ledger.maxEntries
      ((persist env s.ledger.entries).run s.disk).2 := by
    rcases rewrites with same | ⟨written, small⟩
    · rw [FileAcceptable, same]
      exact tended.file
    · exact ⟨_, written, tended.memory, small⟩
  rw [persistOrClose, run_reads_bind, run_attempt_bind, onDisk, run_zoom]
  cases ((persist env s.ledger.entries).run s.disk).1 with
  | error | ok => exact ⟨tended.positive, tended.memory, written⟩

/-- Acceptable entries may be put in and written. -/
theorem Tended.put {s : OpenLedger ω} (tended : Tended env s)
    (acceptable : Acceptable s.ledger.maxEntries entries) : Tended env ((persistOrClose env).run
      { s with ledger := { s.ledger with entries := entries } }).2 :=
  persistOrClose_tended _ ⟨tended.positive, acceptable, tended.file⟩

theorem pruneCompleted_tended (nowUnix : Int) :
    Moves (Preserves (Tended env)) (pruneCompleted env nowUnix) := by
  intro s tended
  have acceptable := tended.memory.unexpired nowUnix
  rw [pruneCompleted, run_reads_bind, setEntries, run_modify_bind, whenever]
  split
  · exact tended.put acceptable
  · exact ⟨tended.positive, acceptable, tended.file⟩

theorem reserve_tended (nonce digest : String) (expiresAtUnix nowUnix : Int) :
    Moves (Preserves (Tended env)) (reserve env nonce digest expiresAtUnix nowUnix) := by
  refine .bind (.bind .reads fun _ => .require) fun _ =>
    .bind_ok .ofExcept fun _ s _ checked => ?_
  obtain ⟨accepted, rfl⟩ := Prod.mk.inj checked
  refine Moves.bind (pruneCompleted_tended nowUnix) (fun _ t tended => ?_) s
  rw [run_reads_bind]
  cases found : t.ledger.entries.lookup nonce with
  | some => exact tended
  | none =>
    refine run_require_bind_cases (P := LeavesTended env) (fun _ => tended) fun room => ?_
    have valid : validateEntry nonce (freshEntry digest expiresAtUnix nowUnix) = .ok () :=
      validateEntry_ok_iff.mpr
        ⟨validateReservation_timeless accepted, Nat.one_ne_zero, rfl, rfl, rfl⟩
    have acceptable : Acceptable t.ledger.maxEntries
        (t.ledger.entries.insert nonce (freshEntry digest expiresAtUnix nowUnix)) := by
      refine ⟨?_, valid_of_insert tended.memory.valid valid⟩
      rw [length_insert_of_absent found]
      exact room
    rw [LeavesTended, setEntries, run_modify_bind, run_bind_pure]
    exact tended.put acceptable

theorem updateEntry_tended {change : LedgerEntry → Except ReplayLedgerError LedgerEntry}
    (keeps : ∀ entry changed, validateEntry nonce entry = .ok () → change entry = .ok changed →
      validateEntry nonce changed = .ok ()) :
    Moves (Preserves (Tended env)) (updateEntry env nonce change) := by
  intro s tended
  rw [updateEntry, run_reads_bind]
  cases found : s.ledger.entries.lookup nonce with
  | none => exact tended
  | some entry =>
    refine run_ofExcept_bind_cases (P := LeavesTended env) (fun _ _ => tended)
      fun changed changes => ?_
    have valid := keeps entry changed (tended.memory.valid nonce entry found) changes
    have acceptable : Acceptable s.ledger.maxEntries (s.ledger.entries.insert nonce changed) := by
      refine ⟨?_, valid_of_insert tended.memory.valid valid⟩
      rw [length_insert_of_present found]
      exact tended.memory.count
    rw [setEntries, run_modify_bind]
    exact tended.put acceptable

theorem perform_tended (call : LedgerCall) (nowUnix : Int) :
    Moves (Preserves (Tended env)) (call.perform env nowUnix) := by
  have available : Moves (Preserves (Tended env)) (ensureAvailable (ω := ω)) :=
    .bind .reads fun _ => .require
  cases call with
  | reserve nonce digest expiresAtUnix =>
    exact .bind (reserve_tended nonce digest expiresAtUnix nowUnix) fun _ => .pure
  | markSpawned nonce digest processIdentity =>
    refine .bind available fun _ => updateEntry_tended fun entry changed valid changes => ?_
    split at changes
    · cases changes
    · split at changes
      · cases changes
      · cases changes
        exact spawned_valid valid processIdentity
  | markCompleted =>
    refine .bind available fun _ => updateEntry_tended fun entry changed valid changes => ?_
    split at changes
    · cases changes
    · split at changes
      · cases changes
      · cases changes
        exact advance_valid valid .completed
  | reconcile nonce decision actor acknowledgeUncertain =>
    refine .bind available fun _ s => ?_
    refine run_require_bind_cases (P := fun r => Tended env s → Tended env r.2)
      (fun _ tended => tended) fun known => ?_
    refine updateEntry_tended (fun entry changed valid changes => ?_) s
    cases decided : reconcileNext decision entry.state acknowledgeUncertain with
    | error =>
      rw [decided] at changes
      cases changes
    | ok next =>
      rw [decided] at changes
      cases changes
      exact reconciled_valid valid known nowUnix next

/-! ## Opening -/

/-- A ledger that was opened is tended. -/
theorem openLedger_tended {ledger : ReplayLedger}
    (opened : (openLedger env maxEntries).run d = (.ok ledger, d')) : Tended env ⟨ledger, d'⟩ := by
  obtain ⟨_, d₀, checked, opened⟩ := bind_ok_iff.mp opened
  obtain ⟨positive, rfl⟩ := require_ok_iff.mp checked
  obtain ⟨_, d₁, -, opened⟩ := bind_ok_iff.mp opened
  obtain ⟨_, d₂, -, opened⟩ := bind_ok_iff.mp opened
  rw [run_reads_bind] at opened
  split at opened
  · obtain ⟨_, d₃, wrote, done⟩ := bind_ok_iff.mp opened
    cases done
    obtain ⟨file, small⟩ := persist_ok wrote
    have empty : Acceptable maxEntries ∅ :=
      ⟨Nat.zero_le _, fun _ _ found => by cases found⟩
    exact ⟨positive, empty, _, file, empty, small⟩
  next document present =>
    obtain ⟨_, d₃, verified, opened⟩ := bind_ok_iff.mp opened
    obtain ⟨_, d₄, statted, opened⟩ := bind_ok_iff.mp opened
    obtain ⟨_, d₅, sized, opened⟩ := bind_ok_iff.mp opened
    obtain ⟨small, rfl⟩ := require_ok_iff.mp sized
    obtain ⟨_, d₆, read, opened⟩ := bind_ok_iff.mp opened
    obtain ⟨⟨entries, migrated⟩, decoded, opened⟩ := ofExcept_bind_ok_iff.mp opened
    obtain ⟨_, d₇, validated, opened⟩ := bind_ok_iff.mp opened
    obtain ⟨valid, rfl⟩ := validateEntries_ok_iff.mp validated
    obtain ⟨_, d₈, wrote, done⟩ := bind_ok_iff.mp opened
    cases done
    obtain ⟨-, count, unmigrated⟩ := decode_reads decoded
    have acceptable : Acceptable maxEntries entries := ⟨count, valid⟩
    cases migrated with
    | true =>
      obtain ⟨file, fits⟩ := persist_ok wrote
      exact ⟨positive, acceptable, _, file, acceptable, fits⟩
    | false =>
      have kept : d₆.stored = d₂.stored :=
        ((tryFile_stored _ _).of_eq read).trans (((tryFile_stored _ _).of_eq statted).trans
          (verifyLedgerFile_stored.of_eq verified))
      cases wrote
      obtain ⟨file, rfl, rfl⟩ := unmigrated rfl
      exact ⟨positive, acceptable, file, (file_of_stored kept).trans present, acceptable, small⟩

/-! ## Runs -/

variable (env) in
/-- An open ledger is tended, failed or not. -/
def AllTended (b : BrokerState ω) : Prop :=
  ∀ ledger, b.ledger = some ledger → Tended env ⟨ledger, b.disk⟩

theorem allTended_step {a b : BrokerState ω} {event : LedgerEvent} (tended : AllTended env a)
    (step : LedgerStep env a event b) : AllTended env b := by
  intro ledger isOpen
  cases step with
  | @call before was call nowUnix later answer t ran =>
    cases isOpen
    have kept := (perform_tended call nowUnix).of_eq ran
    exact kept (tended before was)
  | @reopen maxEntries answer disk ran =>
    cases answer with
    | error => cases isOpen
    | ok opened =>
      cases isOpen
      obtain ⟨_, _, -, opened⟩ := bind_ok_iff.mp ran
      exact openLedger_tended opened

/-- What holds of the ledger at the end of a run, and of the reservations in it. -/
structure Reopens (env : Environment ω) (start : BrokerState ω) (events : List LedgerEvent)
    (last : BrokerState ω) : Prop where
  /-- What is in memory can be persisted and opened again. -/
  persisted : ∀ {ledger d d'}, last.ledger = some ledger →
    (persist env ledger.entries).run d = (.ok (), d') →
    (openLedger env ledger.maxEntries).run d' =
      (throughFiles env (pure ⟨ledger.maxEntries, ledger.entries, false⟩)).run d'
  /-- The file is one of this broker, and can be opened again; its entries are those of
  the ledger unless a write failed. -/
  written : ∀ {ledger}, last.ledger = some ledger → ∃ file, last.disk.file = some (.current file) ∧
      (openLedger env ledger.maxEntries).run last.disk =
        (throughFiles env (pure ⟨ledger.maxEntries, file.entries, false⟩)).run last.disk ∧
      (ledger.failedClosed = false → file.entries = ledger.entries)
  /-- A nonce of a file of the first version is reserved again only after its window. -/
  migrated : ∀ {file nonce entry before event after later nowUnix},
    start.disk.contents = [some (.legacy file)] → file.entries.lookup nonce = some entry →
    events = before ++ event :: after → event.Reserves nonce later nowUnix →
    entry.expiresAtUnix < nowUnix

/-- **Every file the broker writes can be opened again.**  In every run from a broker that
has not opened its ledger, whatever is on its disk and whatever fails, what is persisted
or was written is opened with the same bound to exactly the same entries, unless the
surroundings refuse the file to the broker; and no nonce of a file of the first version
is reserved before its window is over. -/
theorem ledger_reopens {start last : BrokerState ω} {events : List LedgerEvent}
    (notOpen : start.ledger = none) (run : Run (LedgerStep env) start events last) :
    Reopens env start events last := by
  have tended : AllTended env last := by
    refine Run.invariant (fun tended step => allTended_step tended step) ?_ run
    intro ledger isOpen
    rw [notOpen] at isOpen
    cases isOpen
  have sound : Sound last := sound_run notOpen run
  refine ⟨fun isOpen wrote => ?_, fun {ledger} isOpen => ?_, ?_⟩
  · obtain ⟨positive, memory, -⟩ := tended _ isOpen
    obtain ⟨written, small⟩ := persist_ok wrote
    have reopened := openLedger_of_acceptable positive written memory small
    exact reopened
  · obtain ⟨positive, -, file, present, acceptable, small⟩ := tended ledger isOpen
    have reopened := openLedger_of_acceptable positive present acceptable small
    refine ⟨file, present, reopened, fun available => ?_⟩
    obtain ⟨-, current, there, same⟩ := sound ledger isOpen available
    cases present.symm.trans there
    exact same
  · rintro file nonce entry before event after later nowUnix contents consumed rfl reserves
    obtain ⟨a, b, reached, step, -⟩ := run.split_at
    -- the only table an untouched file of the first version shows has all of its nonces
    have legacy : Recorded nonce entry.expiresAtUnix start := by
      rintro - table ⟨content, member, reads⟩
      rw [contents, mem_singleton] at member
      subst member
      cases reads
      refine ⟨migrateEntry entry, ?_, rfl⟩
      rw [lookup_mapValues, consumed]
      rfl
    have start : Sound start := fun ledger isOpen => by
      rw [notOpen] at isOpen
      cases isOpen
    have kept := Run.invariant (I := fun s => Sound s ∧ Recorded nonce entry.expiresAtUnix s)
      (fun holds taken => recorded_step holds taken) ⟨start, legacy⟩ reached
    exact late_of_reserves kept.1 kept.2 step reserves

def legacyEntry : LegacyLedgerEntry where
  digest := sampleDigest
  expiresAtUnix := 10
  state := .reserved

/-- A broker that finds a file of the first version with one nonce. -/
def legacyBroker : BrokerState Nat where
  clock := 0
  disk :=
    { file := some (.legacy ⟨1, (∅ : Table String LegacyLedgerEntry).insert "nonce" legacyEntry⟩)
      unsynced := []
      persistFailures := 0
      world := 0 }
  ledger := none

def migratedTable : Entries := (∅ : Entries).insert "nonce" (migrateEntry legacyEntry)

/-- It migrates the file and refuses the nonce. -/
theorem ledger_reopens_legacyBroker :
    ∃ last, Run (LedgerStep (faultyEnvironment fun _ => false)) legacyBroker
        [.reopened 4, .called (.reserve "nonce" sampleDigest 20) 5 (.error .replay) false] last ∧
      last.ledger = some ⟨4, migratedTable, false⟩ ∧
      Reopens (faultyEnvironment fun _ => false) legacyBroker
        [.reopened 4, .called (.reserve "nonce" sampleDigest 20) 5 (.error .replay) false]
        last := by
  have run : Run (LedgerStep (faultyEnvironment fun _ => false)) legacyBroker
      [.reopened 4, .called (.reserve "nonce" sampleDigest 20) 5 (.error .replay) false]
      (sampleBroker 5 1 0 [] false migratedTable) := by
    refine .next (.reopen 4 rfl) ?_
    exact .next (step_of_run (sampleBroker 5 1 0 [] false migratedTable)
      rfl rfl rfl (by decide) rfl rfl) (.done _)
  exact ⟨_, run, rfl, ledger_reopens rfl run⟩

end OwnMesh.Broker
