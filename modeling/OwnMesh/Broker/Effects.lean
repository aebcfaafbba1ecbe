import OwnMesh.Broker.Ledger

/-!
# What the ledger's calls leave

For the safety of the ledger only three things about a call matter: the tables it puts
in memory or on disk (`Made`), whether its write failed, and, when it succeeds, that
the table it performed is the only one the disk can show afterwards.  `Disk.Shows` is
every table a broker may find when it opens the ledger, whatever the crash; opening
shows nothing new, and a call adds only tables it made (`perform_ends`).
-/

namespace OwnMesh.Broker

open Foundations List Disk

variable {ω : Type} {env : Environment ω}

/-! ## What the disk may show -/

/-- The entries of a file, if it is a ledger; no file is an empty ledger. -/
def readTable : Option Document → Option Entries
  | none => some ∅
  | some (.legacy file) => some (file.entries.mapValues fun _ => migrateEntry)
  | some (.current file) => some file.entries
  | some (.noVersion) | some (.forward _) | some (.malformed _) => none

/-- The file and the contents a loss of power may bring back. -/
def Disk.contents (d : Disk ω) : List (Option Document) := d.file :: d.unsynced

/-- A broker that opens the ledger may find the table. -/
def Disk.Shows (d : Disk ω) (table : Entries) : Prop :=
  ∃ content ∈ d.contents, readTable content = some table

/-- Every table a broker may find has the property. -/
def Disk.Durably (d : Disk ω) (P : Entries → Prop) : Prop := ∀ table, d.Shows table → P table

variable {d : Disk ω}

theorem shows_file {table : Entries} (reads : readTable d.file = some table) : d.Shows table :=
  ⟨d.file, mem_cons_self, reads⟩

/-- What the disk shows afterwards it showed before, or `Q` holds of it. -/
def ShowsOnly (Q : Entries → Prop) (d d' : Disk ω) : Prop :=
  ∀ table, d'.Shows table → Q table ∨ d.Shows table

theorem ShowsOnly.mono {P Q : Entries → Prop} {d' : Disk ω} (shown : ShowsOnly P d d')
    (imp : ∀ table, P table → Q table) : ShowsOnly Q d d' :=
  fun table now => (shown table now).imp_left (imp table)

instance (Q : Entries → Prop) : Std.Refl (ShowsOnly (ω := ω) Q) := ⟨fun _ _ => .inr⟩

instance (Q : Entries → Prop) : IsTrans (Disk ω) (ShowsOnly Q) :=
  ⟨fun _ _ _ first second table shown => (second table shown).elim .inl (first table)⟩

/-- All of the disk but the surroundings. -/
def Disk.stored (d : Disk ω) : Option Document × List (Option Document) × Nat :=
  (d.file, d.unsynced, d.persistFailures)

variable {d' : Disk ω}

section

variable (same : d'.stored = d.stored)
include same

theorem contents_of_stored : d'.contents = d.contents := by
  simp only [stored, Prod.mk.injEq] at same
  rw [contents, contents, same.1, same.2.1]

theorem failures_of_stored : d'.persistFailures = d.persistFailures := by
  simp only [stored, Prod.mk.injEq] at same
  exact same.2.2

theorem file_of_stored : d'.file = d.file := by
  simp only [stored, Prod.mk.injEq] at same
  exact same.1

theorem shows_of_stored (table : Entries) : d'.Shows table ↔ d.Shows table := by
  rw [Shows, Shows, contents_of_stored same]

end

/-! ## File operations that change nothing -/

open Program

theorem ask_stored {α : Type} (question : ω → α × ω) : Moves (Keeps stored) (ask question) :=
  .query fun _ => rfl

theorem tryFile_stored (operation : ω → Option String × ω) (failure : String → ReplayLedgerError) :
    Moves (Keeps stored) (tryFile operation failure) := by
  refine .bind (ask_stored operation) fun answer => ?_
  cases answer with
  | none => exact .pure
  | some => exact .fail

theorem inspect_stored (path label : String) (accepts : FileMetadata → Bool) (refusal : String) :
    Moves (Keeps stored) (inspect env path label accepts refusal) := by
  refine .bind (ask_stored _) fun answer => ?_
  cases answer with
  | error => exact .fail
  | ok => exact .require

theorem verifyLedgerFile_stored : Moves (Keeps stored) (verifyLedgerFile env) :=
  inspect_stored _ _ _ _

theorem verifyLedgerParent_stored : Moves (Keeps stored) (verifyLedgerParent env) := by
  rw [verifyLedgerParent]
  cases env.parent with
  | none => exact .fail
  | some =>
    exact .bind (ask_stored _) fun _ => .bind .require fun _ =>
      inspect_stored _ _ _ _

theorem acquireLedgerLock_stored : Moves (Keeps stored) (acquireLedgerLock env) := by
  rw [acquireLedgerLock]
  cases env.parent with
  | none => exact .fail
  | some =>
    exact .bind (ask_stored _) fun _ =>
      .bind (.whenever fun _ => inspect_stored _ _ _ _) fun _ =>
        .bind (tryFile_stored _ _) fun _ => tryFile_stored _ _

/-! ## Writing -/

/-- A write leaves the failures as they were and shows nothing but what it wrote. -/
def Writing (entries : Entries) (d d' : Disk ω) : Prop :=
  d'.persistFailures = d.persistFailures ∧ ShowsOnly (· = entries) d d'

instance (entries : Entries) : Std.Refl (Writing (ω := ω) entries) :=
  ⟨fun d => ⟨rfl, refl_of (ShowsOnly (· = entries)) d⟩⟩

instance (entries : Entries) : IsTrans (Disk ω) (Writing entries) :=
  ⟨fun _ _ _ first second =>
    ⟨second.1.trans first.1, trans_of (ShowsOnly (· = entries)) first.2 second.2⟩⟩

variable {file : LedgerFile}

/-- A write that succeeds leaves only what it wrote. -/
theorem writeLedger_ok {parent : String} {u : Unit}
    (ran : (writeLedger env parent file).run d = (.ok u, d')) :
    d'.contents = [some (.current file)] := by
  obtain ⟨temp, d₁, -, ran⟩ := bind_ok_iff.mp ran
  obtain ⟨_, d₂, -, ran⟩ := bind_ok_iff.mp ran
  obtain ⟨_, d₃, -, ran⟩ := bind_ok_iff.mp ran
  obtain ⟨_, d₄, -, ran⟩ := bind_ok_iff.mp ran
  obtain ⟨_, d₅, -, ran⟩ := bind_ok_iff.mp ran
  obtain ⟨_, d₆, replaced, ran⟩ := bind_ok_iff.mp ran
  obtain ⟨_, d₇, directory, ran⟩ := bind_ok_iff.mp ran
  obtain ⟨_, d₈, synced, ran⟩ := bind_ok_iff.mp ran
  cases replaced
  cases synced
  have kept := contents_of_stored ((tryFile_stored _ _).of_eq directory)
  rw [contents_of_stored (verifyLedgerFile_stored.of_eq ran)]
  have first : d₇.file = some (.current file) := head_eq_of_cons_eq kept
  rw [contents, first]

/-- Writing the file may replace it, if it is small enough, and syncs; the rest changes nothing
that is stored. -/
theorem persistFile_moves {R : Disk ω → Disk ω → Prop} [Std.Refl R] [IsTrans (Disk ω) R]
    (still : ∀ d d' : Disk ω, d'.stored = d.stored → R d d')
    (replaces : env.length (.current file) ≤ maxLedgerBytes →
      Moves R (replaceFile (ω := ω) (.current file)))
    (syncs : ∀ d : Disk ω, R d { d with unsynced := [] }) : Moves R (persistFile env file) := by
  have tries : ∀ operation failure, Moves R (tryFile (ω := ω) operation failure) :=
    fun operation failure => (tryFile_stored operation failure).mono still
  rw [persistFile]
  cases env.serializeError file with
  | some => exact .fail
  | none =>
    refine .bind_ok .require fun _ _ _ checked => ?_
    obtain ⟨small, rfl⟩ := require_ok_iff.mp checked
    cases env.parent with
    | none => exact Moves.fail _
    | some =>
      exact Moves.bind ((ask_stored _).mono still) (fun _ => .bind (tries _ _) fun _ =>
        .bind (tries _ _) fun _ => .bind (tries _ _) fun _ => .bind (tries _ _) fun _ =>
          .bind (replaces small) fun _ => .bind (tries _ _) fun _ =>
            .bind (.modify syncs) fun _ => verifyLedgerFile_stored.mono still) _

variable (env) in
theorem persistFile_writing (file : LedgerFile) :
    Moves (Writing file.entries) (persistFile env file) := by
  refine persistFile_moves (fun d d' same => ⟨failures_of_stored same, fun table shown =>
    .inr ((shows_of_stored same table).mp shown)⟩) (fun _ => .modify fun d => ⟨rfl, ?_⟩)
    fun d => ⟨rfl, ?_⟩
  · rintro table ⟨content, member, reads⟩
    rcases mem_cons.mp member with rfl | older
    · exact .inl (Option.some.inj reads).symm
    · exact .inr ⟨content, older, reads⟩
  · rintro table ⟨content, member, reads⟩
    rw [contents, mem_singleton] at member
    exact .inr ⟨content, member ▸ mem_cons_self, reads⟩

theorem persistFile_ok {u : Unit} (ran : (persistFile env file).run d = (.ok u, d')) :
    d'.contents = [some (.current file)] ∧ env.length (.current file) ≤ maxLedgerBytes := by
  rw [persistFile] at ran
  split at ran
  · cases ran
  · obtain ⟨_, d₁, checked, ran⟩ := bind_ok_iff.mp ran
    refine ⟨?_, (require_ok_iff.mp checked).1⟩
    split at ran
    · cases ran
    · exact writeLedger_ok ran

/-- The ends of a persist: it succeeds and the disk shows the entries only, or it fails,
which is counted. -/
inductive Persisted (entries : Entries) (d : Disk ω) : Except ReplayLedgerError Unit × Disk ω → Prop
  | done {d' : Disk ω} (contents : d'.contents = [some (.current ⟨ledgerVersion, entries⟩)])
      (failures : d'.persistFailures = d.persistFailures) : Persisted entries d (.ok (), d')
  | failed {e : ReplayLedgerError} {d' : Disk ω} (shown : ShowsOnly (· = entries) d d')
      (failures : d'.persistFailures = d.persistFailures + 1) : Persisted entries d (.error e, d')

variable (env) in
theorem persist_ends (entries : Entries) (d : Disk ω) :
    Persisted entries d ((persist env entries).run d) := by
  rw [persist, run_attempt_bind]
  have writing := persistFile_writing env ⟨ledgerVersion, entries⟩ d
  rcases ran : (persistFile env ⟨ledgerVersion, entries⟩).run d with ⟨e | u, d'⟩
  · rw [ran] at writing
    refine .failed writing.2 ?_
    exact congrArg (· + 1) writing.1
  · rw [ran] at writing
    exact .done (persistFile_ok ran).1 writing.1

theorem shows_of_contents (contents : d.contents = [some (.current file)]) {table : Entries}
    (shown : d.Shows table) : table = file.entries := by
  obtain ⟨content, member, reads⟩ := shown
  rw [contents, mem_singleton] at member
  subst member
  exact (Option.some.inj reads).symm

theorem file_of_contents
    (contents : d.contents = [some (.current file)]) : d.file = some (.current file) :=
  head_eq_of_cons_eq contents

variable {entries : Entries}

/-- Writing entries that the disk showed shows nothing new. -/
theorem Persisted.shows_old {r : Except ReplayLedgerError Unit × Disk ω}
    (ends : Persisted entries d r) (known : d.Shows entries) :
    ShowsOnly (fun _ => False) d r.2 := by
  intro table shown
  cases ends with
  | done contents =>
    obtain rfl := shows_of_contents contents shown
    exact .inr known
  | failed shows_ =>
    rcases shows_ table shown with rfl | before
    · exact .inr known
    · exact .inr before

/-! ## Opening -/

/-- The open ledger may be used, and its entries are those of the file. -/
def Ready (ledger : ReplayLedger) (d : Disk ω) : Prop :=
  ledger.failedClosed = false ∧ ∃ file, d.file = some (.current file) ∧
    file.entries = ledger.entries

theorem Ready.shows_ {ledger : ReplayLedger} (ready : Ready ledger d) : d.Shows ledger.entries := by
  obtain ⟨-, file, present, same⟩ := ready
  exact shows_file (by rw [present, ← same]; rfl)

variable (env) in
theorem surviving_shows : Moves (ShowsOnly fun _ => False) (surviving env) := by
  intro d table shown
  rw [surviving] at shown
  rw [ask, run_query_bind] at shown
  cases kept : (env.survivor d.world).1 with rw [kept] at shown
  | zero =>
    exact .inr shown
  | succ index =>
    obtain ⟨content, member, reads⟩ := shown
    have first : content = (d.unsynced[index]?).getD d.file := mem_singleton.mp member
    refine .inr ⟨content, ?_, reads⟩
    rcases found : d.unsynced[index]? with _ | older <;> rw [found] at first
    · exact first ▸ mem_cons_self
    · exact first ▸ mem_cons_of_mem _ (mem_of_getElem? found)

theorem decode_reads {maxEntries : Nat} {document : Document} {migrated : Bool}
    (decoded : decode maxEntries document = .ok (entries, migrated)) :
    readTable (some document) = some entries ∧ entries.entries.length ≤ maxEntries ∧
      (migrated = false → ∃ file, document = .current file ∧ file.entries = entries) := by
  cases document with
  | noVersion | forward | malformed => cases decoded
  | legacy =>
    rw [decode] at decoded
    split at decoded
    · cases decoded
    · cases decoded
      refine ⟨rfl, ?_, nofun⟩
      rw [Table.length_mapValues]
      omega
  | current file =>
    rw [decode] at decoded
    split at decoded
    · cases decoded
    · cases decoded
      exact ⟨rfl, by omega, fun _ => ⟨file, rfl, rfl⟩⟩

/-- What opening leaves: nothing new is shown, and a ledger that was opened is ready. -/
def Opened (d : Disk ω) (result : Except ReplayLedgerError ReplayLedger × Disk ω) : Prop :=
  ShowsOnly (fun _ => False) d result.2 ∧ ∀ ledger, result.1 = .ok ledger → Ready ledger result.2

theorem opened_refused (e : ReplayLedgerError) (same : d'.stored = d.stored) :
    Opened d (.error e, d') :=
  ⟨fun table shown => .inr ((shows_of_stored same table).mp shown),
    nofun⟩

/-- A ledger whose entries were shown is written and used. -/
theorem opened_persist (maxEntries : Nat) (same : d'.stored = d.stored) (known : d.Shows entries) :
    Opened d ((persist env entries >>= fun _ =>
      (pure ⟨maxEntries, entries, false⟩ : DiskM ω ReplayLedger)).run d') := by
  have ends := persist_ends env entries d'
  have shown : ShowsOnly (fun _ => False) d ((persist env entries).run d').2 := by
    intro table now
    have old := ends.shows_old ((shows_of_stored same entries).mpr known) table now
    exact old.imp_right (shows_of_stored same table).mp
  refine run_bind_cases (fun e t ran => ?_) fun _ t ran => ?_ <;> rw [ran] at ends shown
  · exact ⟨shown, nofun⟩
  · refine ⟨shown, ?_⟩
    rintro ledger opened
    cases opened
    cases ends with
    | done contents => exact ⟨rfl, _, file_of_contents contents, rfl⟩

/-- A step that leaves the disk as it is. -/
theorem opened_bind {α : Type} {m : DiskM ω α} {next : α → DiskM ω ReplayLedger}
    (same : d'.stored = d.stored) (keeps : Moves (Keeps stored) m)
    (rest : ∀ a t, t.stored = d.stored → Opened d ((next a).run t)) :
    Opened d ((m >>= next).run d') :=
  run_bind_cases (fun e _ ran => opened_refused e ((keeps.of_eq ran).trans same))
    fun a t ran => rest a t ((keeps.of_eq ran).trans same)

variable (env) in
theorem openLedger_opened (maxEntries : Nat) (d : Disk ω) :
    Opened d ((openLedger env maxEntries).run d) := by
  refine opened_bind rfl .require fun _ d₀ kept₀ => ?_
  refine opened_bind kept₀ verifyLedgerParent_stored fun _ d₁ kept₁ => ?_
  refine opened_bind kept₁ acquireLedgerLock_stored fun _ d₂ kept₂ => ?_
  rw [run_reads_bind]
  cases present : d₂.file with
  | none =>
    refine opened_persist maxEntries kept₂ (shows_file ?_)
    rw [← file_of_stored kept₂, present]
    rfl
  | some document =>
    refine opened_bind kept₂ verifyLedgerFile_stored fun _ d₃ kept₃ => ?_
    refine opened_bind kept₃ (tryFile_stored _ _) fun _ d₄ kept₄ => ?_
    refine opened_bind kept₄ .require fun _ d₅ kept₅ => ?_
    refine opened_bind kept₅ (tryFile_stored _ _) fun _ d₆ kept₆ => ?_
    rcases decoded : decode maxEntries document with e | ⟨entries, migrated⟩
    · exact opened_refused e kept₆
    · obtain ⟨reads, -, unmigrated⟩ := decode_reads decoded
      have known : d.Shows entries :=
        shows_file (by rw [← file_of_stored kept₂, present, reads])
      rw [run_bind_of_ok (run_ofExcept _ _)]
      refine opened_bind kept₆ (by exact .forEach (fun _ => .ofExcept) _) fun _ d₇ kept₇ => ?_
      cases migrated with
      | true => exact opened_persist maxEntries kept₇ known
      | false =>
        obtain ⟨file, rfl, same⟩ := unmigrated rfl
        refine ⟨fun table shown => .inr ((shows_of_stored kept₇ table).mp shown), ?_⟩
        rintro ledger opened
        cases opened
        refine ⟨rfl, file, ?_, same⟩
        show d₇.file = _
        rw [file_of_stored kept₇, ← file_of_stored kept₂, present]

variable (env) in
/-- A crash and a reopening show nothing new, and the ledger they leave is ready. -/
theorem reopen_opened (maxEntries : Nat) (d : Disk ω) :
    Opened d ((surviving env >>= fun _ => openLedger env maxEntries).run d) := by
  have left := surviving_shows env d
  have answered : (surviving env).run d = (.ok (), ((surviving env).run d).2) := by
    rw [surviving, ask, run_query_bind]
    cases (env.survivor d.world).1 <;> rfl
  rw [run_bind_of_ok answered]
  obtain ⟨shown, ready⟩ := openLedger_opened env maxEntries ((surviving env).run d).2
  exact ⟨trans_of (ShowsOnly fun _ => False) left shown, ready⟩

/-! ## Calls -/

/-- What a successful call makes of the entries. -/
inductive Performed (nowUnix : Int) (entries : Entries) : LedgerCall → Entries → Prop
  | reserved {nonce digest : String} {expiresAtUnix : Int}
      (free : (unexpired nowUnix entries).lookup nonce = none) :
      Performed nowUnix entries (.reserve nonce digest expiresAtUnix)
        ((unexpired nowUnix entries).insert nonce (freshEntry digest expiresAtUnix nowUnix))
  | spawned {nonce digest : String} {processIdentity : Option (Nat × Nat)} {entry : LedgerEntry}
      (found : entries.lookup nonce = some entry) (state : entry.state = .reservedPreSpawn) :
      Performed nowUnix entries (.markSpawned nonce digest processIdentity)
        (entries.insert nonce (entry.spawned processIdentity))
  | completed {nonce digest : String} {entry : LedgerEntry}
      (found : entries.lookup nonce = some entry) (state : entry.state = .spawnedUncertain) :
      Performed nowUnix entries (.markCompleted nonce digest)
        (entries.insert nonce (entry.advance .completed))
  | reconciled {nonce : String} {decision : ReconcileDecision} {actor : String}
      {acknowledgeUncertain : Bool} {entry : LedgerEntry} {next : ReplayState}
      (found : entries.lookup nonce = some entry)
      (decided : reconcileNext decision entry.state acknowledgeUncertain = .ok next) :
      Performed nowUnix entries (.reconcile nonce decision actor acknowledgeUncertain)
        (entries.insert nonce (entry.reconciled actor nowUnix next))

/-- The tables a call puts in memory or on disk: the one it found, the one without the
expired entries, and the one it performs. -/
inductive Made (nowUnix : Int) (entries : Entries) (call : LedgerCall) : Entries → Prop
  | found : Made nowUnix entries call entries
  | pruned : Made nowUnix entries call (unexpired nowUnix entries)
  | performed {table : Entries} (done : Performed nowUnix entries call table) :
      Made nowUnix entries call table

/-- The tables of a call that makes no change of its own. -/
def Pruned (nowUnix : Int) (entries table : Entries) : Prop :=
  table = entries ∨ table = unexpired nowUnix entries

theorem Pruned.made {nowUnix : Int} {call : LedgerCall} {table : Entries}
    (pruned : Pruned nowUnix entries table) : Made nowUnix entries call table := by
  rcases pruned with rfl | rfl
  · exact .found
  · exact .pruned

/-- The ends of a call on a ready ledger. -/
inductive Ended {α : Type} (nowUnix : Int) (call : LedgerCall) (s : OpenLedger ω) :
    Except ReplayLedgerError α × OpenLedger ω → Prop
  | performed {a : α} {t : OpenLedger ω}
      (done : Performed nowUnix s.ledger.entries call t.ledger.entries)
      (available : t.ledger.failedClosed = false)
      (contents : t.disk.contents = [some (.current ⟨ledgerVersion, t.ledger.entries⟩)])
      (failures : t.disk.persistFailures = s.disk.persistFailures) :
      Ended nowUnix call s (.ok a, t)
  | refused {e : ReplayLedgerError} {t : OpenLedger ω} (ready : Ready t.ledger t.disk)
      (pruned : Pruned nowUnix s.ledger.entries t.ledger.entries)
      (shown : ShowsOnly (Pruned nowUnix s.ledger.entries) s.disk t.disk)
      (failures : t.disk.persistFailures = s.disk.persistFailures) :
      Ended nowUnix call s (.error e, t)
  | closed {e : ReplayLedgerError} {t : OpenLedger ω} (failed : t.ledger.failedClosed = true)
      (made : Made nowUnix s.ledger.entries call t.ledger.entries)
      (shown : ShowsOnly (Made nowUnix s.ledger.entries call) s.disk t.disk)
      (failures : s.disk.persistFailures < t.disk.persistFailures) :
      Ended nowUnix call s (.error e, t)

variable {s : OpenLedger ω}

/-- Writing the entries succeeds and the disk shows them only, or it closes the ledger. -/
theorem persistOrClose_cases (env : Environment ω) (s : OpenLedger ω) :
    (∃ e d, (persistOrClose env).run s = (.error e, ⟨{ s.ledger with failedClosed := true }, d⟩) ∧
        ShowsOnly (· = s.ledger.entries) s.disk d ∧ s.disk.persistFailures < d.persistFailures) ∨
      ∃ d, (persistOrClose env).run s = (.ok (), ⟨s.ledger, d⟩) ∧
        d.contents = [some (.current ⟨ledgerVersion, s.ledger.entries⟩)] ∧
        d.persistFailures = s.disk.persistFailures := by
  rw [persistOrClose, run_reads_bind, run_attempt_bind, onDisk, run_zoom]
  have ends := persist_ends env s.ledger.entries s.disk
  rcases wrote : (persist env s.ledger.entries).run s.disk with ⟨e | _, d⟩ <;> rw [wrote] at ends
  · cases ends with
    | failed shown failures => exact .inl ⟨e, d, rfl, shown, by omega⟩
  · cases ends with
    | done contents failures => exact .inr ⟨d, rfl, contents, failures⟩

/-- A closed ledger refuses every call. -/
theorem perform_failedClosed (call : LedgerCall) (nowUnix : Int)
    (closed : s.ledger.failedClosed = true) :
    (call.perform env nowUnix).run s = (.error .failedClosed, s) := by
  have refused : (ensureAvailable (ω := ω)).run s = (.error .failedClosed, s) := by
    rw [ensureAvailable, run_reads_bind, closed]
    exact run_require_of_not nofun _ _
  cases call with
  | reserve =>
    exact run_bind_of_error (run_bind_of_error refused)
  | markSpawned | markCompleted | reconcile => exact run_bind_of_error refused

theorem ensureAvailable_ready (available : s.ledger.failedClosed = false) :
    (ensureAvailable (ω := ω)).run s = (.ok (), s) := by
  rw [ensureAvailable, run_reads_bind, available]
  exact run_require_of_holds rfl _ _

/-! ### Entries that are replaced -/

/-- A call that changes one entry performs the change, or ends without it. -/
theorem updateEntry_ends {nowUnix : Int} {call : LedgerCall} {nonce : String}
    {change : LedgerEntry → Except ReplayLedgerError LedgerEntry} (ready : Ready s.ledger s.disk)
    (performs : ∀ entry changed, s.ledger.entries.lookup nonce = some entry →
      change entry = .ok changed →
      Performed nowUnix s.ledger.entries call (s.ledger.entries.insert nonce changed)) :
    Ended nowUnix call s ((updateEntry env nonce change).run s) := by
  have refusal : ∀ e, Ended (α := Unit) nowUnix call s (.error e, s) :=
    fun e => .refused ready (.inl rfl) (refl_of (ShowsOnly _) _) rfl
  rw [updateEntry, run_reads_bind]
  cases found : s.ledger.entries.lookup nonce with
  | none => exact refusal _
  | some entry =>
    dsimp only
    rcases changes : change entry with e | changed
    · exact refusal e
    · have done := performs entry changed found changes
      rw [run_bind_of_ok (run_ofExcept _ _), setEntries, run_modify_bind]
      rcases persistOrClose_cases env
        { s with ledger := { s.ledger with entries := s.ledger.entries.insert nonce changed } }
        with ⟨e, d, ran, shown, failures⟩ | ⟨d, ran, contents, failures⟩
      · rw [ran]
        refine .closed rfl (.performed done) (shown.mono ?_) failures
        rintro _ rfl
        exact .performed done
      · rw [ran]
        exact .performed done ready.1 contents failures

theorem markSpawned_ends (nowUnix : Int) (nonce digest : String)
    (processIdentity : Option (Nat × Nat)) (ready : Ready s.ledger s.disk) :
    Ended nowUnix (.markSpawned nonce digest processIdentity) s
      ((markSpawned env nonce digest processIdentity).run s) := by
  rw [markSpawned, run_bind_of_ok (ensureAvailable_ready ready.1)]
  refine updateEntry_ends ready fun entry changed found changes => ?_
  split at changes
  · cases changes
  · split at changes
    · cases changes
    · next state =>
        cases changes
        exact .spawned found (not_ne_iff.mp state)

theorem markCompleted_ends (nowUnix : Int) (nonce digest : String) (ready : Ready s.ledger s.disk) :
    Ended nowUnix (.markCompleted nonce digest) s ((markCompleted env nonce digest).run s) := by
  rw [markCompleted, run_bind_of_ok (ensureAvailable_ready ready.1)]
  refine updateEntry_ends ready fun entry changed found changes => ?_
  split at changes
  · cases changes
  · split at changes
    · cases changes
    · next state =>
        cases changes
        exact .completed found (not_ne_iff.mp state)

theorem reconcile_ends (nowUnix : Int) (nonce : String) (decision : ReconcileDecision)
    (actor : String) (acknowledgeUncertain : Bool) (ready : Ready s.ledger s.disk) :
    Ended nowUnix (.reconcile nonce decision actor acknowledgeUncertain) s
      ((reconcile env nonce decision actor nowUnix acknowledgeUncertain).run s) := by
  rw [reconcile, run_bind_of_ok (ensureAvailable_ready ready.1)]
  refine run_require_bind_cases
    (fun _ => .refused ready (.inl rfl) (refl_of (ShowsOnly _) _) rfl) fun _ => ?_
  refine updateEntry_ends ready fun entry changed found changes => ?_
  rcases decided : reconcileNext decision entry.state acknowledgeUncertain with e | next
  · rw [decided] at changes
    cases changes
  · rw [decided] at changes
    cases changes
    exact .reconciled found decided

/-! ### Reservations -/

variable (env) in
/-- What pruning leaves, or the end of the call when its write failed. -/
theorem pruneCompleted_ends (α : Type) (nowUnix : Int) (call : LedgerCall)
    (ready : Ready s.ledger s.disk) : (∃ e t, (pruneCompleted env nowUnix).run s = (.error e, t) ∧
      Ended (α := α) nowUnix call s (.error e, t)) ∨
    ∃ t, (pruneCompleted env nowUnix).run s = (.ok (), t) ∧ Ready t.ledger t.disk ∧
      t.ledger.entries = unexpired nowUnix s.ledger.entries ∧
      ShowsOnly (Pruned nowUnix s.ledger.entries) s.disk t.disk ∧
      t.disk.persistFailures = s.disk.persistFailures := by
  rw [pruneCompleted, run_reads_bind, setEntries, whenever]
  by_cases gone : (unexpired nowUnix s.ledger.entries).entries.length ≠
    s.ledger.entries.entries.length
  · rw [if_pos gone]
    rcases persistOrClose_cases env
      { s with ledger := { s.ledger with entries := unexpired nowUnix s.ledger.entries } }
      with ⟨e, d, ran, shown, failures⟩ | ⟨d, ran, contents, failures⟩
    · refine .inl ⟨e, _, ran, .closed rfl .pruned (shown.mono ?_) failures⟩
      rintro _ rfl
      exact .pruned
    · refine .inr ⟨_, ran, ⟨ready.1, _, file_of_contents contents, rfl⟩, rfl, ?_, failures⟩
      intro table now
      obtain rfl := shows_of_contents contents now
      exact .inl (.inr rfl)
  · rw [if_neg gone]
    -- nothing went, so the entries are those of the file still
    have same : unexpired nowUnix s.ledger.entries = s.ledger.entries :=
      Table.retain_eq_self _ _ (by rw [unexpired] at gone; omega)
    refine .inr ⟨_, rfl, ?_, rfl, refl_of (ShowsOnly _) _, rfl⟩
    rw [same]
    exact ready

/-- Where the nonce is free and there is room, the reservation is put in and written. -/
theorem insertReservation_ends {nowUnix : Int} {nonce digest : String} {expiresAtUnix : Int}
    {t : OpenLedger ω} (ready : Ready t.ledger t.disk)
    (entries : t.ledger.entries = unexpired nowUnix s.ledger.entries)
    (shown : ShowsOnly (Pruned nowUnix s.ledger.entries) s.disk t.disk)
    (failures : t.disk.persistFailures = s.disk.persistFailures)
    (free : (unexpired nowUnix s.ledger.entries).lookup nonce = none) :
    Ended nowUnix (.reserve nonce digest expiresAtUnix) s
      ((setEntries (t.ledger.entries.insert nonce (freshEntry digest expiresAtUnix nowUnix)) >>=
        fun _ => persistOrClose env >>= fun _ => pure ReplayReservation.reserved).run t) := by
  have done : Performed nowUnix s.ledger.entries (.reserve nonce digest expiresAtUnix)
      (t.ledger.entries.insert nonce (freshEntry digest expiresAtUnix nowUnix)) := by
    rw [entries]
    exact .reserved free
  rw [setEntries, run_modify_bind]
  rcases persistOrClose_cases env { t with ledger := { t.ledger with
      entries := t.ledger.entries.insert nonce (freshEntry digest expiresAtUnix nowUnix) } }
    with ⟨e, d, ran, wrote, failed⟩ | ⟨d, ran, contents, same⟩
  · rw [run_bind_of_error ran]
    refine .closed rfl (.performed done)
      (trans_of (ShowsOnly _) (shown.mono fun _ => Pruned.made) (wrote.mono ?_)) (failures ▸ failed)
    rintro _ rfl
    exact .performed done
  · rw [run_bind_of_ok ran]
    exact .performed done ready.1 contents (same.trans failures)

variable (env) in
theorem reserve_ends (nowUnix : Int) (nonce digest : String) (expiresAtUnix : Int)
    (ready : Ready s.ledger s.disk) : Ended nowUnix (.reserve nonce digest expiresAtUnix) s
      ((reserve env nonce digest expiresAtUnix nowUnix).run s) := by
  rw [reserve, run_bind_of_ok (ensureAvailable_ready ready.1)]
  rcases validateReservation nonce digest expiresAtUnix (some nowUnix) with e | u
  · exact .refused ready (.inl rfl) (refl_of (ShowsOnly _) _) rfl
  rw [run_bind_of_ok (run_ofExcept _ _)]
  rcases pruneCompleted_ends env ReplayReservation nowUnix (.reserve nonce digest expiresAtUnix)
    ready with ⟨e, t, ran, ends⟩ | ⟨t, ran, readyNow, entries, shown, failures⟩
  · rw [run_bind_of_error ran]
    exact ends
  rw [run_bind_of_ok ran, run_reads_bind]
  have refusal : ∀ e, Ended (α := ReplayReservation) nowUnix
      (.reserve nonce digest expiresAtUnix) s (.error e, t) :=
    fun e => .refused readyNow (.inr entries) shown failures
  cases found : t.ledger.entries.lookup nonce with
  | some => exact refusal _
  | none =>
    refine run_require_bind_cases (fun _ => refusal _) fun _ => ?_
    exact insertReservation_ends readyNow entries shown failures (entries ▸ found)

/-- What each call of a ready ledger leaves. -/
theorem perform_ends (call : LedgerCall) (nowUnix : Int) (ready : Ready s.ledger s.disk) :
    Ended nowUnix call s ((call.perform env nowUnix).run s) := by
  cases call with
  | reserve nonce digest expiresAtUnix =>
    have ends := reserve_ends env nowUnix nonce digest expiresAtUnix ready
    rw [LedgerCall.perform]
    rcases ran : (reserve env nonce digest expiresAtUnix nowUnix).run s with ⟨e | a, t⟩
    · rw [ran] at ends
      rw [run_bind_of_error ran]
      cases ends with
      | refused readyNow pruned shown failures => exact .refused readyNow pruned shown failures
      | closed failed made shown failures => exact .closed failed made shown failures
    · rw [ran] at ends
      rw [run_bind_of_ok ran]
      cases ends with
      | performed done available contents failures =>
        exact .performed done available contents failures
  | markSpawned => exact markSpawned_ends nowUnix _ _ _ ready
  | markCompleted => exact markCompleted_ends nowUnix _ _ ready
  | reconcile => exact reconcile_ends nowUnix _ _ _ _ ready

end OwnMesh.Broker
