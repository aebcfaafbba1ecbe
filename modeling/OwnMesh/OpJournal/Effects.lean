import OwnMesh.OpJournal.Store

/-!
# What each journal operation does

One lemma per operation and answer, stating what the operation did to the entries
in memory and to the primary file; the proofs about runs of the journal use these
and never open the operations again.  `SameContents` is the frame (memory, file
and health untouched), `Committed` says that the file was replaced by the durable
view of what memory holds.
-/

namespace OwnMesh.OpJournal

open Foundations Ipc Program AList

section Effects

variable {ω : Type} {env : Environment ω} {s s' : Journal ω}
  {ε : Type} {durable : Table String Value} {answer : Except IpcError Unit}
  {executed : Except IpcError Value}

/-- Memory, health and primary file are as they were. -/
structure SameContents (s s' : Journal ω) : Prop where
  entries : s'.entries = s.entries
  degraded : s'.degraded = s.degraded
  primary : s'.primary = s.primary

instance : Std.Refl (SameContents (ω := ω)) where
  refl _ := ⟨rfl, rfl, rfl⟩

instance : IsTrans (Journal ω) SameContents where
  trans _ _ _ first second :=
    ⟨second.entries.trans first.entries, second.degraded.trans first.degraded,
      second.primary.trans first.primary⟩

/-- The journal is healthy and the file holds the durable view of memory. -/
structure Committed (contents : Table String Value) (s s' : Journal ω) : Prop where
  healthy : s.degraded = none
  healthyAfter : s'.degraded = none
  entries : s'.entries = contents
  primary : s'.primary = some (opJournalDurableView contents)

variable {contents : Table String Value}

theorem Committed.later {t : Journal ω}
    (written : Committed contents s t) (same : SameContents t s') : Committed contents s s' :=
  ⟨written.healthy, same.degraded.trans written.healthyAfter, same.entries.trans written.entries,
    same.primary.trans written.primary⟩

/-! ## Writing -/

theorem ask_moves {α : Type} (question : ω → α × ω) :
    Moves SameContents (ask question : Program (Journal ω) ε α) :=
  .query fun _ => ⟨rfl, rfl, rfl⟩

@[simp]
theorem run_ask_bind {α β : Type} (question : ω → α × ω) (next : α → Program (Journal ω) ε β)
    (s : Journal ω) : (ask question >>= next).run s =
      (next (question s.world).1).run { s with world := (question s.world).2 } := rfl

@[simp]
theorem run_setEntries_bind {β : Type} (entries : Table String Value)
    (next : Unit → Program (Journal ω) ε β) (s : Journal ω) :
    (setEntries entries >>= next).run s = (next ()).run { s with entries := entries } := rfl

theorem removeStaleBackup_moves (failure : String → ε) :
    Moves SameContents (removeStaleBackup env failure) := by
  refine .bind .reads fun backup => ?_
  cases backup with
  | none => exact .pure
  | some =>
    refine .bind (ask_moves _) fun answer => ?_
    cases answer with
    | some => exact .fail
    | none => exact .modify fun _ => ⟨rfl, rfl, rfl⟩

theorem writeOpJournal_cases (failure : String → ε) (durable : Table String Value)
    (s : Journal ω) : ∃ w, (∃ e, (writeOpJournal env failure durable).run s =
        (.error e, { s with world := w })) ∨
      (writeOpJournal env failure durable).run s =
        (.ok (), { s with world := w, primary := some durable }) := by
  refine ⟨(env.writePrimary s.world).2, ?_⟩
  rw [writeOpJournal, run_ask_bind]
  split
  · exact .inl ⟨_, rfl⟩
  · exact .inr rfl

variable {u : Unit}

variable {entries : Table String Value}

theorem durableWithinBudget_ok (fits : durableWithinBudget env entries = .ok durable) :
    durable = opJournalDurableView entries := by
  simp only [durableWithinBudget] at fits
  split at fits
  · cases fits
  · split at fits
    · cases fits
    · split at fits
      · cases fits
      · cases fits
        rfl

theorem rejectDegraded_moves : Moves SameContents (rejectDegraded (ω := ω)) := by
  refine .bind .reads fun health => ?_
  cases health with
  | none => exact .pure
  | some => exact .fail

theorem rejectDegraded_ok (ran : rejectDegraded.run s = (.ok u, s')) :
    s.degraded = none ∧ s = s' := by
  simp only [rejectDegraded, run_reads_bind] at ran
  rcases healthy : s.degraded with _ | reason <;> rw [healthy] at ran
  · cases ran
    exact ⟨rfl, rfl⟩
  · cases ran

/-- The part of a write before the file is replaced. -/
theorem removeBeforeWrite_moves (primary : Option (Table String Value)) : Moves SameContents
      (whenever primary.isSome (removeStaleBackup env (staleBackupError env))) :=
  .whenever fun _ => removeStaleBackup_moves _

variable {e : IpcError}

/-- The ends of a write: a failed one changes nothing, and a successful one replaces the file
by the durable view of memory. -/
def Attempted {ε α : Type} (contents : Table String Value) (s : Journal ω) :
    Except ε α × Journal ω → Prop
  | (.error _, s') => SameContents s s'
  | (.ok _, s') => Committed contents s s'

theorem persistOpJournal_attempted (env : Environment ω) (s : Journal ω) :
    Attempted s.entries s ((persistOpJournal env).run s) := by
  refine run_bind_cases (fun _ _ ran => rejectDegraded_moves.of_eq ran) fun _ _ ran => ?_
  obtain ⟨healthy, rfl⟩ := rejectDegraded_ok ran
  refine run_ofExcept_bind_cases (fun _ _ => refl_of SameContents s) fun durable fits => ?_
  rw [run_reads_bind]
  refine run_bind_cases (fun _ _ ran => (removeBeforeWrite_moves _).of_eq ran) fun _ t ran => ?_
  have removal := (removeBeforeWrite_moves _).of_eq ran
  rcases writeOpJournal_cases _ durable t with ⟨w, ⟨_, failed⟩ | written⟩
  · rw [run_bind_of_error failed]
    exact ⟨removal.entries, removal.degraded, removal.primary⟩
  · rw [run_bind_of_ok written]
    generalize rewritten : ({ t with world := w, primary := some durable } : Journal ω) = t'
    have last : SameContents t' ((removeStaleBackup env id).run t').2 :=
      removeStaleBackup_moves id t'
    subst rewritten
    refine ⟨healthy, ?_, last.entries.trans removal.entries, ?_⟩
    · exact last.degraded.trans (by rw [removal.degraded, healthy])
    · exact last.primary.trans (by rw [durableWithinBudget_ok fits])

/-- An attempted write: the answer and what it means. -/
theorem persistOpJournal_cases (env : Environment ω) (s : Journal ω) :
    (∃ e s', (persistOpJournal env).run s = (.error e, s') ∧ SameContents s s') ∨
      ∃ s', (persistOpJournal env).run s = (.ok (), s') ∧ Committed s.entries s s' := by
  have attempted := persistOpJournal_attempted env s
  rcases ran : (persistOpJournal env).run s with ⟨e | u, s'⟩ <;> rw [ran] at attempted
  · exact .inl ⟨e, s', rfl, attempted⟩
  · exact .inr ⟨s', rfl, attempted⟩

variable {t : Journal ω}

/-- A write of new contents, which a failure takes back. -/
theorem persistOrRestore_attempted (from_ : SameContents s t)
    (ran : (persistOrRestore env t.entries).run { t with entries := contents } = (answer, s')) :
    Attempted contents s (answer, s') := by
  rw [persistOrRestore, run_attempt_bind] at ran
  rcases persistOpJournal_cases env { t with entries := contents } with
    ⟨e, u, answered, same⟩ | ⟨u, answered, written⟩
  · rw [answered] at ran
    cases ran
    exact ⟨from_.entries, same.degraded.trans from_.degraded, same.primary.trans from_.primary⟩
  · rw [answered] at ran
    cases ran
    exact ⟨from_.degraded.symm.trans written.healthy, written.healthyAfter, written.entries,
      written.primary⟩

/-! ## Eviction and acknowledgement -/

/-- The ends of an operation that has nothing to do or writes the contents. -/
def Dropped {α : Type} (contents : Table String Value) (s : Journal ω) :
    Except IpcError α × Journal ω → Prop
  | (.error _, s') => SameContents s s'
  | (.ok _, s') => SameContents s s' ∨ Committed contents s s'

theorem dropEntries_dropped (keep : Value → Bool) (from_ : SameContents s t) :
    Dropped (s.entries.retain fun _ value => keep value) s ((dropEntries env keep).run t) := by
  simp only [dropEntries, run_reads_bind, run_setEntries_bind, ← from_.entries]
  split
  · rename_i unchanged
    exact .inl ⟨(Table.retain_eq_self _ _ unchanged).trans from_.entries, from_.degraded,
      from_.primary⟩
  · exact run_bind_cases (fun _ _ ran => persistOrRestore_attempted from_ ran)
      fun _ _ ran => .inr (persistOrRestore_attempted from_ ran)

theorem acknowledge_dropped {ids : List String} {answer : Except IpcError Nat}
    (ran : (acknowledgeControlPlaneOperations env ids).run s = (answer, s')) :
    Dropped (s.entries.retain fun _ value => unacknowledged ids value) s (answer, s') := by
  rw [← ran, acknowledgeControlPlaneOperations]
  split
  · exact .inl (refl_of _ _)
  · exact dropEntries_dropped _ (refl_of _ s)

/-- The clock reading of an operation that reads the clock first. -/
def clockAt (env : Environment ω) (s : Journal ω) : Int := (env.now s.world).1

/-- The entries an eviction at the present clock keeps. -/
def prunedEntries (env : Environment ω) (s : Journal ω) : Table String Value :=
  s.entries.retain fun _ value => keptAt (clockAt env s) value

variable {key operationId : String}

/-- Making room evicts, or does nothing. -/
theorem makeRoom_dropped (ran : (maybeMakeOpJournalRoom env key operationId).run s = (answer, s')) :
    Dropped (prunedEntries env s) s (answer, s') := by
  simp only [← ran, maybeMakeOpJournalRoom, run_reads_bind]
  split
  · exact .inl (refl_of _ _)
  · have dropped : Dropped (prunedEntries env s) s
        ((evictExpiredCompletedOpJournalEntries env).run s) :=
      dropEntries_dropped (keptAt (clockAt env s)) (ask_moves (ε := IpcError) env.now s)
    refine run_bind_cases (fun _ _ ran => ?_) fun _ _ ran => ?_
    · rw [ran] at dropped
      exact dropped
    · rw [ran] at dropped
      exact dropped

/-! ## Requests on a key -/

/-- A reservation that was made: the key was free, room may have been made, and
the marker is in memory and in the file. -/
structure Reserved (env : Environment ω) (key operationId : String) (s s' : Journal ω) : Prop where
  free : s.entries.lookup key = none
  committed : ∃ base, (base = s.entries ∨ base = prunedEntries env s) ∧
    Committed (base.insert key (inProgressMarker operationId)) s s'

/-- The ends of a reservation: one that is refused may have made room. -/
def Begun (env : Environment ω) (key operationId : String) (s : Journal ω) :
    Except IpcError Unit × Journal ω → Prop
  | (.error _, s') => SameContents s s' ∨ Committed (prunedEntries env s) s s'
  | (.ok _, s') => Reserved env key operationId s s'

theorem beginIdempotent_begun
    (ran : (beginIdempotent env (some key) operationId).run s = (answer, s')) :
    Begun env key operationId s (answer, s') := by
  rw [← ran, beginIdempotent, run_reads_bind]
  rcases free : s.entries.lookup key with _ | entry
  · refine run_bind_cases (fun _ _ failed => .inl (makeRoom_dropped failed)) fun _ t room => ?_
    have made : SameContents s t ∨ Committed (prunedEntries env s) s t := makeRoom_dropped room
    -- whatever fails after the room was made leaves what making room left
    have left : ∀ {t'}, SameContents t t' →
        SameContents s t' ∨ Committed (prunedEntries env s) s t' := by
      intro t' unchanged
      exact made.imp (trans_of _ · unchanged) (·.later unchanged)
    refine run_require_bind_cases (fun _ => made) fun _ => ?_
    rw [run_setEntries_bind]
    rcases wrote : (persistOrRestore env t.entries).run
      { t with entries := t.entries.insert key (inProgressMarker operationId) } with ⟨e | u, t'⟩
    · exact left (persistOrRestore_attempted (refl_of _ t) wrote)
    · have attempted : Committed _ t t' := persistOrRestore_attempted (refl_of _ t) wrote
      have healthy : s.degraded = none :=
        made.elim (·.degraded.symm.trans attempted.healthy) (·.healthy)
      exact ⟨free, t.entries, made.imp (·.entries) (·.entries), healthy, attempted.healthyAfter,
        attempted.entries, attempted.primary⟩
  · exact .inl (refl_of _ _)

/-- The world once a stale backup has been removed before a write. -/
def clearedWorld (env : Environment ω) (s : Journal ω) : ω :=
  if s.primary.isSome = true ∧ s.backup.isSome = true then (env.removeBackup s.world).2
  else s.world

/-- The entries can be written: the journal is healthy, they encode within the budgets, a
stale backup can be removed, and the write succeeds. -/
structure Writable (env : Environment ω) (entries : Table String Value) (s : Journal ω) : Prop where
  healthy : s.degraded = none
  bounded : ∃ durable, durableWithinBudget env entries = .ok durable
  cleared : s.primary.isSome = true → s.backup.isSome = true → (env.removeBackup s.world).1 = none
  written : (env.writePrimary (clearedWorld env s)).1 = none

theorem removeBeforeWrite_answers (failure : String → IpcError) (s : Journal ω) :
    Answers (s.primary.isSome = true → s.backup.isSome = true → (env.removeBackup s.world).1 = none)
      (fun _ t => t.world = clearedWorld env s)
      ((whenever s.primary.isSome (removeStaleBackup env failure)).run s) := by
  unfold whenever clearedWorld
  cases s.primary.isSome with
  | false => exact .ok nofun rfl
  | true =>
    rw [if_pos rfl, removeStaleBackup, run_reads_bind]
    cases s.backup with
    | none => exact .ok nofun rfl
    | some =>
      rw [run_ask_bind]
      cases failed : (env.removeBackup s.world).1 with
      | some => exact .error fun may => by cases may rfl rfl
      | none => exact .ok (fun _ _ => rfl) rfl

theorem persistOpJournal_answers (env : Environment ω) (s : Journal ω) :
    Answers (Writable env s.entries s) (fun _ _ => True) ((persistOpJournal env).run s) := by
  rw [persistOpJournal, rejectDegraded, bind_bind, run_reads_bind]
  cases sick : s.degraded with
  | some => exact .error fun may => by cases sick.symm.trans may.healthy
  | none =>
    rw [pure_bind_eq, run_reads_bind]
    refine run_ofExcept_bind_cases (fun e failed => .error fun may => ?_) fun durable fits => ?_
    · obtain ⟨durable, fits⟩ := may.bounded
      cases failed.symm.trans fits
    rw [run_reads_bind]
    refine .congr (.bind (removeBeforeWrite_answers _ s) fun _ t cleared => ?_)
      ⟨fun may => ⟨sick, ⟨durable, fits⟩, may.1, may.2⟩, fun may => ⟨may.cleared, may.written⟩⟩
    rw [← cleared, writeOpJournal, bind_bind, run_ask_bind]
    cases failed : (env.writePrimary t.world).1 with
    | some => exact .error nofun
    | none => exact .ok rfl trivial

/-- The key is free, room can be made where it is needed, and the journal can be written with
the marker of the key in it. -/
structure Reservable (env : Environment ω) (key operationId : String) (s : Journal ω) : Prop where
  free : s.entries.lookup key = none
  room : ∃ t, (maybeMakeOpJournalRoom env key operationId).run s = (.ok (), t) ∧
    t.entries.entries.length < maxOpJournalEntries ∧
    Writable env (t.entries.insert key (inProgressMarker operationId)) t

theorem beginIdempotent_answers (env : Environment ω) (key operationId : String) (s : Journal ω) :
    Answers (Reservable env key operationId s) (fun _ _ => True)
      ((beginIdempotent env (some key) operationId).run s) := by
  rw [beginIdempotent, run_reads_bind]
  cases taken : s.entries.lookup key with
  | some => exact .error fun may => by cases taken.symm.trans may.free
  | none =>
    refine run_bind_cases (fun e t failed => .error fun may => ?_) fun _ t made => ?_
    · obtain ⟨t', made, -⟩ := may.room
      cases failed.symm.trans made
    rw [run_reads_bind]
    have same : Reservable env key operationId s ↔ t.entries.entries.length < maxOpJournalEntries ∧
        Writable env (t.entries.insert key (inProgressMarker operationId)) t := by
      refine ⟨?_, fun fits => ⟨taken, t, made, fits⟩⟩
      rintro ⟨-, t', made', fits⟩
      cases made.symm.trans made'
      exact fits
    refine .congr (.bind (answers_require _ t) fun _ u here => ?_) same.symm
    subst here
    rw [run_setEntries_bind, persistOrRestore, run_attempt_bind]
    have written := persistOpJournal_answers env
      { u with entries := u.entries.insert key (inProgressMarker operationId) }
    generalize (persistOpJournal env).run
      { u with entries := u.entries.insert key (inProgressMarker operationId) } = r at written ⊢
    cases written with
    | ok may => exact .ok ⟨may.1, may.2, may.3, may.4⟩ trivial
    | error refused => exact .error fun may => refused ⟨may.1, may.2, may.3, may.4⟩

/-- What a lookup of a key can answer and do. -/
inductive LookedUp (env : Environment ω) (key : String) (s s' : Journal ω) :
    Except IpcError (Option Value) → Prop where
  | absent (free : s.entries.lookup key = none) (same : SameContents s s') :
      LookedUp env key s s' (.ok none)
  | refused {entry : Value} {e : IpcError} (found : s.entries.lookup key = some entry)
      (unfinished : opJournalEntryState entry ≠ .completed)
      (reported : e = uncertainOutcomeError key entry) (same : SameContents s s') :
      LookedUp env key s s' (.error e)
  | replayed {entry : Value} (found : s.entries.lookup key = some entry)
      (done : opJournalEntryState entry = .completed) (same : SameContents s s') :
      LookedUp env key s s' (.ok (some entry))
  | expired {entry : Value} (found : s.entries.lookup key = some entry)
      (done : opJournalEntryState entry = .completed)
      (past : expiredAt (clockAt env s) entry = true)
      (removed : SameContents s s' ∨ Committed (s.entries.erase key) s s') :
      LookedUp env key s s' (.ok none)

theorem lookupIdempotent_cases {answer : Except IpcError (Option Value)}
    (ran : (lookupIdempotent env (some key)).run s = (answer, s')) :
    LookedUp env key s s' answer := by
  rw [lookupIdempotent, run_reads_bind] at ran
  rcases found : s.entries.lookup key with _ | entry
  · rw [found] at ran
    cases ran
    exact .absent found (refl_of _ _)
  rw [found] at ran
  by_cases done : opJournalEntryState entry = .completed
  · have certain : isOpJournalUncertain entry = false := by simp [isOpJournalUncertain, done]
    simp only [certain, Bool.false_eq_true, if_false, run_ask_bind] at ran
    split at ran
    · rename_i past
      simp only [run_reads_bind, run_setEntries_bind, run_attempt_bind] at ran
      rcases persistOpJournal_cases env
          { s with world := (env.now s.world).2, entries := s.entries.erase key } with
        ⟨e, t, answered, same⟩ | ⟨t, answered, written⟩
      · rw [answered] at ran
        cases ran
        exact .expired found done past (.inl ⟨rfl, same.degraded, same.primary⟩)
      · rw [answered] at ran
        cases ran
        exact .expired found done past (.inr
          ⟨written.healthy, written.healthyAfter, written.entries, written.primary⟩)
    · cases ran
      exact .replayed found done ⟨rfl, rfl, rfl⟩
  · have uncertain : isOpJournalUncertain entry = true := by simp [isOpJournalUncertain, done]
    simp only [uncertain, if_true] at ran
    cases ran
    exact .refused found done rfl (refl_of _ _)

/-- The entry a result is stored as. -/
def stampedEntry (env : Environment ω) (s : Journal ω) (value : Value) : Value :=
  value.insert completedUnixField (.ofInt (clockAt env s))

/-- A result that was stored: the file holds the durable view with the entry in it
and memory holds the same receipt. -/
structure Stored (env : Environment ω) (key : String) (value : Value) (s s' : Journal ω) :
    Prop where
  healthy : s.degraded = none
  healthyAfter : s'.degraded = none
  entries : s'.entries = (s.entries.insert key (stampedEntry env s value)).insert key
    (durableEntry (stampedEntry env s value))
  primary : s'.primary =
    some (opJournalDurableView (s.entries.insert key (stampedEntry env s value)))

/-- The ends of storing a result: a failure changes nothing. -/
def Storing (env : Environment ω) (key : String) (value : Value) (s : Journal ω) :
    Except IpcError Unit × Journal ω → Prop
  | (.error _, s') => SameContents s s'
  | (.ok _, s') => Stored env key value s s'

theorem storeIdempotent_storing (env : Environment ω) (key : String) (value : Value)
    (s : Journal ω) : Storing env key value s ((storeIdempotent env (some key) value).run s) := by
  simp only [storeIdempotent, run_reads_bind, run_ask_bind, run_setEntries_bind]
  have clocked : SameContents s { s with world := (env.now s.world).2 } := ⟨rfl, rfl, rfl⟩
  refine run_bind_cases
    (fun _ _ failed => persistOrRestore_attempted clocked failed) fun _ t persisted => ?_
  have written : Committed (s.entries.insert key (stampedEntry env s value)) s t :=
    persistOrRestore_attempted clocked persisted
  have receipt : (opJournalDurableView t.entries).lookup key =
      some (durableEntry (stampedEntry env s value)) := by
    rw [written.entries, opJournalDurableView, Table.lookup_mapValues, lookup_insert]
    rfl
  rw [run_modify, receipt]
  refine ⟨written.healthy, written.healthyAfter, ?_, written.primary⟩
  rw [written.entries]

/-- The contents as lookups: a table may be rearranged without changing. -/
structure SameLookups (s s' : Journal ω) : Prop where
  entries : ∀ key, s'.entries.lookup key = s.entries.lookup key
  degraded : s'.degraded = s.degraded
  primary : s'.primary = s.primary

theorem SameContents.lookups (same : SameContents s s') : SameLookups s s' :=
  ⟨fun key => by rw [same.entries], same.degraded, same.primary⟩

/-! ## Completion -/

/-- A completion leaves the contents alone or stores a result under its key. -/
def KeptOrStored (env : Environment ω) (key : Option String) (s s' : Journal ω) : Prop :=
  SameLookups s s' ∨ ∃ k value, key = some k ∧ Stored env k value s s'

section Completion

variable (env) (key : Option String) (operationId : String) (s : Journal ω)

theorem storeIdempotent_kept (value : Value) :
    KeptOrStored env key s ((storeIdempotent env key value).run s).2 := by
  cases key with
  | none => exact .inl ⟨fun _ => rfl, rfl, rfl⟩
  | some key =>
    have storing := storeIdempotent_storing env key value s
    rcases ran : (storeIdempotent env (some key) value).run s with ⟨_ | _, t⟩ <;>
      rw [ran] at storing
    · exact .inl (SameContents.lookups storing)
    · exact .inr ⟨key, value, rfl, storing⟩

theorem failIdempotent_kept (message : String) (code : Int) :
    KeptOrStored env key s ((failIdempotent env key operationId code message).run s).2 := by
  cases key with
  | none => exact .inl ⟨fun _ => rfl, rfl, rfl⟩
  | some key =>
    rw [failIdempotent, run_reads_bind]
    split
    · exact .inl ⟨fun _ => rfl, rfl, rfl⟩
    · split
      · rw [run_bind_pure]
        exact storeIdempotent_kept ..
      · exact .inl ⟨fun _ => rfl, rfl, rfl⟩

theorem validateCompletionMarker_moves :
    Moves SameContents (validateCompletionMarker (ω := ω) key operationId) := by
  cases key with
  | none => exact .pure
  | some =>
    refine .bind .reads fun found => ?_
    cases found with
    | none => exact .fail
    | some => exact .require

variable {key operationId s}

theorem validateCompletionMarker_ok
    (ran : (validateCompletionMarker key operationId).run s = (.ok u, s')) :
    s = s' ∧ ∀ k, key = some k → ∃ entry, s.entries.lookup k = some entry := by
  cases key with
  | none =>
    cases ran
    exact ⟨rfl, nofun⟩
  | some key =>
    rw [validateCompletionMarker, run_reads_bind] at ran
    rcases found : s.entries.lookup key with _ | entry <;> rw [found] at ran
    · cases ran
    · refine ⟨(require_ok_iff.mp ran).2, ?_⟩
      rintro _ ⟨⟩
      exact ⟨entry, found⟩

/-- What follows the check of the marker finds an entry under its key. -/
theorem validated_kept {next : Unit → JournalM ω Value}
    (kept : (∀ k, key = some k → ∃ entry, s.entries.lookup k = some entry) →
      KeptOrStored env key s ((next ()).run s).2) :
    KeptOrStored env key s ((validateCompletionMarker key operationId >>= next).run s).2 := by
  refine run_bind_cases (P := fun r => KeptOrStored env key s r.2)
    (fun _ _ ran => .inl ((validateCompletionMarker_moves _ _).of_eq ran).lookups) fun _ _ ran => ?_
  obtain ⟨rfl, found⟩ := validateCompletionMarker_ok ran
  exact kept found

theorem finalizeOperationCompletion_kept (reason : String) (executed : Except IpcError Value) :
    KeptOrStored env key s
      ((finalizeOperationCompletion env key operationId reason executed).run s).2 := by
  refine validated_kept env fun _ => ?_
  cases executed with
  | ok =>
    rw [run_bind_pure]
    exact storeIdempotent_kept ..
  | error => exact failIdempotent_kept ..

theorem finalizeApprovedCompletion_kept (approvalId : String) (grant : Option Value)
    (executed : Except IpcError Value) : KeptOrStored env key s
      ((finalizeApprovedCompletion env key operationId approvalId grant
        (key.bind fun k => s.entries.lookup k) executed).run s).2 := by
  refine validated_kept env fun present => ?_
  cases executed with
  | error => exact .inl ⟨fun _ => rfl, rfl, rfl⟩
  | ok result =>
    rw [run_bind_of_ok (run_ofExcept _ _), run_attempt_bind]
    have kept := storeIdempotent_kept env key s (approvedBody operationId approvalId grant result)
    rcases stored : (storeIdempotent env key
        (approvedBody operationId approvalId grant result)).run s with ⟨e | u, t⟩
    · -- what a failed write puts back is the entry that was there
      cases key with
      | none => cases stored
      | some key =>
        have same := storeIdempotent_storing env key
          (approvedBody operationId approvalId grant result) s
        rw [stored] at same
        obtain ⟨entry, found⟩ := present key rfl
        simp only [Option.bind_some, found, restoreOpJournalEntry]
        refine .inl ⟨fun other => ?_, same.degraded, same.primary⟩
        show (t.entries.insert key entry).lookup other = _
        rw [same.entries]
        by_cases here : other = key
        · rw [here, lookup_insert, found]
        · rw [lookup_insert_ne here]
    · rw [stored] at kept
      simp only [run_ask_bind]
      split
      all_goals
        exact kept.imp (fun same => ⟨same.entries, same.degraded, same.primary⟩)
          fun ⟨k, value, isKey, w⟩ =>
            ⟨k, value, isKey, w.healthy, w.healthyAfter, w.entries, w.primary⟩

end Completion

/-! ## Admission of an approved request -/

theorem demand_moves (question : ω → Option IpcError × ω) :
    Moves SameContents (demand question) := by
  refine .bind (ask_moves _) fun answer => ?_
  cases answer with
  | none => exact .pure
  | some => exact .fail

/-- The journal once the approval has been committed as executing. -/
def approvalStart (env : Environment ω) (s : Journal ω) : Journal ω :=
  { s with world := (env.persistApprovals s.world).2 }

/-- A reservation that was taken back because the grant could not be stored: it is
gone from memory, and from the file if the file could be written. -/
def RolledBack (env : Environment ω) (key operationId : String) (s s' : Journal ω) : Prop :=
  ∃ t, Reserved env key operationId s t ∧ s'.entries = t.entries.erase key ∧ s'.degraded = none ∧
    (s'.primary = t.primary ∨ s'.primary = some (opJournalDurableView (t.entries.erase key)))

/-- What an admission of an approved request can do to the journal. -/
inductive Approved (env : Environment ω) (key operationId : String) (s s' : Journal ω) :
    Except IpcError GateOutcome → Prop where
  | started (reserved : Reserved env key operationId (approvalStart env s) s') :
      Approved env key operationId s s' (.ok (.run (some key)))
  | refused {e : IpcError} (same : SameContents s s') :
      Approved env key operationId s s' (.error e)
  | pruned {e : IpcError} (written : Committed (prunedEntries env (approvalStart env s)) s s') :
      Approved env key operationId s s' (.error e)
  | rolledBack {e : IpcError} (back : RolledBack env key operationId (approvalStart env s) s') :
      Approved env key operationId s s' (.error e)

theorem admitApproved_cases {temporaryGrant : Bool} {answer : Except IpcError GateOutcome}
    (ran : (admitApproved env (some key) operationId temporaryGrant).run s = (answer, s')) :
    Approved env key operationId s s' answer := by
  simp only [admitApproved, run_reads_bind, Option.bind_some] at ran
  rcases demanded : (demand env.persistApprovals).run s with ⟨e | u, t⟩
  · rw [run_bind_of_error demanded] at ran
    cases ran
    exact .refused ((demand_moves _).of_eq demanded)
  have start : t = approvalStart env s := by
    simp only [demand, run_ask_bind] at demanded
    split at demanded
    · cases demanded
    · cases demanded
      rfl
  subst start
  rw [run_bind_of_ok demanded, run_attempt_bind] at ran
  rcases began : (beginIdempotent env (some key) operationId).run (approvalStart env s) with
    ⟨e | u, t⟩
  · simp only [began, run_attempt_bind, run_fail] at ran
    have last := demand_moves env.persistApprovals t
    obtain ⟨rfl, rfl⟩ := ran
    rcases beginIdempotent_begun began with same | written
    · have unchanged := trans_of _ same last
      exact .refused ⟨unchanged.entries, unchanged.degraded, unchanged.primary⟩
    · have pruned := written.later last
      exact .pruned ⟨pruned.healthy, pruned.healthyAfter, pruned.entries, pruned.primary⟩
  have reserved : Reserved env key operationId _ t := beginIdempotent_begun began
  simp only [began] at ran
  split at ran
  · rw [run_ask_bind] at ran
    split at ran
    · cases ran
      obtain ⟨free, base, origin, written⟩ := reserved
      exact .started ⟨free, base, origin, written.later ⟨rfl, rfl, rfl⟩⟩
    · have free : s.entries.lookup key = none := reserved.free
      simp only [free, restoreOpJournalEntry, run_modify_bind, Option.isSome_some, if_true,
        run_attempt_bind, run_fail, Prod.mk.injEq] at ran
      obtain ⟨rfl, rfl⟩ := ran
      obtain ⟨_, base, origin, written⟩ := id reserved
      refine .rolledBack ⟨t, reserved, ?_⟩
      -- the marker is dropped from memory, then the file is written if it can be
      generalize erased : ({ t with
          world := (env.persistGrants t.world).2, entries := t.entries.erase key } : Journal ω) = u
      have last := demand_moves env.persistApprovals ((persistOpJournal env).run u).2
      have contents : u.entries = t.entries.erase key ∧ u.degraded = t.degraded ∧
          u.primary = t.primary := by
        rw [← erased]
        exact ⟨rfl, rfl, rfl⟩
      obtain ⟨entries, degraded, primary⟩ := contents
      rw [last.entries, last.degraded, last.primary]
      rcases persistOpJournal_cases env u with ⟨e, t', answered, same⟩ | ⟨t', answered, saved⟩
      · rw [answered]
        exact ⟨same.entries.trans entries,
          (same.degraded.trans degraded).trans written.healthyAfter,
          .inl (same.primary.trans primary)⟩
      · rw [answered]
        exact ⟨saved.entries.trans entries, saved.healthyAfter,
          .inr (by rw [saved.primary, entries])⟩
  · cases ran
    exact .started reserved

/-- Without a key an admission leaves the journal alone. -/
theorem admitApproved_none_moves (operationId : String) (temporaryGrant : Bool) :
    Moves SameContents (admitApproved env none operationId temporaryGrant) := by
  refine .bind .reads fun _ => .bind (demand_moves _) fun _ => ?_
  refine .bind (.attempt .pure) fun began => ?_
  cases began with
  | error => exact .bind (.attempt (demand_moves _)) fun _ => .fail
  | ok =>
    refine .ite (fun _ => .bind (ask_moves _) fun answer => ?_) fun _ => .pure
    cases answer with
    | none => exact .pure
    | some =>
      exact .bind .pure fun _ => .bind .pure fun _ =>
        .bind (.attempt (demand_moves _)) fun _ => .fail

/-! ## Restart -/

section

variable (now : Int) (value : Value)

theorem opJournalEntryState_markOrphaned :
    opJournalEntryState (markOrphaned now value) = opJournalEntryState value := by
  unfold markOrphaned
  split
  · rw [opJournalEntryState_insert (by decide), opJournalEntryState_insert (by decide)]
  · rfl

theorem opJournalEntryState_stampCompleted :
    opJournalEntryState (stampCompleted now value) = opJournalEntryState value := by
  unfold stampCompleted
  split
  · rw [opJournalEntryState_insert (by decide)]
  · rfl

/-- A load keeps the classification of every entry. -/
theorem opJournalEntryState_boundEntry :
    opJournalEntryState (boundEntry now value) = opJournalEntryState value := by
  rw [boundEntry, opJournalEntryState_stampCompleted, opJournalEntryState_markOrphaned,
    opJournalEntryState_durableEntry]

/-- What a load leaves of an entry is what a later write keeps of it. -/
theorem durableEntry_boundEntry : durableEntry (boundEntry now value) = boundEntry now value := by
  by_cases done : opJournalEntryState value = .completed
  · have doneAfter : opJournalEntryState (boundEntry now value) = .completed :=
      (opJournalEntryState_boundEntry now value).trans done
    have receipt : durableEntry value = durableReceipt value := by rw [durableEntry, if_pos done]
    have unmarked : markOrphaned now (durableReceipt value) = durableReceipt value := by
      rw [markOrphaned, if_neg]
      rw [durableReceipt_completed done]
      simp
    rw [durableEntry, if_pos doneAfter, boundEntry, receipt, unmarked, stampCompleted]
    split
    · rw [durableReceipt_insert_completedUnix _ _ rfl, durableReceipt_idem]
    · exact durableReceipt_idem value
  · rw [durableEntry, if_neg]
    rwa [opJournalEntryState_boundEntry]

end

/-- The entries a load makes of a file. -/
def boundedEntries (now : Int) (file : Table String Value) : Table String Value :=
  file.mapValues fun _ value => boundEntry now value

variable {file journal : Table String Value}

theorem boundOpJournal_ok_iff {now : Int} : boundOpJournal env now file = .ok journal ↔
    journal = boundedEntries now file ∧ file.entries.length ≤ maxOpJournalEntries ∧
      ∃ bytes ≤ maxOpJournalFileBytes, env.encode journal = .ok bytes := by
  rw [boundOpJournal, ← boundedEntries]
  split_ifs with crowded
  · grind
  · cases encoded : env.encode (boundedEntries now file) <;> grind

theorem readAndBound_moves (file : Table String Value) :
    Moves SameContents (readAndBoundOpJournal env file) := by
  refine .bind (ask_moves _) fun answer => ?_
  cases answer with
  | some => exact .fail
  | none => exact .bind (ask_moves _) fun _ => .ofExcept

theorem readAndBound_ok (ran : (readAndBoundOpJournal env file).run s = (.ok journal, s')) :
    ∃ now, journal = boundedEntries now file := by
  rw [readAndBoundOpJournal, run_ask_bind] at ran
  split at ran
  · cases ran
  · rw [run_ask_bind, run_ofExcept, Prod.mk.injEq] at ran
    exact ⟨_, (boundOpJournal_ok_iff.mp ran.1).1⟩

/-- What a restart can find. -/
inductive Restarted (s s' : Journal ω) : Prop where
  | fresh (noPrimary : s.primary = none) (entries : s'.entries = ∅) (healthy : s'.degraded = none)
      (primary : s'.primary = none)
  | loaded (source : Table String Value) (now : Int)
      (origin : s.primary = some source ∨ s.primary = none)
      (entries : s'.entries = boundedEntries now source) (healthy : s'.degraded = none)
      (primary : s'.primary = some (boundedEntries now source))
  | failed (reason : String) (entries : s'.entries = ∅) (degraded : s'.degraded = some reason)
      (primary : s'.primary = s.primary ∨ s.primary = none)

/-- The ends of a load that a restart makes a journal of. -/
def Loads (s : Journal ω) (r : Except String (Table String Value) × Journal ω) : Prop :=
  Restarted s (match r with
    | (.ok journal, s') => { s' with entries := journal, degraded := none }
    | (.error reason, s') => { s' with entries := ∅, degraded := some reason })

theorem restart_cases (env : Environment ω) (s : Journal ω) : Restarted s (restart env s) := by
  show Loads s ((loadOpJournal env).run s)
  simp only [loadOpJournal, run_reads_bind]
  rcases primary : s.primary with _ | file
  · have failed (e : String) (t : Journal ω) : Loads s (.error e, t) :=
      .failed e rfl rfl (.inr primary)
    rcases s.backup with _ | file
    · exact .fresh primary rfl rfl primary
    · refine run_bind_cases (fun e t _ => failed e t) fun journal t read => ?_
      obtain ⟨now, rfl⟩ := readAndBound_ok read
      rcases writeOpJournal_cases _ (boundedEntries now file) t with ⟨w, ⟨e, unwritten⟩ | written⟩
      · rw [run_bind_of_error unwritten]
        exact failed e _
      · rw [run_bind_of_ok written]
        refine run_bind_cases (fun e t _ => failed e t) fun _ t' removed => ?_
        exact .loaded file now (.inr primary) rfl rfl
          ((removeStaleBackup_moves _).of_eq removed).primary
  · -- the file is replaced only by the last step
    have failed (e : String) {t : Journal ω} (same : SameContents s t) : Loads s (.error e, t) :=
      .failed e rfl rfl (.inl same.primary)
    refine run_bind_cases (fun e _ ran => failed e ((readAndBound_moves _).of_eq ran))
      fun journal t read => ?_
    obtain ⟨now, rfl⟩ := readAndBound_ok read
    have reading := (readAndBound_moves _).of_eq read
    refine run_bind_cases (fun e _ ran =>
      failed e (trans_of _ reading ((removeStaleBackup_moves _).of_eq ran))) fun _ t' removed => ?_
    have removal := trans_of _ reading ((removeStaleBackup_moves _).of_eq removed)
    rcases writeOpJournal_cases _ (boundedEntries now file) t' with ⟨w, ⟨e, unwritten⟩ | written⟩
    · rw [run_bind_of_error unwritten]
      exact failed e ⟨removal.entries, removal.degraded, removal.primary⟩
    · rw [run_bind_of_ok written]
      exact .loaded file now (.inl primary) rfl rfl rfl

/-! ## The written view after a restart -/

/-- What a written entry answers after a restart: a completed one its receipt, stamped if it
was not, any other one a refusal. -/
def AnswersAs (env : Environment ω) (key : String) (entry : Value) (s : Journal ω) : Prop :=
  ∃ found, s.entries.lookup key = some found ∧
    if opJournalEntryState entry = .completed then
      (∀ field, field ≠ completedUnixField ∨ entry.get field ≠ none →
        found.get field = entry.get field) ∧
      (expiredAt (clockAt env s) found = false →
        ((lookupIdempotent env (some key)).run s).1 = .ok (some found))
    else ((lookupIdempotent env (some key)).run s).1 = .error (uncertainOutcomeError key found)

theorem answersAs_boundEntry {key : String} {value : Value} {now : Int}
    (found : s.entries.lookup key = some (boundEntry now (durableEntry value))) :
    AnswersAs env key (durableEntry value) s := by
  have state := opJournalEntryState_boundEntry now (durableEntry value)
  refine ⟨_, found, ?_⟩
  simp only [lookupIdempotent, run_reads_bind, found, isOpJournalUncertain, state]
  by_cases done : opJournalEntryState (durableEntry value) = .completed
  · rw [if_pos done]
    refine ⟨fun field kept => ?_, fun current => ?_⟩
    · have unmarked : markOrphaned now (durableEntry value) = durableEntry value := by
        simp [markOrphaned, done]
      rw [boundEntry, durableEntry_idem, unmarked, stampCompleted]
      split_ifs with unstamped
      · refine Value.get_insert_ne _ ?_ _
        rintro rfl
        exact kept.elim (· rfl) (· unstamped.2)
      · rfl
    · simp only [done, bne_self_eq_false, Bool.false_eq_true, if_false, run_ask_bind]
      rw [if_neg (by simpa [clockAt] using current)]
      rfl
  · simp [done]

/-- **A written view answers as the journal did.**  The view keeps the classification and the
operation id of every entry, and the view of a view is the view.  A load takes it exactly when it
has no more entries than a file may have and encodes within the budget once the entries are
stamped; then every completed key keeps its receipt, and every other key is refused. -/
theorem durableView_restarts (journal : Table String Value) :
    (∀ key, ((opJournalDurableView journal).lookup key).map
          (fun entry => (opJournalEntryState entry, entry.get "operation_id")) =
        (journal.lookup key).map fun entry =>
          (opJournalEntryState entry, entry.get "operation_id")) ∧
      opJournalDurableView (opJournalDurableView journal) = opJournalDurableView journal ∧
      (∀ now loaded, boundOpJournal env now (opJournalDurableView journal) = .ok loaded ↔
        loaded = boundedEntries now (opJournalDurableView journal) ∧
          journal.entries.length ≤ maxOpJournalEntries ∧
          ∃ bytes ≤ maxOpJournalFileBytes, env.encode loaded = .ok bytes) ∧
      ∀ s, s.primary = some (opJournalDurableView journal) → (restart env s).degraded = none →
        ∀ key entry, (opJournalDurableView journal).lookup key = some entry →
          AnswersAs env key entry (restart env s) := by
  refine ⟨fun key => ?_, ?_, fun now loaded => ?_, fun s written healthy key entry found => ?_⟩
  · rw [opJournalDurableView, Table.lookup_mapValues, Option.map_map]
    refine congrArg (Option.map · _) (funext fun entry => ?_)
    simp only [Function.comp, opJournalEntryState_durableEntry, Prod.mk.injEq, true_and]
    rw [durableEntry]
    split_ifs
    · rfl
    · rfl
  · apply AList.ext
    simp only [opJournalDurableView, Table.mapValues, List.map_map, Function.comp_def,
      durableEntry_idem]
  · rw [boundOpJournal_ok_iff, opJournalDurableView, Table.length_mapValues]
  · rw [opJournalDurableView, Table.lookup_mapValues] at found
    obtain ⟨value, -, rfl⟩ := Option.map_eq_some_iff.mp found
    cases restart_cases env s with
    | fresh absent => cases absent.symm.trans written
    | failed _ _ degraded => cases degraded.symm.trans healthy
    | loaded source now origin entries =>
      obtain rfl : source = opJournalDurableView journal := by
        rcases origin with same | absent
        · exact Option.some.inj (same.symm.trans written)
        · cases absent.symm.trans written
      have there : (restart env s).entries.lookup key =
          some (boundEntry now (durableEntry value)) := by
        rw [entries, boundedEntries, Table.lookup_mapValues, opJournalDurableView,
          Table.lookup_mapValues, found, Option.map_some]
      exact answersAs_boundEntry there

/-- One entry more than a file may hold. -/
def crowdedJournal : Table String Value where
  entries := (List.range (maxOpJournalEntries + 1)).map fun n =>
    ⟨String.ofList (List.replicate n 'k'), .null⟩
  nodupKeys := by
    show (List.keys _).Nodup
    rw [List.keys, List.map_map]
    exact List.nodup_range.map fun a b same => by simpa using congrArg String.length same

/-- The view has an entry for each entry of the journal, however many there are. -/
theorem durableView_crowded :
    maxOpJournalEntries < (opJournalDurableView crowdedJournal).entries.length := by
  simp [opJournalDurableView, crowdedJournal]

end Effects

end OwnMesh.OpJournal
