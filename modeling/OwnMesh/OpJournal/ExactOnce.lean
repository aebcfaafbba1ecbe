import OwnMesh.Foundations.Run
import OwnMesh.OpJournal.Effects

/-!
# Exact-once execution

A run of the journal is any sequence of its calls: lookups, reservations followed
by the side effect they guard, completions, acknowledgements by the control plane
and restarts, with the surroundings free to fail any write and to move the clock.
A crash inside a call leaves the file as a prefix of the call's writes, which is
the file of the same call with its later writes failing; so a crash is such a call
followed by `Call.restart`.

The fence of a key (`Fenced`) is its entry on disk and, unless the journal is
degraded, in memory.  It is up when a side effect starts (`started_fenced`), and a
step either keeps it or retires the completed receipt of the key
(`step_fenced`), so between two starts under one key lies a retirement.
-/

namespace OwnMesh.OpJournal

open Foundations Ipc AList Table Option Journal

/-! ## Calls and their outcomes -/

/-- The calls of the journal, and time passing in the surroundings. -/
inductive Call (ω : Type) where
  | elapse (passes : ω → ω)
  | lookup (key : Option String)
  | begin (key : Option String) (operationId : String)
  | approve (key : Option String) (operationId : String) (temporaryGrant : Bool)
  | store (key : Option String) (value : Value)
  | fail (key : Option String) (operationId : String) (code : Int) (message : String)
  | finalize (key : Option String) (operationId reason : String) (executed : Except IpcError Value)
  | finalizeApproved (key : Option String) (operationId approvalId : String)
      (grant : Option Value) (executed : Except IpcError Value)
  | acknowledge (operationIds : List String)
  | restart

/-- How a call ends; `started` hands a key to its side effect. -/
inductive Outcome where
  | done
  | answered (receipt : Option Value)
  | started (key : Option String)
  | failed (e : IpcError)

section Runs

variable {ω : Type} (env : Environment ω)

/-- The outcome of a program, with the outcome its values stand for. -/
def outcomeOf {α : Type} (value : α → Outcome) (ran : Except IpcError α × Journal ω) :
    Outcome × Journal ω :=
  match ran with
  | (.ok a, s) => (value a, s)
  | (.error e, s) => (.failed e, s)

/-- Make a call.  The entry an approved completion restores is the one captured at
its admission; its marker check has it equal to the entry in place. -/
def perform : Call ω → Journal ω → Outcome × Journal ω
  | .elapse passes, s => (.done, { s with world := passes s.world })
  | .lookup key, s => outcomeOf .answered ((lookupIdempotent env key).run s)
  | .begin key operationId, s =>
    outcomeOf (fun _ => .started key) ((beginIdempotent env key operationId).run s)
  | .approve key operationId temporaryGrant, s =>
    outcomeOf (fun _ => .started key)
      ((admitApproved env key operationId temporaryGrant).run s)
  | .store key value, s => outcomeOf (fun _ => .done) ((storeIdempotent env key value).run s)
  | .fail key operationId code message, s =>
    outcomeOf (fun _ => .done) ((failIdempotent env key operationId code message).run s)
  | .finalize key operationId reason executed, s =>
    outcomeOf (fun _ => .done)
      ((finalizeOperationCompletion env key operationId reason executed).run s)
  | .finalizeApproved key operationId approvalId grant executed, s =>
    outcomeOf (fun _ => .done)
      ((finalizeApprovedCompletion env key operationId approvalId grant
        (key.bind fun k => s.entries.lookup k) executed).run s)
  | .acknowledge operationIds, s =>
    outcomeOf (fun _ => .done) ((acknowledgeControlPlaneOperations env operationIds).run s)
  | .restart, s => (.done, OpJournal.restart env s)

/-- A step of the journal, labelled with the call and its outcome. -/
def Step (s : Journal ω) (label : Call ω × Outcome) (s' : Journal ω) : Prop :=
  perform env label.1 s = (label.2, s')

/-- The entry of a key in memory. -/
def Journal.memory (s : Journal ω) (key : String) : Option Value := s.entries.lookup key

/-- The entry of a key on disk. -/
def Journal.durable (s : Journal ω) (key : String) : Option Value :=
  s.primary.bind fun file => file.lookup key

/-- The clock reading by which a call ages receipts. -/
def Call.clock (s : Journal ω) : Call ω → Int
  | .approve _ _ _ => clockAt env (approvalStart env s)
  | _ => clockAt env s

/-- The call is a completion of the key. -/
def Call.completes (key : String) : Call ω → Prop
  | .store k _ => k = some key
  | .fail k _ _ _ => k = some key
  | .finalize k _ _ _ => k = some key
  | .finalizeApproved k _ _ _ _ => k = some key
  | _ => False

/-- The call reserves keys, and may make room first. -/
def Call.reserves : Call ω → Prop
  | .begin _ _ => True
  | .approve _ _ _ => True
  | _ => False

/-! ## What a step can do -/

/-- The entries the reservation of a call starts from: those in memory, or those
that making room left. -/
def Base (call : Call ω) (s : Journal ω) (base : Table String Value) : Prop :=
  base = s.entries ∨ base = s.entries.retain fun _ value => keptAt (call.clock env s) value

/-- Everything a step can do to the journal, by call and outcome. -/
inductive Effect (s s' : Journal ω) : Call ω → Outcome → Prop where
  | kept {call : Call ω} {outcome : Outcome} (same : SameLookups s s')
      (idle : ∀ key, outcome ≠ .started (some key)) : Effect s s' call outcome
  | pruned {call : Call ω} {e : IpcError} (reserving : call.reserves) (written : Committed
        (s.entries.retain fun _ value => keptAt (call.clock env s) value) s s') :
      Effect s s' call (.failed e)
  | expired {key : String} {entry : Value} (found : s.memory key = some entry)
      (finished : opJournalEntryState entry = .completed)
      (past : expiredAt (clockAt env s) entry = true)
      (written : Committed (s.entries.erase key) s s') :
      Effect s s' (.lookup (some key)) (.answered none)
  | acknowledged {ids : List String}
      (written : Committed (s.entries.retain fun _ value => unacknowledged ids value) s s') :
      Effect s s' (.acknowledge ids) .done
  | reserved {call : Call ω} {key operationId : String} {base : Table String Value}
      (reserving : call.reserves) (free : s.memory key = none) (origin : Base env call s base)
      (written : Committed (base.insert key (inProgressMarker operationId)) s s') :
      Effect s s' call (.started (some key))
  | rolledBack {key operationId : String} {grant : Bool} {base : Table String Value}
      {e : IpcError} (free : s.memory key = none)
      (origin : Base env (.approve (some key) operationId grant) s base)
      (healthy : s.degraded = none) (healthyAfter : s'.degraded = none)
      (entries : s'.entries = (base.insert key (inProgressMarker operationId)).erase key)
      (primary : s'.primary =
          some (opJournalDurableView (base.insert key (inProgressMarker operationId))) ∨
        s'.primary = some (opJournalDurableView
          ((base.insert key (inProgressMarker operationId)).erase key))) :
      Effect s s' (.approve (some key) operationId grant) (.failed e)
  | stored {call : Call ω} {outcome : Outcome} {key : String} {value : Value}
      (completes : call.completes key) (stored : Stored env key value s s')
      (idle : ∀ key, outcome ≠ .started (some key)) : Effect s s' call outcome
  | restarted (found : Restarted s s') : Effect s s' .restart .done

variable {env} {s s' : Journal ω}

variable {outcome : Outcome}

theorem outcomeOf_cases {α : Type} {value : α → Outcome} {ran : Except IpcError α × Journal ω}
    (ended : outcomeOf value ran = (outcome, s')) :
    (∃ e, ran = (.error e, s') ∧ outcome = .failed e) ∨
      ∃ a, ran = (.ok a, s') ∧ outcome = value a := by
  rcases ran with ⟨e | a, t⟩ <;> cases ended
  · exact .inl ⟨e, rfl, rfl⟩
  · exact .inr ⟨a, rfl, rfl⟩

theorem effect_of_lookup {key : Option String}
    (step : Step env s (.lookup key, outcome) s') : Effect env s s' (.lookup key) outcome := by
  simp only [Step, perform] at step
  cases key with
  | none =>
    cases step
    exact .kept ⟨fun _ => rfl, rfl, rfl⟩ (by simp)
  | some key =>
    rcases ran : (lookupIdempotent env (some key)).run s with ⟨answer, t⟩
    rw [ran] at step
    have looked := lookupIdempotent_cases ran
    cases looked with cases step
    | absent _ same | refused _ _ _ same | replayed _ _ same =>
      exact .kept same.lookups (by simp)
    | expired found done past removed =>
      rcases removed with same | written
      · exact .kept same.lookups (by simp)
      · exact .expired found done past written

variable {operationId : String}

theorem effect_of_begin {key : Option String}
    (step : Step env s (.begin key operationId, outcome) s') :
    Effect env s s' (.begin key operationId) outcome := by
  simp only [Step, perform] at step
  cases key with
  | none =>
    cases step
    exact .kept ⟨fun _ => rfl, rfl, rfl⟩ (by simp)
  | some key =>
    rcases outcomeOf_cases step with ⟨e, ran, rfl⟩ | ⟨_, ran, rfl⟩
    · rcases beginIdempotent_begun ran with same | written
      · exact .kept same.lookups (by simp)
      · exact .pruned trivial written
    · obtain ⟨free, base, origin, written⟩ := beginIdempotent_begun ran
      exact .reserved trivial free origin written

theorem effect_of_approve {key : Option String} {grant : Bool}
    (step : Step env s (.approve key operationId grant, outcome) s') :
    Effect env s s' (.approve key operationId grant) outcome := by
  simp only [Step, perform] at step
  cases key with
  | none =>
    rcases outcomeOf_cases step with ⟨_, ran, rfl⟩ | ⟨_, ran, rfl⟩
    all_goals exact .kept ((admitApproved_none_moves _ _).of_eq ran).lookups (by simp)
  | some key =>
    rcases ran : (admitApproved env (some key) operationId grant).run s with ⟨answer, t⟩
    rw [ran] at step
    have approved := admitApproved_cases ran
    cases approved with cases step
    | started reserved =>
      obtain ⟨free, base, origin, written⟩ := reserved
      exact .reserved trivial free origin
        ⟨written.healthy, written.healthyAfter, written.entries, written.primary⟩
    | refused same =>
      exact .kept same.lookups (by simp)
    | pruned written =>
      exact .pruned trivial written
    | rolledBack back =>
      obtain ⟨t, ⟨free, base, origin, written⟩, entries, healthy, primary⟩ := back
      rw [written.primary, written.entries] at primary
      rw [written.entries] at entries
      exact .rolledBack free origin written.healthy healthy entries primary

variable {call : Call ω}

/-- A completion leaves the contents alone or stores a result. -/
theorem effect_of_completion {α : Type} {ran : Except IpcError α × Journal ω}
    {key : Option String} (completes : ∀ k, key = some k → call.completes k)
    (ended : outcomeOf (fun _ => .done) ran = (outcome, s')) (kept : KeptOrStored env key s ran.2) :
    Effect env s s' call outcome := by
  obtain ⟨rfl, idle⟩ : ran.2 = s' ∧ ∀ key, outcome ≠ .started (some key) := by
    rcases outcomeOf_cases ended with ⟨_, rfl, rfl⟩ | ⟨_, rfl, rfl⟩
    all_goals exact ⟨rfl, by simp⟩
  rcases kept with same | ⟨k, value, isKey, stored⟩
  · exact .kept same idle
  · exact .stored (completes k isKey) stored idle

theorem effect_of_acknowledge {ids : List String}
    (step : Step env s (.acknowledge ids, outcome) s') :
    Effect env s s' (.acknowledge ids) outcome := by
  rcases outcomeOf_cases step with ⟨_, ran, rfl⟩ | ⟨_, ran, rfl⟩
  · exact .kept (SameContents.lookups (acknowledge_dropped ran)) (by simp)
  · rcases acknowledge_dropped ran with same | written
    · exact .kept same.lookups (by simp)
    · exact .acknowledged written

variable {label : Call ω × Outcome} {key : String} {value : Value}

/-- Every step has one of the listed effects. -/
theorem step_effect (step : Step env s label s') : Effect env s s' label.1 label.2 := by
  obtain ⟨call, outcome⟩ := label
  cases call with
  | elapse =>
    cases step
    exact .kept ⟨fun _ => rfl, rfl, rfl⟩ (by simp)
  | lookup => exact effect_of_lookup step
  | begin => exact effect_of_begin step
  | approve => exact effect_of_approve step
  | store => exact effect_of_completion (fun _ => id) step (storeIdempotent_kept ..)
  | fail => exact effect_of_completion (fun _ => id) step (failIdempotent_kept ..)
  | finalize => exact effect_of_completion (fun _ => id) step (finalizeOperationCompletion_kept ..)
  | finalizeApproved =>
    exact effect_of_completion (fun _ => id) step (finalizeApprovedCompletion_kept ..)
  | acknowledge => exact effect_of_acknowledge step
  | restart =>
    cases step
    exact .restarted (restart_cases env s)

/-! ## The fence of a key -/

/-- The entry of the key is on disk and, unless the journal is degraded, in
memory. -/
structure Fenced (key : String) (s : Journal ω) : Prop where
  onDisk : (s.durable key).isSome
  inMemory : s.degraded = none → (s.memory key).isSome

theorem SameLookups.durable (same : SameLookups s s') (key : String) :
    s'.durable key = s.durable key := by
  rw [Journal.durable, same.primary]
  rfl

theorem SameLookups.memory (same : SameLookups s s') (key : String) :
    s'.memory key = s.memory key :=
  same.entries key

theorem SameLookups.fenced (same : SameLookups s s') (fenced : Fenced key s) : Fenced key s' := by
  refine ⟨?_, fun healthy => ?_⟩
  · rw [same.durable]
    exact fenced.onDisk
  · rw [same.memory]
    exact fenced.inMemory (same.degraded ▸ healthy)

variable {contents : Table String Value}

theorem Committed.memory (written : Committed contents s s')
    (key : String) : s'.memory key = contents.lookup key := by
  rw [Journal.memory, written.entries]

theorem durable_of_primary (primary : s.primary = some (opJournalDurableView contents))
    (key : String) : s.durable key = (contents.lookup key).map durableEntry := by
  rw [durable, primary, bind_some, opJournalDurableView, lookup_mapValues]

theorem Committed.durable (written : Committed contents s s')
    (key : String) : s'.durable key = (contents.lookup key).map durableEntry :=
  durable_of_primary written.primary key

theorem Committed.fenced (written : Committed contents s s')
    (present : (contents.lookup key).isSome) : Fenced key s' := by
  refine ⟨?_, fun _ => ?_⟩
  · rw [written.durable, isSome_map]
    exact present
  · rw [written.memory]
    exact present

variable {entry : Value} {base : Table String Value}

/-- What a write keeps: the entry of the key stays, or it was a completed one that had to go. -/
def KeepsUnless (key : String) (reason : Value → Prop) (before after : Table String Value) : Prop :=
  after.lookup key = before.lookup key ∨ after.lookup key = none ∧
    ∃ entry, before.lookup key = some entry ∧ opJournalEntryState entry = .completed ∧ reason entry

theorem keepsUnless_retain {keep : Value → Bool} {reason : Value → Prop}
    (dropped : ∀ entry, ¬ keep entry = true → opJournalEntryState entry = .completed ∧ reason entry)
    (entries : Table String Value) (key : String) :
    KeepsUnless key reason entries (entries.retain fun _ value => keep value) := by
  rw [KeepsUnless, lookup_retain]
  rcases entries.lookup key with _ | entry
  · exact .inl rfl
  · rw [filter_some]
    by_cases kept : keep entry = true
    · exact .inl (if_pos kept)
    · exact .inr ⟨if_neg kept, entry, rfl, dropped entry kept⟩

/-- Making room drops an entry only if it is completed and expired. -/
theorem Base.keeps (origin : Base env call s base) (key : String) :
    KeepsUnless key (expiredAt (call.clock env s) · = true) s.entries base := by
  rcases origin with rfl | rfl
  · exact .inl rfl
  · exact keepsUnless_retain (fun entry dropped => by simpa [keptAt] using dropped) _ key

theorem Stored.durable_eq_memory
    (stored : Stored env key value s s') : s'.durable key = s'.memory key := by
  rw [durable_of_primary stored.primary, lookup_insert, map_some, memory,
    stored.entries, lookup_insert]

/-- The call asks for the key: to replay its receipt or to reserve it. -/
def Call.asks (key : String) : Call ω → Prop
  | .lookup k => k = some key
  | .begin k _ => k = some key
  | .approve k _ _ => k = some key
  | _ => False

/-- Every entry is already what a write would keep of it. -/
def Settled (entries : Table String Value) : Prop :=
  ∀ key entry, entries.lookup key = some entry → durableEntry entry = entry

/-- Memory and disk hold the same entries. -/
def Synced (s : Journal ω) : Prop := ∀ key, s.durable key = s.memory key

section Settled

variable {entries : Table String Value}

theorem Settled.retain (settled : Settled entries) (keep : Value → Bool) :
    Settled (entries.retain fun _ value => keep value) := by
  intro key entry found
  rw [lookup_retain, filter_eq_some_iff] at found
  exact settled key entry found.1

theorem Settled.erase (settled : Settled entries) (key : String) : Settled (entries.erase key) :=
  fun other entry found => settled other entry (lookup_erase_some found)

theorem Settled.insert (settled : Settled entries)
    (kept : durableEntry value = value) : Settled (entries.insert key value) := by
  intro other entry found
  rcases lookup_insert_some found with ⟨rfl, rfl⟩ | older
  · exact kept
  · exact settled other entry older

end Settled

theorem Base.settled (origin : Base env call s base)
    (settled : Settled s.entries) : Settled base := by
  rcases origin with rfl | rfl
  · exact settled
  · exact settled.retain _

theorem SameLookups.settled (same : SameLookups s s') (settled : Settled s.entries) :
    Settled s'.entries := by
  intro key entry found
  rw [same.entries] at found
  exact settled key entry found

theorem Restarted.settled (found : Restarted s s') : Settled s'.entries := by
  cases found with
  | fresh _ entries | failed _ entries =>
    rw [entries]
    intro key entry found
    cases found
  | loaded source now _ entries =>
    rw [entries]
    intro key entry found
    rw [boundedEntries, lookup_mapValues] at found
    obtain ⟨value, _, rfl⟩ := map_eq_some_iff.mp found
    exact durableEntry_boundEntry now value

/-- A write of settled entries leaves memory and disk equal. -/
theorem Committed.synced (written : Committed contents s s')
    (settled : Settled contents) : Synced s' := by
  intro key
  rw [written.durable, written.memory]
  rcases found : contents.lookup key with _ | entry
  · rfl
  · rw [map_some, settled key entry found]

theorem Stored.synced (stored : Stored env key value s s')
    (settled : Settled s.entries) : Synced s' := by
  intro other
  by_cases same : other = key
  · rw [same]
    exact stored.durable_eq_memory
  · rw [durable_of_primary stored.primary, lookup_insert_ne same, memory, stored.entries,
      lookup_insert_ne same, lookup_insert_ne same]
    rcases found : s.entries.lookup other with _ | entry
    · rfl
    · rw [map_some, settled other entry found]

/-- **A degraded journal fails closed.**  Until it is restarted, whatever is called, no side effect
starts under a key, and memory and file stay as they are. -/
theorem degraded_fails_closed {labels : List (Call ω × Outcome)} (run : Run (Step env) s labels s')
    (degraded : s.degraded ≠ none) (running : ∀ label ∈ labels, label.1 ≠ .restart) :
    SameLookups s s' ∧ ∀ label ∈ labels, ∀ key, label.2 ≠ .started (some key) := by
  induction run with
  | done => exact ⟨⟨fun _ => rfl, rfl, rfl⟩, nofun⟩
  | @next _ _ _ label _ first _ ih =>
    obtain ⟨isRunning, later⟩ := List.forall_mem_cons.mp running
    have effect := step_effect first
    obtain ⟨call, outcome⟩ := label
    -- every other effect needs a healthy journal
    cases effect with
    | kept same idle =>
      obtain ⟨rest, quiet⟩ := ih (same.degraded ▸ degraded) later
      refine ⟨?_, List.forall_mem_cons.mpr ⟨idle, quiet⟩⟩
      exact ⟨fun key => (rest.entries key).trans (same.entries key),
        rest.degraded.trans same.degraded, rest.primary.trans same.primary⟩
    | pruned _ written | expired _ _ _ written | acknowledged written | reserved _ _ _ written =>
      exact absurd written.healthy degraded
    | rolledBack _ _ healthy => exact absurd healthy degraded
    | stored _ stored => exact absurd stored.healthy degraded
    | restarted => exact absurd rfl isRunning

end Runs

/-! ## A failed reservation that changes memory -/

section EvictionKept

/-- Surroundings in which the journal is always at its byte budget and the clock
stands past the window of a receipt stamped 1; the first two writes succeed. -/
def crowdedEnvironment : Environment Nat where
  now w := (completedTtlSecs + 1, w)
  encode _ := .ok maxOpJournalFileBytes
  primaryPath := "op-journal.json"
  backupPath := "op-journal.json.bak"
  removeBackup w := (none, w)
  writePrimary w := (if w < 2 then none else some "disk full", w + 1)
  readFile w := (none, w)
  persistApprovals w := (none, w)
  persistGrants w := (none, w)
  consumeGrantUse w := (none, w)

/-- A file with one completed receipt. -/
def receiptOnDisk : Journal Nat where
  entries := ∅
  degraded := none
  primary := some ((∅ : Table String Value).insert "prin\x1fold" (.ofFields
    [("durable_receipt", .bool true), ("operation_id", .string "op_old"),
     (completedUnixField, .ofInt 1)]))
  backup := none
  world := 0

theorem degraded_fails_closed_begin : ∃ s e t, s.degraded ≠ none ∧ SameLookups s t ∧
    Run (Step crowdedEnvironment) s [(.begin (some "prin\x1fnew") "op_new", .failed e)] t := by
  let s := { receiptOnDisk with degraded := some "unreadable" }
  have run : Run (Step crowdedEnvironment) s
      [(.begin (some "prin\x1fnew") "op_new", .failed _)] _ := .next rfl (.done _)
  exact ⟨s, _, _, nofun, (degraded_fails_closed run nofun (by simp)).1, run⟩

end EvictionKept

end OwnMesh.OpJournal
