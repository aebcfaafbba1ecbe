import OwnMesh.Broker.Effects
import OwnMesh.Foundations.Run

/-!
# Replay safety of the broker's ledger

A run is any sequence of calls and restarts: file operations fail at any point, the
broker crashes in the middle of a call, power is lost before the directory is
synchronised, and the first file may be absent, of the old version or of this one.  Only
the clock does not go back.  In every run (`replay_safe`)

* a nonce is not reserved again before the window of its reservation is over;
* between two successful `mark_spawned` of a nonce a new reservation of it was recorded;
* an uncertain entry stays, in memory and in everything a crash may bring back, until a
  call settles it by name, with success or with a write that fails, and then its
  reservation stays;
* after a failed write every call fails until the ledger is opened again.

What can become of the entry of a nonce in one call is said once, by `Fate`; each of the
statements is an invariant read off it and carried along the run.
-/

namespace OwnMesh.Broker

open Foundations AList Option

variable {ω : Type} {env : Environment ω}

/-! ## The fate of one entry -/

/-- Two entries of the same reservation. -/
def SameReservation (entry later : LedgerEntry) : Prop :=
  later.digest = entry.digest ∧ later.reservedAtUnix = entry.reservedAtUnix ∧
    later.expiresAtUnix = entry.expiresAtUnix

/-- The call settles the outcome of the nonce. -/
def LedgerCall.Settles (nonce : String) : LedgerCall → Prop
  | .markCompleted settled _ => settled = nonce
  | .reconcile settled _ _ _ => settled = nonce
  | .reserve _ _ _ | .markSpawned _ _ _ => False

/-- What becomes of the entry of a nonce in the tables a call makes. -/
inductive Fate (nowUnix : Int) (entries : Entries) (call : LedgerCall) (nonce : String) :
    Option LedgerEntry → Prop
  | kept : Fate nowUnix entries call nonce (entries.lookup nonce)
  | expired {entry : LedgerEntry} (found : entries.lookup nonce = some entry)
      (settled : entry.state.isUncertain = false) (late : entry.expiresAtUnix < nowUnix) :
      Fate nowUnix entries call nonce none
  | reserved {digest : String} {expiresAtUnix : Int}
      (asked : call = .reserve nonce digest expiresAtUnix)
      (free : (unexpired nowUnix entries).lookup nonce = none) :
      Fate nowUnix entries call nonce (some (freshEntry digest expiresAtUnix nowUnix))
  | moved {entry later : LedgerEntry} (found : entries.lookup nonce = some entry)
      (same : SameReservation entry later) (past : later.state ≠ .reservedPreSpawn)
      (settling : later.state.isUncertain = true ∨ call.Settles nonce) :
      Fate nowUnix entries call nonce (some later)

theorem unexpired_lookup (nowUnix : Int) (entries : Entries) (nonce : String) :
    (unexpired nowUnix entries).lookup nonce = (entries.lookup nonce).filter fun entry =>
      entry.state.isUncertain || decide (nowUnix ≤ entry.expiresAtUnix) :=
  Table.lookup_retain _ _ _

variable {nowUnix : Int} {entries : Entries} {nonce : String} {entry : LedgerEntry}

/-- An entry stays when it is uncertain or its window is open. -/
theorem unexpired_lookup_of_live (found : entries.lookup nonce = some entry)
    (live : entry.state.isUncertain = true ∨ nowUnix ≤ entry.expiresAtUnix) :
    (unexpired nowUnix entries).lookup nonce = some entry := by
  rw [unexpired_lookup, found, filter_some, if_pos]
  rwa [Bool.or_eq_true, decide_eq_true_iff]

theorem fate_of_unexpired (nowUnix : Int) (entries : Entries) (call : LedgerCall) (nonce : String) :
    Fate nowUnix entries call nonce ((unexpired nowUnix entries).lookup nonce) := by
  cases found : entries.lookup nonce with
  | none =>
    have absent : (unexpired nowUnix entries).lookup nonce = entries.lookup nonce := by
      rw [unexpired_lookup, found]
      rfl
    rw [absent]
    exact .kept
  | some entry =>
    by_cases live : entry.state.isUncertain = true ∨ nowUnix ≤ entry.expiresAtUnix
    · rw [unexpired_lookup_of_live found live, ← found]
      exact .kept
    · have gone : (unexpired nowUnix entries).lookup nonce = none := by
        rw [unexpired_lookup, found, filter_some, if_neg]
        rwa [Bool.or_eq_true, decide_eq_true_iff]
      rw [not_or, Bool.not_eq_true] at live
      rw [gone]
      exact .expired found live.1 (Int.not_le.mp live.2)

theorem sameReservation_spawned (processIdentity : Option (Nat × Nat)) (entry : LedgerEntry) :
    SameReservation entry (entry.spawned processIdentity) := by
  cases processIdentity <;> exact ⟨rfl, rfl, rfl⟩

theorem spawned_state (processIdentity : Option (Nat × Nat)) (entry : LedgerEntry) :
    (entry.spawned processIdentity).state = .spawnedUncertain := by
  cases processIdentity <;> rfl

variable {call : LedgerCall}

/-- A table with one entry replaced, seen at a nonce. -/
theorem fate_of_insert {changed : String} {later : LedgerEntry}
    (found : entries.lookup changed = some entry) (same : SameReservation entry later)
    (past : later.state ≠ .reservedPreSpawn)
    (settling : later.state.isUncertain = true ∨ call.Settles changed) :
    Fate nowUnix entries call nonce ((entries.insert changed later).lookup nonce) := by
  by_cases here : nonce = changed
  · subst here
    rw [lookup_insert]
    exact .moved found same past settling
  · rw [lookup_insert_ne here]
    exact .kept

variable {table : Entries}

/-- **Every table a call makes decides the fate of every nonce.** -/
theorem fate_of_made (made : Made nowUnix entries call table) (nonce : String) :
    Fate nowUnix entries call nonce (table.lookup nonce) := by
  cases made with
  | found => exact .kept
  | pruned => exact fate_of_unexpired nowUnix entries call nonce
  | performed done =>
    cases done with
    | @reserved reserved digest expiresAtUnix free =>
      by_cases here : nonce = reserved
      · subst here
        rw [lookup_insert]
        exact .reserved rfl free
      · rw [lookup_insert_ne here]
        exact fate_of_unexpired nowUnix entries _ nonce
    | spawned found =>
      refine fate_of_insert found (sameReservation_spawned _ _) ?_ (.inl ?_)
      · rw [spawned_state]
        decide
      · rw [spawned_state]
        rfl
    | completed found =>
      exact fate_of_insert found ⟨rfl, rfl, rfl⟩ nofun (.inr rfl)
    | @reconciled _ decision _ acknowledged prior _ found decided =>
      refine fate_of_insert found ⟨rfl, rfl, rfl⟩ ?_ (.inr rfl)
      revert decided
      cases decision <;> cases prior.state <;> cases acknowledged <;> rintro ⟨⟩ ⟨⟩

/-! ### What a table says of a nonce -/

/-- The table holds a reservation of the nonce that has not spawned. -/
def ReservedIn (nonce : String) (table : Entries) : Prop :=
  ∃ entry, table.lookup nonce = some entry ∧ entry.state = .reservedPreSpawn

/-- The table holds an entry of the nonce with the window. -/
def WindowIn (nonce : String) (expiresAtUnix : Int) (table : Entries) : Prop :=
  ∃ entry, table.lookup nonce = some entry ∧ entry.expiresAtUnix = expiresAtUnix

/-- The table holds the reservation, its outcome still uncertain. -/
def UncertainIn (nonce : String) (entry : LedgerEntry) (table : Entries) : Prop :=
  ∃ later, table.lookup nonce = some later ∧ SameReservation entry later ∧
    later.state.isUncertain = true

/-- The table holds the reservation. -/
def ReservationIn (nonce : String) (entry : LedgerEntry) (table : Entries) : Prop :=
  ∃ later, table.lookup nonce = some later ∧ SameReservation entry later

theorem UncertainIn.reservation (holds : UncertainIn nonce entry table) :
    ReservationIn nonce entry table := by
  obtain ⟨later, found, same, -⟩ := holds
  exact ⟨later, found, same⟩

variable {expiresAtUnix : Int}

theorem WindowIn.made (inTime : nowUnix ≤ expiresAtUnix) (made : Made nowUnix entries call table)
    (holds : WindowIn nonce expiresAtUnix entries) : WindowIn nonce expiresAtUnix table := by
  obtain ⟨entry, found, window⟩ := holds
  have fate := fate_of_made made nonce
  generalize outcome : table.lookup nonce = result at fate
  cases fate with
  | kept => exact ⟨entry, outcome.trans found, window⟩
  | expired found' =>
    obtain rfl := some.inj (found.symm.trans found')
    omega
  | reserved _ free =>
    rw [unexpired_lookup_of_live found (.inr (window ▸ inTime))] at free
    cases free
  | moved found' same =>
    obtain rfl := some.inj (found.symm.trans found')
    exact ⟨_, outcome, same.2.2.trans window⟩

theorem UncertainIn.made (made : Made nowUnix entries call table)
    (holds : UncertainIn nonce entry entries) :
    UncertainIn nonce entry table ∨ call.Settles nonce ∧ ReservationIn nonce entry table := by
  obtain ⟨later, found, same, uncertain⟩ := holds
  have fate := fate_of_made made nonce
  generalize outcome : table.lookup nonce = result at fate
  cases fate with
  | kept => exact .inl ⟨later, outcome.trans found, same, uncertain⟩
  | expired found' settled =>
    obtain rfl := some.inj (found.symm.trans found')
    rw [uncertain] at settled
    cases settled
  | reserved _ free =>
    rw [unexpired_lookup_of_live found (.inl uncertain)] at free
    cases free
  | moved found' same' _ settling =>
    obtain rfl := some.inj (found.symm.trans found')
    have kept : SameReservation entry _ :=
      ⟨same'.1.trans same.1, same'.2.1.trans same.2.1, same'.2.2.trans same.2.2⟩
    exact settling.imp (fun stillUncertain => ⟨_, outcome, kept, stillUncertain⟩)
      fun settles => ⟨settles, _, outcome, kept⟩

/-- Pruning keeps what is uncertain. -/
theorem UncertainIn.pruned (pruned : Pruned nowUnix entries table)
    (holds : UncertainIn nonce entry entries) : UncertainIn nonce entry table := by
  rcases pruned with rfl | rfl
  · exact holds
  · obtain ⟨later, found, same, uncertain⟩ := holds
    exact ⟨later, unexpired_lookup_of_live found (.inl uncertain), same, uncertain⟩

theorem not_reservedIn_made (made : Made nowUnix entries call table)
    (other : ∀ digest expiresAtUnix, call ≠ .reserve nonce digest expiresAtUnix)
    (holds : ¬ ReservedIn nonce entries) : ¬ ReservedIn nonce table := by
  rintro ⟨entry, found, state⟩
  have fate := fate_of_made made nonce
  rw [found] at fate
  generalize outcome : some entry = result at fate
  cases fate with
  | kept => exact holds ⟨entry, outcome.symm, state⟩
  | expired => cases outcome
  | reserved asked => exact other _ _ asked
  | moved _ _ past =>
    cases outcome
    exact past state

/-! ## Steps -/

/-- An open ledger that was not closed by a failure has the entries of its file. -/
def Sound (b : BrokerState ω) : Prop :=
  ∀ ledger, b.ledger = some ledger → ledger.failedClosed = false → Ready ledger b.disk

/-- A call in a sound state: refused by a closed ledger, or one of the ends of a ready
one. -/
inductive Called (call : LedgerCall) (nowUnix : Int) (a : BrokerState ω) :
    Except ReplayLedgerError Unit → Bool → BrokerState ω → Prop
  | refused {ledger : ReplayLedger} (isOpen : a.ledger = some ledger)
      (closed : ledger.failedClosed = true) :
      Called call nowUnix a (.error .failedClosed) false
        { clock := nowUnix, disk := a.disk, ledger := some ledger }
  | ended {ledger : ReplayLedger} {answer : Except ReplayLedgerError Unit} {t : OpenLedger ω}
      (isOpen : a.ledger = some ledger) (ready : Ready ledger a.disk)
      (ends : Ended nowUnix call { ledger := ledger, disk := a.disk } (answer, t)) :
      Called call nowUnix a answer
        (decide (a.disk.persistFailures < t.disk.persistFailures))
        { clock := nowUnix, disk := t.disk, ledger := some t.ledger }

variable {a b : BrokerState ω} {answer : Except ReplayLedgerError Unit} {failed : Bool}

theorem called_of_step (sound : Sound a)
    (step : LedgerStep env a (.called call nowUnix answer failed) b) :
    a.clock ≤ nowUnix ∧ Called call nowUnix a answer failed b := by
  cases step with
  | @call ledger isOpen _ _ later _ t ran =>
    refine ⟨later, ?_⟩
    by_cases closed : ledger.failedClosed = true
    · rw [perform_failedClosed call nowUnix closed] at ran
      cases ran
      rw [show decide (a.disk.persistFailures < a.disk.persistFailures) = false by simp]
      exact .refused isOpen closed
    · have ready := sound ledger isOpen (Bool.not_eq_true _ ▸ closed)
      refine .ended isOpen ready ?_
      rw [← ran]
      exact perform_ends call nowUnix ready

theorem sound_called (called : Called call nowUnix a answer failed b) : Sound b := by
  intro ledger isOpen available
  cases called with
  | refused _ closed =>
    obtain rfl := some.inj isOpen
    rw [closed] at available
    cases available
  | ended _ _ ends =>
    obtain rfl := some.inj isOpen
    cases ends with
    | performed _ _ contents => exact ⟨available, _, file_of_contents contents, rfl⟩
    | refused ready => exact ready
    | closed closed =>
      rw [closed] at available
      cases available

variable {event : LedgerEvent}

theorem sound_step (sound : Sound a) (step : LedgerStep env a event b) : Sound b := by
  cases event with
  | called => exact sound_called (called_of_step sound step).2
  | reopened maxEntries =>
    cases step with
    | @reopen _ answer disk ran =>
      intro ledger isOpen _
      have opened := (reopen_opened env maxEntries a.disk).2
      rw [ran] at opened
      cases answer with
      | error => cases isOpen
      | ok ledger' =>
        obtain rfl := some.inj isOpen
        exact opened ledger' rfl

section

variable {α : Type} {s t : OpenLedger ω} {answer : Except ReplayLedgerError α}
  (ends : Ended nowUnix call s (answer, t))
include ends

/-- What a call shows afterwards it made or was there. -/
theorem Ended.shown : ShowsOnly (Made nowUnix s.ledger.entries call) s.disk t.disk := by
  cases ends with
  | performed done _ contents =>
    intro table shown
    obtain rfl := shows_of_contents contents shown
    exact .inl (.performed done)
  | refused _ _ shown => exact shown.mono fun _ => Pruned.made
  | closed _ _ shown => exact shown

theorem Ended.made : Made nowUnix s.ledger.entries call t.ledger.entries := by
  cases ends with
  | performed done => exact .performed done
  | refused _ pruned => exact pruned.made
  | closed _ made => exact made

end

/-- A property of tables that the call keeps stays a property of all a crash may show. -/
theorem durably_called {P : Entries → Prop}
    (keeps : ∀ entries table, Made nowUnix entries call table → P entries → P table)
    (called : Called call nowUnix a answer failed b) (holds : a.disk.Durably P) :
    b.disk.Durably P := by
  cases called with
  | refused => exact holds
  | ended _ ready ends =>
    intro table shown
    rcases ends.shown table shown with made | before
    · exact keeps _ table made (holds _ ready.shows_)
    · exact holds table before

theorem durably_reopened {P : Entries → Prop} {maxEntries : Nat}
    (step : LedgerStep env a (.reopened maxEntries) b) (holds : a.disk.Durably P) :
    b.disk.Durably P := by
  cases step with
  | @reopen _ answer disk ran =>
    intro table shown
    have opened := (reopen_opened env maxEntries a.disk).1
    rw [ran] at opened
    exact holds table ((opened table shown).resolve_left id)

/-- A successful call is performed, and its table is all a crash may show. -/
theorem performed_of_step (sound : Sound a)
    (step : LedgerStep env a (.called call nowUnix (.ok ()) failed) b) :
    ∃ entries table, a.disk.Shows entries ∧ Performed nowUnix entries call table ∧
      ∀ shown, b.disk.Shows shown → shown = table := by
  cases (called_of_step sound step).2 with
  | @ended ledger _ t isOpen ready ends =>
    cases ends with
    | performed done _ contents =>
      exact ⟨_, _, ready.shows_, done, fun shown now => shows_of_contents contents now⟩

theorem clock_called (called : Called call nowUnix a answer failed b) : b.clock = nowUnix := by
  cases called <;> rfl

/-! ## Reservations -/

/-- A successful reservation of the nonce, with its window and its time. -/
def LedgerEvent.Reserves (nonce : String) (expiresAtUnix nowUnix : Int) (event : LedgerEvent) :
    Prop :=
  ∃ digest failed, event = .called (.reserve nonce digest expiresAtUnix) nowUnix (.ok ()) failed

/-- The window of the nonce is recorded as long as it is open. -/
def Recorded (nonce : String) (expiresAtUnix : Int) (b : BrokerState ω) : Prop :=
  b.clock ≤ expiresAtUnix → b.disk.Durably (WindowIn nonce expiresAtUnix)

theorem recorded_step (holds : Sound a ∧ Recorded nonce expiresAtUnix a)
    (step : LedgerStep env a event b) : Sound b ∧ Recorded nonce expiresAtUnix b := by
  obtain ⟨sound, recorded⟩ := holds
  refine ⟨sound_step sound step, fun inTime => ?_⟩
  cases event with
  | called =>
    obtain ⟨later, called⟩ := called_of_step sound step
    rw [clock_called called] at inTime
    exact durably_called (fun _ _ made => WindowIn.made inTime made) called
      (recorded (Int.le_trans later inTime))
  | reopened =>
    have same : b.clock = a.clock := by
      cases step
      rfl
    exact durably_reopened step (recorded (same ▸ inTime))

theorem recorded_of_reserves (sound : Sound a) (step : LedgerStep env a event b)
    (reserves : event.Reserves nonce expiresAtUnix nowUnix) : Recorded nonce expiresAtUnix b := by
  obtain ⟨digest, failed, rfl⟩ := reserves
  obtain ⟨entries, table, -, done, only⟩ := performed_of_step sound step
  intro _ shown now
  obtain rfl := only shown now
  cases done with
  | reserved => exact ⟨_, lookup_insert _, rfl⟩

/-- A nonce whose window is recorded and open cannot be reserved. -/
theorem late_of_reserves {later : Int} (sound : Sound a) (recorded : Recorded nonce expiresAtUnix a)
    (step : LedgerStep env a event b)
    (reserves : event.Reserves nonce later nowUnix) : expiresAtUnix < nowUnix := by
  obtain ⟨digest, failed, rfl⟩ := reserves
  obtain ⟨entries, table, shown, done, -⟩ := performed_of_step sound step
  by_contra inTime
  have inTime := Int.not_lt.mp inTime
  obtain ⟨entry, found, window⟩ :=
    recorded (Int.le_trans (called_of_step sound step).1 inTime) entries shown
  cases done with
  | reserved free =>
    rw [unexpired_lookup_of_live found (.inr (window ▸ inTime))] at free
    cases free

/-! ## Spawns -/

/-- A successful `mark_spawned` of the nonce. -/
def LedgerEvent.Spawns (nonce : String) (event : LedgerEvent) : Prop :=
  ∃ digest processIdentity nowUnix failed,
    event = .called (.markSpawned nonce digest processIdentity) nowUnix (.ok ()) failed

/-- The step records a reservation of a nonce that no file of the ledger had. -/
def RecordsReservation (nonce : String) (a : BrokerState ω) (event : LedgerEvent)
    (b : BrokerState ω) : Prop :=
  (∃ digest expiresAtUnix nowUnix answer failed,
    event = .called (.reserve nonce digest expiresAtUnix) nowUnix answer failed) ∧
  a.disk.Durably (fun table => ¬ ReservedIn nonce table) ∧
  ∃ table, b.disk.Shows table ∧ ReservedIn nonce table

theorem unreserved_step (holds : Sound a ∧ a.disk.Durably fun table => ¬ ReservedIn nonce table)
    (step : LedgerStep env a event b) :
    (Sound b ∧ b.disk.Durably fun table => ¬ ReservedIn nonce table) ∨
      RecordsReservation nonce a event b := by
  obtain ⟨sound, unreserved⟩ := holds
  by_cases still : b.disk.Durably fun table => ¬ ReservedIn nonce table
  · exact .inl ⟨sound_step sound step, still⟩
  refine .inr ⟨?_, unreserved, by simpa [Disk.Durably] using still⟩
  cases event with
  | reopened => exact absurd (durably_reopened step unreserved) still
  | called call nowUnix answer failed =>
    by_contra other
    refine still (durably_called (fun _ _ made => not_reservedIn_made made ?_)
      (called_of_step sound step).2 unreserved)
    rintro digest expiresAtUnix rfl
    exact other ⟨digest, expiresAtUnix, nowUnix, answer, failed, rfl⟩

theorem unreserved_of_spawns (sound : Sound a) (step : LedgerStep env a event b)
    (spawns : event.Spawns nonce) : b.disk.Durably fun table => ¬ ReservedIn nonce table := by
  obtain ⟨digest, processIdentity, nowUnix, failed, rfl⟩ := spawns
  obtain ⟨entries, table, -, done, only⟩ := performed_of_step sound step
  rintro shown now ⟨entry, found, state⟩
  obtain rfl := only shown now
  cases done with
  | spawned =>
    rw [lookup_insert] at found
    cases found
    rw [spawned_state] at state
    cases state

theorem reserved_of_spawns (sound : Sound a) (step : LedgerStep env a event b)
    (spawns : event.Spawns nonce) : ¬ a.disk.Durably fun table => ¬ ReservedIn nonce table := by
  obtain ⟨digest, processIdentity, nowUnix, failed, rfl⟩ := spawns
  obtain ⟨entries, table, shown, done, -⟩ := performed_of_step sound step
  intro unreserved
  cases done with
  | spawned found state => exact unreserved entries shown ⟨_, found, state⟩

/-! ## Uncertain entries -/

/-- A call that settles the outcome of the nonce: it succeeds, or its write fails. -/
def LedgerEvent.Settles (nonce : String) (event : LedgerEvent) : Prop :=
  ∃ call nowUnix answer failed, event = .called call nowUnix answer failed ∧ call.Settles nonce ∧
    (answer = .ok () ∨ failed = true)

/-- What a call makes of an uncertain entry, in memory. -/
theorem uncertain_called {ledger ledger' : ReplayLedger}
    (called : Called call nowUnix a answer failed b) (isOpen : a.ledger = some ledger)
    (stays : b.ledger = some ledger') (uncertain : UncertainIn nonce entry ledger.entries) :
    UncertainIn nonce entry ledger'.entries ∨
      (call.Settles nonce ∧ (answer = .ok () ∨ failed = true)) ∧
        ReservationIn nonce entry ledger'.entries := by
  cases called with
  | refused isOpen' =>
    obtain rfl := some.inj (isOpen.symm.trans isOpen')
    obtain rfl := some.inj stays
    exact .inl uncertain
  | ended isOpen' _ ends =>
    obtain rfl := some.inj (isOpen.symm.trans isOpen')
    obtain rfl := some.inj stays
    have made := UncertainIn.made ends.made uncertain
    cases ends with
    | performed => exact made.imp_right fun settled => ⟨⟨settled.1, .inl rfl⟩, settled.2⟩
    | refused _ pruned => exact .inl (uncertain.pruned pruned)
    | closed _ _ _ failures =>
      exact made.imp_right fun settled =>
        ⟨⟨settled.1, .inr (decide_eq_true failures)⟩, settled.2⟩

/-- What a step makes of an entry that is uncertain in all a crash may show. -/
theorem uncertain_step (holds : Sound a ∧ a.disk.Durably (UncertainIn nonce entry))
    (step : LedgerStep env a event b) :
    (Sound b ∧ b.disk.Durably (UncertainIn nonce entry)) ∨
      event.Settles nonce ∧ b.disk.Durably (ReservationIn nonce entry) := by
  obtain ⟨sound, uncertain⟩ := holds
  have stays := sound_step sound step
  cases event with
  | reopened =>
    exact .inl ⟨stays, durably_reopened step uncertain⟩
  | called call nowUnix answer failed =>
    cases (called_of_step sound step).2 with
    | refused => exact .inl ⟨stays, uncertain⟩
    | @ended ledger _ t _ ready ends =>
      have made : ∀ table, t.disk.Shows table → UncertainIn nonce entry table ∨
          call.Settles nonce ∧ ReservationIn nonce entry table := by
        intro table shown
        rcases ends.shown table shown with made | before
        · exact UncertainIn.made made (uncertain _ ready.shows_)
        · exact .inl (uncertain table before)
      by_cases still : t.disk.Durably (UncertainIn nonce entry)
      · exact .inl ⟨stays, still⟩
      obtain ⟨table, shown, gone⟩ :
          ∃ table, t.disk.Shows table ∧ ¬ UncertainIn nonce entry table := by
        simpa [Disk.Durably] using still
      have settles := ((made table shown).resolve_left gone).1
      refine .inr ⟨⟨call, nowUnix, answer, _, rfl, settles, ?_⟩, fun table shown =>
        (made table shown).elim UncertainIn.reservation And.right⟩
      cases ends with
      | performed => exact .inl rfl
      | refused _ _ shows_ =>
        rcases shows_ table shown with pruned | before
        · exact absurd ((uncertain _ ready.shows_).pruned pruned) gone
        · exact absurd (uncertain table before) gone
      | closed _ _ _ failures => exact .inr (decide_eq_true failures)

variable {before after : ReplayLedger}

/-- What a successful reservation or spawn recorded is uncertain in all a crash may
show. -/
theorem uncertain_of_success (sound : Sound a) (step : LedgerStep env a event b)
    (success : (∃ expiresAtUnix nowUnix, event.Reserves nonce expiresAtUnix nowUnix) ∨
      event.Spawns nonce) : ∃ entry, b.disk.Durably (UncertainIn nonce entry) := by
  rcases success with ⟨expiresAtUnix, nowUnix, digest, failed, rfl⟩ |
    ⟨digest, processIdentity, nowUnix, failed, rfl⟩
  · obtain ⟨entries, table, -, done, only⟩ := performed_of_step sound step
    cases done with
    | reserved =>
      refine ⟨freshEntry digest expiresAtUnix nowUnix, fun shown now => ?_⟩
      obtain rfl := only shown now
      exact ⟨_, lookup_insert _, ⟨rfl, rfl, rfl⟩, rfl⟩
  · obtain ⟨entries, table, -, done, only⟩ := performed_of_step sound step
    cases done with
    | @spawned _ _ _ entry =>
      refine ⟨entry, fun shown now => ?_⟩
      obtain rfl := only shown now
      refine ⟨_, lookup_insert _, sameReservation_spawned _ _, ?_⟩
      rw [spawned_state]
      rfl

/-! ## Failed writes -/

/-- The ledger, if it is open, was closed by a failed write. -/
def FailedClosed (b : BrokerState ω) : Prop :=
  ∀ ledger, b.ledger = some ledger → ledger.failedClosed = true

theorem failedClosed_of_failure (called : Called call nowUnix a answer true b) :
    FailedClosed b := by
  intro ledger isOpen
  generalize flag : true = failed at called
  cases called with
  | refused => cases flag
  | ended _ _ ends =>
    obtain rfl := some.inj isOpen
    cases ends with
    | performed _ _ _ failures | refused _ _ _ failures => simp [failures] at flag
    | closed closed => exact closed.trans flag

theorem refused_of_failedClosed (closed : FailedClosed a)
    (called : Called call nowUnix a answer failed b) :
    answer = .error .failedClosed ∧ FailedClosed b := by
  cases called with
  | refused isOpen shut =>
    refine ⟨rfl, fun ledger open_ => ?_⟩
    obtain rfl := some.inj open_
    exact shut
  | ended isOpen ready =>
    have shut := closed _ isOpen
    rw [ready.1] at shut
    cases shut

theorem failedClosed_step (holds : Sound a ∧ FailedClosed a) (step : LedgerStep env a event b) :
    (Sound b ∧ FailedClosed b) ∨ ∃ maxEntries, event = .reopened maxEntries := by
  obtain ⟨sound, closed⟩ := holds
  cases event with
  | reopened maxEntries => exact .inr ⟨maxEntries, rfl⟩
  | called =>
    have called := (called_of_step sound step).2
    exact .inl ⟨sound_step sound step, (refused_of_failedClosed closed called).2⟩

/-! ## Runs -/

/-- What holds of a run of the broker. -/
structure ReplaySafe (env : Environment ω) (start : BrokerState ω) (events : List LedgerEvent) :
    Prop where
  /-- A nonce is reserved again only after the window of its reservation. -/
  reservedOnce : ∀ {before first between second after nonce expiresAtUnix nowUnix later laterNow},
    events = before ++ first :: (between ++ second :: after) →
    first.Reserves nonce expiresAtUnix nowUnix → second.Reserves nonce later laterNow →
    expiresAtUnix < laterNow
  /-- Between two spawns of a nonce, a reservation of it was recorded. -/
  spawnedOnce : ∀ {before first between second after nonce},
    events = before ++ first :: (between ++ second :: after) →
    first.Spawns nonce → second.Spawns nonce →
    ∃ earlier event later a b, between = earlier ++ event :: later ∧
      Run (LedgerStep env) start (before ++ first :: earlier) a ∧ LedgerStep env a event b ∧
      RecordsReservation nonce a event b
  /-- No call drops an uncertain entry from the ledger.  Only a call that names it settles it,
  by its success or by a write that fails, and the reservation stays. -/
  uncertainInMemory : ∀ {before after call nowUnix answer failed a b ledger ledger' nonce entry},
    events = before ++ .called call nowUnix answer failed :: after →
    Run (LedgerStep env) start before a →
    LedgerStep env a (.called call nowUnix answer failed) b →
    a.ledger = some ledger → b.ledger = some ledger' →
    UncertainIn nonce entry ledger.entries →
    UncertainIn nonce entry ledger'.entries ∨
      (call.Settles nonce ∧ (answer = .ok () ∨ failed = true)) ∧
        ReservationIn nonce entry ledger'.entries
  /-- What a successful reservation or spawn recorded is uncertain in all a crash may show. -/
  uncertainRecorded : ∀ {before event after a b nonce},
    events = before ++ event :: after → Run (LedgerStep env) start before a →
    LedgerStep env a event b →
    (∃ expiresAtUnix nowUnix, event.Reserves nonce expiresAtUnix nowUnix) ∨ event.Spawns nonce →
    ∃ entry, b.disk.Durably (UncertainIn nonce entry)
  /-- An entry that is uncertain in all a crash may show stays so until it is settled, and then
  its reservation is in all a crash may show. -/
  uncertainDurable : ∀ {before between after a b nonce entry},
    events = before ++ (between ++ after) → Run (LedgerStep env) start before a →
    Run (LedgerStep env) a between b → a.disk.Durably (UncertainIn nonce entry) →
    b.disk.Durably (UncertainIn nonce entry) ∨
      ∃ earlier event later x y, between = earlier ++ event :: later ∧
        Run (LedgerStep env) a earlier x ∧ LedgerStep env x event y ∧ event.Settles nonce ∧
        y.disk.Durably (ReservationIn nonce entry)
  /-- After a failed write every call fails until the ledger is opened again. -/
  failsClosed : ∀ {before between after call nowUnix answer call' nowUnix' answer' failed},
    events = before ++ .called call nowUnix answer true ::
      (between ++ .called call' nowUnix' answer' failed :: after) →
    answer' = .error .failedClosed ∨ ∃ maxEntries, .reopened maxEntries ∈ between

section Runs

variable {start last : BrokerState ω} {events : List LedgerEvent}

theorem sound_run (notOpen : start.ledger = none)
    (run : Run (LedgerStep env) start events a) : Sound a := by
  refine Run.invariant (fun sound step => sound_step sound step) ?_ run
  intro ledger isOpen
  rw [notOpen] at isOpen
  cases isOpen

/-- **Replay safety.**  Every run from a broker that has not opened its ledger, whatever
is on its disk and whatever fails, is safe. -/
theorem replay_safe (notOpen : start.ledger = none)
    (run : Run (LedgerStep env) start events last) : ReplaySafe env start events where
  reservedOnce := by
    rintro before first between second after nonce expiresAtUnix nowUnix later laterNow rfl
    intro reserves again
    obtain ⟨a, b, reached, step, rest⟩ := run.split_at
    obtain ⟨c, d, between, step', -⟩ := rest.split_at
    have sound := sound_run notOpen reached
    have kept := Run.invariant (I := fun s => Sound s ∧ Recorded nonce expiresAtUnix s)
      (fun holds taken => recorded_step holds taken)
      ⟨sound_step sound step, recorded_of_reserves sound step reserves⟩ between
    exact late_of_reserves kept.1 kept.2 step' again
  spawnedOnce := by
    rintro before first between second after nonce rfl spawns again
    obtain ⟨a, b, reached, step, rest⟩ := run.split_at
    obtain ⟨c, d, middle, step', -⟩ := rest.split_at
    have sound := sound_run notOpen reached
    rcases Run.lasts_or_breaks (B := RecordsReservation nonce)
        (fun holds taken => unreserved_step holds taken)
        ⟨sound_step sound step, unreserved_of_spawns sound step spawns⟩ middle with
      ⟨soundThen, unreserved⟩ | ⟨earlier, event, later, x, y, split, there, taken, records, -⟩
    · exact absurd unreserved (reserved_of_spawns soundThen step' again)
    · exact ⟨earlier, event, later, x, y, split, reached.append (.next step there), taken, records⟩
  uncertainInMemory := by
    rintro before after call nowUnix answer failed a b ledger ledger' nonce entry rfl reached step
    intro isOpen stays uncertain
    exact uncertain_called (called_of_step (sound_run notOpen reached) step).2 isOpen stays
      uncertain
  uncertainRecorded := by
    rintro before event after a b nonce rfl reached step
    exact uncertain_of_success (sound_run notOpen reached) step
  uncertainDurable := by
    rintro before between after a b nonce entry rfl reached rest uncertain
    rcases Run.lasts_or_breaks (I := fun s => Sound s ∧ s.disk.Durably (UncertainIn nonce entry))
        (B := fun _ event y => event.Settles nonce ∧ y.disk.Durably (ReservationIn nonce entry))
        (fun holds taken => uncertain_step holds taken)
        ⟨sound_run notOpen reached, uncertain⟩ rest with
      ⟨-, still⟩ | ⟨earlier, event, later, x, y, split, there, taken, ⟨settles, kept⟩, -⟩
    · exact .inl still
    · exact .inr ⟨earlier, event, later, x, y, split, there, taken, settles, kept⟩
  failsClosed := by
    rintro before between after call nowUnix answer call' nowUnix' answer' failed rfl
    obtain ⟨a, b, reached, step, rest⟩ := run.split_at
    obtain ⟨c, d, middle, step', -⟩ := rest.split_at
    have sound := sound_run notOpen reached
    rcases Run.lasts_or_breaks (I := fun s => Sound s ∧ FailedClosed s)
        (fun holds taken => failedClosed_step holds taken)
        ⟨sound_step sound step, failedClosed_of_failure (called_of_step sound step).2⟩ middle with
      ⟨soundThen, closed⟩ | ⟨earlier, event, later, x, y, split, -, -, ⟨maxEntries, rfl⟩, -⟩
    · exact .inl (refused_of_failedClosed closed (called_of_step soundThen step').2).1
    · exact .inr ⟨maxEntries, by simp [split]⟩

end Runs

/-! ### A run with a failed write

The directory is not synchronised when the spawn is recorded: the broker closes its
ledger, and after the restart the entry is found spawned. -/

/-- A disk of root on which everything works but the given synchronisations of the
directory. -/
def faultyEnvironment (fails : Nat → Bool) : Environment Nat where
  path := "/var/lib/ownmesh/replay.json"
  parent := some "/var/lib/ownmesh"
  effectiveUid n := (0, n)
  symlinkMetadata path n :=
    (.ok { isFile := path != "/var/lib/ownmesh"
           isDir := path == "/var/lib/ownmesh"
           isSymlink := false
           uid := 0
           mode := if path == "/var/lib/ownmesh" then 0o700 else 0o600 }, n)
  lockExists n := (false, n)
  openLock n := (none, n)
  tryLockExclusive n := (none, n)
  statFile n := (none, n)
  readFile n := (none, n)
  length _ := 0
  serializeError _ := none
  tempName n := ("ledger.tmp", n)
  createTemp n := (none, n)
  writeTemp n := (none, n)
  syncTemp n := (none, n)
  rename n := (none, n)
  syncDirectory n := (if fails n then some "input/output error" else none, n + 1)
  survivor n := (0, n)

def freshBroker : BrokerState Nat where
  clock := 0
  disk := { file := none, unsynced := [], persistFailures := 0, world := 0 }
  ledger := none

def sampleDigest : String := "0123456789abcdef0123456789abcdef0123456789abcdef0123456789abcdef"

/-- The third write fails after its rename. -/
def sampleEvents : List LedgerEvent :=
  [.reopened 4,
   .called (.reserve "nonce" sampleDigest 10) 1 (.ok ()) false,
   .called (.markSpawned "nonce" sampleDigest none) 2
     (.error (.write "sync directory /var/lib/ownmesh: input/output error")) true,
   .called (.markCompleted "nonce" sampleDigest) 3 (.error .failedClosed) false,
   .reopened 4,
   .called (.markSpawned "nonce" sampleDigest none) 4 (.error .replay) false,
   .called (.markCompleted "nonce" sampleDigest) 5 (.ok ()) false]

/-- The broker of the run, its ledger holding one entry in the given state. -/
def sampleBroker (clock : Int) (syncs failures : Nat) (unsynced : List (Option Document))
    (failedClosed : Bool) (table : Entries) : BrokerState Nat where
  clock := clock
  disk :=
    { file := some (.current { version := ledgerVersion, entries := table })
      unsynced := unsynced
      persistFailures := failures
      world := syncs }
  ledger := some { maxEntries := 4, entries := table, failedClosed := failedClosed }

def sampleReserved : Entries := (∅ : Entries).insert "nonce" (freshEntry sampleDigest 10 1)

def sampleSpawned : Entries :=
  (∅ : Entries).insert "nonce" ((freshEntry sampleDigest 10 1).spawned none)

def sampleCompleted : Entries :=
  (∅ : Entries).insert "nonce" (((freshEntry sampleDigest 10 1).spawned none).advance .completed)

/-- A call between two given states. -/
theorem step_of_run (b : BrokerState ω)
    (isOpen : a.ledger = some before) (stays : b.ledger = some after) (clock : b.clock = nowUnix)
    (later : a.clock ≤ b.clock)
    (ran : (call.perform env nowUnix).run ⟨before, a.disk⟩ = (answer, ⟨after, b.disk⟩))
    (flag : decide (a.disk.persistFailures < b.disk.persistFailures) = failed) :
    LedgerStep env a (.called call nowUnix answer failed) b := by
  obtain ⟨time, disk, ledger⟩ := b
  subst stays flag clock
  exact .call isOpen call time later ran

theorem replay_safe_sampleEvents :
    Run (LedgerStep (faultyEnvironment (· == 2))) freshBroker sampleEvents
        (sampleBroker 5 4 1 [] false sampleCompleted) ∧
      ReplaySafe (faultyEnvironment (· == 2)) freshBroker sampleEvents := by
  have run : Run (LedgerStep (faultyEnvironment (· == 2))) freshBroker sampleEvents
      (sampleBroker 5 4 1 [] false sampleCompleted) := by
    refine .next (.reopen 4 rfl) ?_
    refine .next (step_of_run (sampleBroker 1 2 0 [] false sampleReserved)
      rfl rfl rfl (by decide) rfl rfl) ?_
    refine .next (step_of_run (sampleBroker 2 3 1
      [some (.current ⟨ledgerVersion, sampleReserved⟩)] true sampleSpawned)
      rfl rfl rfl (by decide) rfl rfl) ?_
    refine .next (step_of_run (sampleBroker 3 3 1
      [some (.current ⟨ledgerVersion, sampleReserved⟩)] true sampleSpawned)
      rfl rfl rfl (by decide) rfl rfl) ?_
    refine .next (t := sampleBroker 3 3 1 [some (.current ⟨ledgerVersion, sampleReserved⟩)] false
      sampleSpawned) (.reopen 4 rfl) ?_
    refine .next (step_of_run (sampleBroker 4 3 1
      [some (.current ⟨ledgerVersion, sampleReserved⟩)] false sampleSpawned)
      rfl rfl rfl (by decide) rfl rfl) ?_
    exact .next (step_of_run (sampleBroker 5 4 1 [] false sampleCompleted)
      rfl rfl rfl (by decide) rfl rfl) (.done _)
  exact ⟨run, replay_safe rfl run⟩

end OwnMesh.Broker
