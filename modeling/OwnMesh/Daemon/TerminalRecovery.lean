import OwnMesh.Daemon.Effects

/-!
# Recovery of interrupted closes and terminations

A record of a close or a termination asks the supervisor to end the host and then ends
the session.  Recovery clears the session's binding after it has closed or removed the
session.  For a termination the session is no longer there by then, so the step fails:
the session has left memory, nothing has been written and the record stays.

`terminalRecovery_converges_iff` says which records recovery finishes.
-/

namespace OwnMesh.Daemon

open Foundations Ipc Sessions Transitions Program DaemonRuntime

variable {ω : Type} {env : Environment ω} {d d' : DaemonRuntime ω}

/-! ## What a terminal record stands for -/

/-- A close or a termination waits in the journal while its session is still there, the
supervisor is connected and confirms that it ended the host, and writes succeed. -/
structure TerminalPending (env : Environment ω) (d : DaemonRuntime ω)
    (record : TransitionRecord) (current : SessionInfo) : Prop where
  terminal : record.kind.isTerminal = true
  journaled : d.transitions.lookup record.transitionId = some record
  valid : validate record = .ok ()
  present : d.sessions.get record.sessionId = .ok current
  connected : d.connected = true
  confirms : ∀ binding id w, (env.terminate binding id w).1 = none
  writable : Writable env

/-- What a terminal transition makes of its session: it is closed, or gone. -/
def Ended (kind : TransitionKind) (id : String) (m : SessionManager) : Prop :=
  match kind with
  | .terminate => m.get id = .error .notFound
  | _ => ∃ info, m.get id = .ok info ∧ info.state = .closed

/-- Running the recovery pass leaves sessions, records and what was sent as they are. -/
def RecoveryIsIdle (env : Environment ω) (d : DaemonRuntime ω) : Prop :=
  Keeps DaemonRuntime.contents d ((recoverSidecarTransitions env).run d).2 ∧
    Keeps DaemonRuntime.sent d ((recoverSidecarTransitions env).run d).2

/-- Recovery finishes a terminal record: it answers, the session has ended in memory and
on disk, and the record is gone from memory and from disk, and no other with it.  If no
other record waits, recovering again does nothing. -/
def Converges (env : Environment ω) (d : DaemonRuntime ω) (record : TransitionRecord) : Prop :=
  ∃ d', (recoverTransitionRecord env record).run d = (.ok (), d') ∧
    Ended record.kind record.sessionId d'.sessions ∧
    Ended record.kind record.sessionId d'.sessionsFile ∧
    d'.records = (d.transitions.erase record.transitionId,
      d.transitions.erase record.transitionId) ∧
    (d.transitions.erase record.transitionId = ∅ → RecoveryIsIdle env d')

/-! ## Ending the host -/

variable {record : TransitionRecord} {current : SessionInfo}

variable (pending : TerminalPending env d record current)

include pending in
/-- The host of a terminal record is ended without touching any session, and the record
stays in the journal. -/
theorem bindingOfRecord_of_terminal :
    ∃ d₂ marked, (bindingOfRecord env record).run d = (.ok none, d₂) ∧ Keeps stores d d₂ ∧
      d₂.transitions.lookup record.transitionId = some marked ∧
      d₂.transitions.erase record.transitionId = d.transitions.erase record.transitionId := by
  cases phase : record.phase with
  | applied =>
    refine ⟨d, record, ?_, rfl, pending.journaled, rfl⟩
    simp only [bindingOfRecord, phase, pending.terminal, if_true, run_pure]
  | intent =>
    have accepted := validate_ok_iff.mp pending.valid
    have ends : record.target.terminal = true := by rw [accepted.terminal, pending.terminal]
    -- a valid terminal record stays valid when it is noted as applied
    have valid : validate (record.markApplied none) = .ok () :=
      validate_ok_iff.mpr ⟨accepted.identifiers, accepted.window, ⟨accepted.covers.1, nofun⟩,
        accepted.oldBinding, nofun, fun _ _ => ends, accepted.terminal⟩
    simp only [bindingOfRecord, phase, replayTransition]
    rw [run_bind_of_ok (requireSupervisor_run pending.connected _ _),
      replayChange_eq_none pending.terminal]
    obtain ⟨a, asked, stores, transitions⟩ : ∃ a, (requestTerminate env
        (supervisorBindingFrom record.sessionId record.oldBinding) record.transitionId).run d =
          (.ok none, a) ∧ Keeps stores d a ∧ a.transitions = d.transitions :=
      ⟨_, Prod.ext (congrArg Except.ok (pending.confirms ..)) rfl, rfl, rfl⟩
    rw [run_bind_of_ok asked, ← transitions]
    have found : a.transitions.lookup record.transitionId = some record :=
      transitions ▸ pending.journaled
    obtain ⟨e, noted, stores', records⟩ := pending.writable.notes
      (markTerminalApplied env.transitions record.transitionId) valid (by
        rw [markTerminalApplied, run_bind_of_ok (recordAt_run found),
          run_bind_of_ok (run_require_of_holds ends _ _), phase]) _
    refine ⟨e, record.markApplied none, run_bind_of_ok noted, stores'.trans stores, ?_, ?_⟩
    all_goals rw [(Prod.mk.inj records).1]
    · exact AList.lookup_insert _
    · exact Table.erase_insert _ _ _

/-! ## Ending the session -/

/-- Closing ends the session in memory and on disk and clears the record. -/
theorem endSession_close (writable : Writable env) (closing : record.kind = .close)
    (present : d.sessions.get record.sessionId = .ok current) {marked : TransitionRecord}
    (journaled : d.transitions.lookup record.transitionId = some marked)
    (snapshot : SessionManager) : ∃ d', (endSession env record snapshot).run d = (.ok (), d') ∧
      Ended record.kind record.sessionId d'.sessions ∧
      Ended record.kind record.sessionId d'.sessionsFile ∧
      d'.records = (d.transitions.erase record.transitionId,
        d.transitions.erase record.transitionId) := by
  obtain ⟨a, closed, present', kept⟩ := withSessions_setInfo present
    fun info => { info with state := .closed, controller := none }
  obtain ⟨b, unbound, present'', kept'⟩ := withSessions_setInfo present'
    fun info => { info with sidecarHost := none }
  have unmoved : b.transitions = d.transitions := congrArg Prod.fst (kept'.trans kept)
  have journaled' : b.transitions.lookup record.transitionId = some marked := by
    rw [unmoved]
    exact journaled
  obtain ⟨c, finished, stores, records⟩ := writable.finishRecovery journaled' snapshot
  obtain ⟨sessions, file⟩ := Prod.mk.inj stores
  refine ⟨c, ?_, ?_, ?_, ?_⟩
  · rw [endSession, closing]
    exact (run_bind_of_ok closed).trans ((run_bind_of_ok unbound).trans finished)
  · rw [closing, sessions]
    exact ⟨_, present'', rfl⟩
  · rw [closing, file]
    exact ⟨_, present'', rfl⟩
  · rw [records, unmoved]

/-! ## Recovery when nothing waits -/

theorem pending_of_empty (empty : d.transitions = ∅) (running : Bool) :
    { d with transitionRecoveryRunning := running }.transitionJournal.pending = [] := by
  simp only [TransitionJournal.pending, transitionJournal, empty]
  rfl

theorem recoveryIsIdle_of_empty (empty : d.transitions = ∅) : RecoveryIsIdle env d := by
  -- a pass over expired records that finds none changes neither sessions nor records
  obtain ⟨a, reconciled, contents, sent⟩ : ∃ a,
      (reconcileExpiredTransitions env : DaemonM ω Unit).run d = (.ok (), a) ∧
        a.contents = d.contents ∧ a.sent = d.sent := by
    simp only [reconcileExpiredTransitions, run_reads_bind, whenever]
    split
    · simp only [setRecoveryRunning, run_modify_bind, run_reads_bind, run_ask_bind,
        pending_of_empty empty, forEach_nil, run_pure_bind]
      exact ⟨_, rfl, rfl, rfl⟩
    · exact ⟨d, rfl, rfl, rfl⟩
  have empty' : a.transitions = ∅ := by
    rw [← empty]
    exact congrArg Prod.fst (records_of_contents contents)
  rw [RecoveryIsIdle, recoverSidecarTransitions, run_bind_of_ok reconciled, run_reads_bind]
  by_cases running : a.transitionRecoveryRunning = false
  · simp only [whenever, running, if_true, replayPending, setRecoveryRunning, run_modify_bind,
      run_reads_bind, run_ask_bind, pending_of_empty empty', forEach_nil, run_attempt_bind,
      run_pure]
    exact ⟨contents, sent⟩
  · rw [whenever, if_neg running]
    exact ⟨contents, sent⟩

/-! ## Which records recovery finishes -/

/-- What recovery needs to clear the record of a close that is past its time: the session
is closed already, in memory and on disk, the record bounds its hosts, their children
are proven dead, and a binding that still names one of them has run out. -/
structure MootClose (env : Environment ω) (d : DaemonRuntime ω) (record : TransitionRecord)
    (current : SessionInfo) : Prop where
  closed : current.state = .closed
  durable : Ended .close record.sessionId d.sessionsFile
  bounded : hostOutlivesRecord record = false
  dead : ((proveExpiredSidecarDead env record).run d).1 = .ok true
  released : ∀ binding, current.sidecarHost = some binding →
    referencesRecord record binding = true →
    binding.hostExpiresUnix ≤ (env.now ((proveExpiredSidecarDead env record).run d).2.world).1

theorem refuseLiveHost_ok_iff : (∃ d', (refuseLiveHost env record current).run d = (.ok (), d')) ↔
      ∀ binding, current.sidecarHost = some binding → referencesRecord record binding = true →
        binding.hostExpiresUnix ≤ (env.now d.world).1 := by
  unfold refuseLiveHost
  cases bound : current.sidecarHost with
  | none => simp
  | some binding =>
    by_cases refers : referencesRecord record binding = true
    · simp only [whenever, if_pos refers, run_ask_bind, require_ok_iff]
      simp [refers]
    · simp [whenever, refers]

theorem MootClose.of_reconciled (present : d.sessions.get record.sessionId = .ok current)
    (durable : Ended .close record.sessionId d.sessionsFile)
    (ran : (reconcileExpiredTransitionRecord env record).run d = (.ok (), d')) :
    MootClose env d record current := by
  rcases reconcileExpiredTransitionRecord_cases (Keeps stores) record d with
    ⟨e, s, -, failed⟩ | ⟨moot, -⟩
  · rw [ran] at failed
    cases failed
  · rcases moot.ended with gone | ⟨found, there, closed, released⟩
    · rw [present] at gone
      cases gone
    · rw [present] at there
      cases there
      exact ⟨closed, durable, moot.bounded, moot.dead, refuseLiveHost_ok_iff.mp released⟩

theorem MootClose.reconciled (moot : MootClose env d record current) (writable : Writable env)
    (journaled : d.transitions.lookup record.transitionId = some record)
    (present : d.sessions.get record.sessionId = .ok current) :
    ∃ d', (reconcileExpiredTransitionRecord env record).run d = (.ok (), d') ∧
      Keeps stores d d' ∧ d'.records =
        (d.transitions.erase record.transitionId, d.transitions.erase record.transitionId) := by
  have probed : Keeps contents d ((proveExpiredSidecarDead env record).run d).2 :=
    proveExpiredSidecarDead_moves env record d
  have present' : ((proveExpiredSidecarDead env record).run d).2.sessions.get record.sessionId =
      .ok current := by
    rw [sessions_of_stores (stores_of_contents probed)]
    exact present
  obtain ⟨e, released⟩ := refuseLiveHost_ok_iff.mpr moot.released
  have same : Keeps contents d e :=
    trans_of (Keeps contents) probed ((refuseLiveHost_moves record current).of_eq released)
  have unmoved : e.transitions = d.transitions := congrArg Prod.fst (records_of_contents same)
  obtain ⟨d', cleared, stores, records⟩ :=
    writable.clearTransition "clear moot expired transition" (unmoved ▸ journaled)
  refine ⟨d', ?_, stores.trans (stores_of_contents same), unmoved ▸ records⟩
  rw [reconcileExpiredTransitionRecord, run_bind_of_ok (run_require_of_holds moot.bounded _ _),
    run_attempt_bind, moot.dead]
  simp only [run_reads_bind, present', if_pos moot.closed]
  rw [run_bind_of_ok released, cleared]

/-! ### Proof of death -/

include pending in
theorem TerminalPending.tick : TerminalPending env (d.tick env) record current :=
  ⟨pending.terminal, pending.journaled, pending.valid, pending.present, pending.connected,
    pending.confirms, pending.writable⟩

include pending in
/-- A terminal record names a close or a termination. -/
theorem TerminalPending.kind : record.kind = .close ∨ record.kind = .terminate := by
  have terminal := pending.terminal
  cases kind : record.kind <;> simp_all [TransitionKind.isTerminal]

include pending in
/-- In its window, a record is finished when it is a close of the session's workspace. -/
theorem converges_within_iff (within_ : ¬ record.expiresUnix ≤ (env.now d.world).1) :
    Converges env d record ↔
      record.kind = .close ∧ current.workspaceId = some record.workspaceId := by
  have dispatched := recoverTransitionRecord_present within_ pending.present
  by_cases same : current.workspaceId = some record.workspaceId
  · obtain ⟨a, marked, ended, stores, noted, others⟩ := bindingOfRecord_of_terminal pending.tick
    have recovered : (recoverTransitionRecord env record).run d =
        (endSession env record a.sessions).run a := by
      rw [dispatched, recoverSession, run_bind_of_ok (run_require_of_holds same _ _),
        run_bind_of_ok ended]
      rfl
    have present : a.sessions.get record.sessionId = .ok current := by
      rw [sessions_of_stores stores]
      exact pending.present
    rcases pending.kind with closing | terminating
    · obtain ⟨d', ended, memory, file, records⟩ :=
        endSession_close pending.writable closing present noted a.sessions
      refine iff_of_true ⟨d', ?_, memory, file, ?_, ?_⟩ ⟨closing, same⟩
      · rw [recovered, ended]
      · rw [records, others]
        rfl
      · intro empty
        refine recoveryIsIdle_of_empty ?_
        rw [(Prod.mk.inj records).1, others]
        exact empty
    · -- The session is removed from memory and then not found: the record stays.
      obtain ⟨sessions, removed, gone⟩ := terminate_run present
      have ended : (withSessions (terminalOutcome record.kind record.sessionId)).run a =
          (.ok (), { a with sessions := sessions }) := by
        rw [terminating]
        exact withSessions_run removed
      refine iff_of_false ?_ ?_
      · rintro ⟨d', ran, -⟩
        rw [recovered, endSession, run_bind_of_ok ended] at ran
        cases ran.symm.trans (run_bind_of_error
          (withSessions_run (r := .error _) (setInfo_run_of_missing gone _)))
      · rintro ⟨closing, -⟩
        rw [terminating] at closing
        cases closing
  · refine iff_of_false ?_ fun both => same both.2
    rintro ⟨d', ran, -⟩
    rw [dispatched, recoverSession, run_bind_of_error (run_require_of_not same _ _)] at ran
    cases ran

include pending in
/-- Past its time, a record is finished when it is a close that has nothing left to do. -/
theorem converges_expired_iff (past : record.expiresUnix ≤ (env.now d.world).1) :
    Converges env d record ↔ record.kind = .close ∧ MootClose env (d.tick env) record current := by
  have dispatched := recoverTransitionRecord_expired past
  constructor
  · rintro ⟨d', ran, memory, file, -⟩
    rw [dispatched] at ran
    have stores : Keeps stores _ d' :=
      (reconcileExpiredTransitionRecord_moves fun _ => clearTransition_stores _ _).of_eq ran
    rw [sessions_of_stores stores] at memory
    rw [sessionsFile_of_stores stores] at file
    rcases pending.kind with closing | terminating
    · rw [closing] at file
      exact ⟨closing, .of_reconciled pending.tick.present file ran⟩
    · rw [terminating] at memory
      have gone : d.sessions.get record.sessionId = .error .notFound := memory
      rw [pending.present] at gone
      cases gone
  · rintro ⟨closing, moot⟩
    obtain ⟨d', ran, stores, records⟩ :=
      moot.reconciled pending.writable pending.tick.journaled pending.tick.present
    refine ⟨d', dispatched.trans ran, ?_, ?_, records, ?_⟩
    · rw [closing, sessions_of_stores stores]
      exact ⟨current, pending.present, moot.closed⟩
    · rw [closing, sessionsFile_of_stores stores]
      exact moot.durable
    · intro empty
      refine recoveryIsIdle_of_empty ?_
      rw [(Prod.mk.inj records).1]
      exact empty

/-- **Recovery finishes a close, and never a termination.**  With a supervisor that
confirms the end of the host and writes that succeed, a record is finished exactly when
it is a close, and either it is in its window and of the session's workspace, or it is
past its time and has nothing left to do. -/
theorem terminalRecovery_converges_iff (pending : TerminalPending env d record current) :
    Converges env d record ↔ record.kind = .close ∧ (((env.now d.world).1 < record.expiresUnix ∧
            current.workspaceId = some record.workspaceId) ∨
          (record.expiresUnix ≤ (env.now d.world).1 ∧
            MootClose env (d.tick env) record current)) := by
  by_cases past : record.expiresUnix ≤ (env.now d.world).1
  · rw [converges_expired_iff pending past]
    simp [past, not_lt.mpr past]
  · rw [converges_within_iff pending past]
    simp [past, not_le.mp past]

/-! ## An interrupted close and an interrupted termination -/

section Interrupted

/-- One session with a host, whose seat Carol holds. -/
def carolSession : SessionManager :=
  plainManager ((∅ : Table String Session).insert "c"
    (plainSession "c" "carol" (plainBinding "carol" "host_c" 1 500 1000)))

def carolLease : ControllerLease where
  principalId := "carol"
  leaseId := "lease_c"
  epoch := 1
  expiresUnix := 500

/-- The record Carol's request to end the session leaves behind. -/
def carolRecord (ending : Ending) : TransitionRecord :=
  terminalRecord ending
    { id := "c", client := "carol", leaseId := none, controllerEpoch := none
      workspace := "ws_default", key := none, now := 90 }
    carolLease (plainBinding "carol" "host_c" 1 500 1000)

/-- The daemon after a crash, connected to the supervisor again. -/
def carolStart (ending : Ending) : DaemonRuntime Unit :=
  { startedDaemon carolSession ((∅ : Table String TransitionRecord).insert
      (carolRecord ending).transitionId (carolRecord ending)) with
    connected := true }

def carolInfo : SessionInfo :=
  (plainSession "c" "carol" (plainBinding "carol" "host_c" 1 500 1000)).info

theorem writable_calm (now : Int) : Writable (calmEnvironment now) :=
  ⟨fun _ _ => rfl, fun _ _ => rfl, fun _ => ⟨[], rfl, Nat.zero_le _⟩⟩

theorem terminalRecovery_converges_iff_carol :
    TerminalPending (calmEnvironment 100) (carolStart closing) (carolRecord closing) carolInfo ∧
      Converges (calmEnvironment 100) (carolStart closing) (carolRecord closing) := by
  have pending : TerminalPending (calmEnvironment 100) (carolStart closing)
      (carolRecord closing) carolInfo :=
    ⟨rfl, rfl, rfl, rfl, rfl, fun _ _ _ => rfl, writable_calm 100⟩
  exact ⟨pending, (terminalRecovery_converges_iff pending).mpr ⟨rfl, .inl ⟨by decide, rfl⟩⟩⟩

/-- A termination is interrupted after it was written down.  Recovery ends the host and
removes the session from memory, then fails because the session is not there: the file
still holds the session, and the record still waits, noted as applied. -/
theorem terminate_recovery_fails :
    TerminalPending (calmEnvironment 100) (carolStart terminating) (carolRecord terminating)
        carolInfo ∧
      (let recovered := (recoverTransitionRecord (calmEnvironment 100)
          (carolRecord terminating)).run (carolStart terminating)
       recovered.1 = .error (.remote AppError.invalidParams "session not found") ∧
        recovered.2.sessions.get "c" = .error .notFound ∧
        recovered.2.sessionsFile.get "c" = .ok carolInfo ∧
        recovered.2.transitionsFile.lookup "terminate:c:lease_c:1" =
          some ((carolRecord terminating).markApplied none)) :=
  ⟨⟨rfl, rfl, rfl, rfl, rfl, fun _ _ _ => rfl, writable_calm 100⟩, rfl, rfl, rfl, rfl⟩

end Interrupted

end OwnMesh.Daemon
