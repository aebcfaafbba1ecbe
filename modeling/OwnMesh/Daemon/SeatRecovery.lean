import OwnMesh.Daemon.Refusal

/-!
# Recovery of a transition that moves a seat

A record of a claim, a handoff, a renewal or a detach that is in its window is recovered
in three parts: the supervisor is asked again, unless the record already carries its
answer; the answer is noted in the record; and the seat is installed in the session
and the record cleared.  The theorems say what each part needs and what it leaves, in
surroundings whose writes succeed.
-/

namespace OwnMesh.Daemon

open Foundations Ipc Sessions Transitions Program
open Supervisor (SupervisorBinding Change)

variable {ω : Type} {env : Environment ω} {d d' : DaemonRuntime ω} {record : TransitionRecord}
  {current : SessionInfo} {binding : SidecarHostBinding} {a : DaemonRuntime ω}

/-- A record of a moved seat waits in the journal of a connected daemon, and its session
is there. -/
structure SeatPending (env : Environment ω) (d : DaemonRuntime ω) (record : TransitionRecord)
    (current : SessionInfo) : Prop where
  movesSeat : record.kind.isTerminal = false
  journaled : d.transitions.lookup record.transitionId = some record
  valid : validate record = .ok ()
  present : d.sessions.get record.sessionId = .ok current
  connected : d.connected = true
  writable : Writable env

theorem SeatPending.tick (pending : SeatPending env d record current) :
    SeatPending env (d.tick env) record current :=
  ⟨pending.movesSeat, pending.journaled, pending.valid, pending.present, pending.connected,
    pending.writable⟩

/-! ## Noting the answer -/

/-- A binding can be noted in a record exactly when it is one a record may refer to. -/
theorem markApplied_valid_iff (valid : validate record = .ok ()) :
    validate (record.markApplied (some binding)) = .ok () ↔
      ValidBinding binding ∧ binding.hostExpiresUnix ≤ record.expiresUnix := by
  have valid := validate_ok_iff.mp valid
  rw [validate_ok_iff]
  constructor
  · intro marked
    exact ⟨marked.newBinding binding rfl, marked.covers.2 binding rfl⟩
  · rintro ⟨wellFormed, covered⟩
    refine ⟨valid.identifiers, valid.window, ⟨valid.covers.1, ?_⟩, valid.oldBinding, ?_, ?_,
      valid.terminal⟩
    · rintro _ ⟨⟩
      exact covered
    · rintro _ ⟨⟩
      exact wellFormed
    · rintro - ⟨⟩

/-- An answer that cannot be noted ends the recovery. -/
theorem markApplied_of_invalid (env : Environment ω) {id : String}
    (found : d.transitions.lookup id = some record) (phase : record.phase = .intent)
    (invalid : validate (record.markApplied (some binding)) ≠ .ok ()) (describe : String → String) :
    ∃ e d', (withTransitions describe (Transitions.markApplied env.transitions id binding)).run d =
      (.error e, d') := by
  cases checked : validate (record.markApplied (some binding)) with
  | ok => exact absurd checked invalid
  | error message =>
    have failed : (markApplied env.transitions id binding).run
        d.transitionJournal = (.error message, d.transitionJournal) := by
      rw [markApplied, run_bind_of_ok (recordAt_run found), phase]
      simp only [storeApplied, checked]
      rfl
    exact ⟨_, _, withTransitions_run failed⟩

/-! ## Asking the supervisor -/

/-- What recovery asks the supervisor to act on. -/
def oldSupervisorBinding (record : TransitionRecord) : SupervisorBinding :=
  supervisorBindingFrom record.sessionId record.oldBinding

/-- The daemon after it has asked for a change. -/
def DaemonRuntime.asked (d : DaemonRuntime ω) (record : TransitionRecord) (change : Change)
    (w : ω) : DaemonRuntime ω :=
  { d with
    world := w
    sent := d.sent ++ [.change (oldSupervisorBinding record) change record.transitionId] }

variable {change : Change}

/-- A change the supervisor refuses ends the recovery, and one it grants is noted in the
record. -/
theorem replayTransition_answered (connected : d.connected = true)
    (asks : replayChange record = some change) {answer : Except IpcError SupervisorBinding} {w : ω}
    (answered : env.change (oldSupervisorBinding record) change record.transitionId d.world =
      (answer, w)) :
    (replayTransition env record).run d =
      (match answer with
        | .error e => fail (replayError e)
        | .ok next => do
          withTransitions (fun reason => s!"mark recovered transition applied: {reason}")
            (markApplied env.transitions record.transitionId (recoveredBinding record next))
          pure (some (recoveredBinding record next)) :
        DaemonM ω (Option SidecarHostBinding)).run (d.asked record change w) := by
  simp only [replayTransition, asks]
  rw [run_bind_of_ok (requireSupervisor_run connected _ _),
    run_bind_of_ok (requestChange_run _ _ _ _),
    show env.change (supervisorBindingFrom record.sessionId record.oldBinding) change
      record.transitionId d.world = (answer, w) from answered]
  cases answer <;> rfl

/-! ## Installing the seat -/

/-- The durable session is already past the transition, and so is the binding it has. -/
def Superseded (record : TransitionRecord) (current : SessionInfo) : Prop :=
  record.target.controllerEpoch < current.controllerEpoch ∧ current.sidecarHost.all (fun binding =>
      decide (record.target.controllerEpoch ≤ binding.controllerEpoch)) = true

/-- The session still waits for the transition and can take it. -/
def Resumable (record : TransitionRecord) (current : SessionInfo) : Prop :=
  current.controllerEpoch ≤ record.target.controllerEpoch ∧ current.state ≠ .closed

variable {marked : TransitionRecord} {binding : SidecarHostBinding} {leaseId : String}

/-- A session that is past the transition is left alone, one that waits for it gets its seat and
its binding, and any other ends the recovery. -/
theorem resumeController_ok_iff (writable : Writable env)
    (present : d.sessions.get record.sessionId = .ok current)
    (journaled : d.transitions.lookup record.transitionId = some marked)
    (leased : record.target.leaseId = some leaseId) (snapshot : SessionManager) :
    (∃ d', (resumeController env record binding snapshot).run d = (.ok (), d')) ↔
      Superseded record current ∨ Resumable record current := by
  rw [resumeController, run_bind_of_ok (withSessions_run (info_run present))]
  by_cases ahead : record.target.controllerEpoch < current.controllerEpoch
  · rw [if_pos ahead, or_iff_left fun waits : Resumable _ _ => absurd ahead (not_lt.mpr waits.1)]
    by_cases caughtUp : current.sidecarHost.all (fun binding =>
        decide (record.target.controllerEpoch ≤ binding.controllerEpoch)) = true
    · obtain ⟨d', cleared, -⟩ :=
        writable.clearTransition "clear already-superseded recovered transition" journaled
      rw [run_bind_of_ok (run_require_of_holds caughtUp _ _)]
      exact iff_of_true ⟨d', cleared⟩ ⟨ahead, caughtUp⟩
    · rw [run_bind_of_error (run_require_of_not caughtUp _ _)]
      exact iff_of_false (by rintro ⟨_, ⟨⟩⟩) fun past => caughtUp past.2
  · have recorded : (recordedLeaseId env record).run d = (.ok leaseId, d) := by
      simp only [recordedLeaseId, leased]
      rfl
    rw [if_neg ahead, or_iff_right fun past : Superseded _ _ => ahead past.1,
      run_bind_of_ok recorded]
    by_cases closed : current.state = .closed
    · rw [run_bind_of_error (withSessions_run
        (reconcileControllerFromTransition_closed present closed))]
      exact iff_of_false (by rintro ⟨_, ⟨⟩⟩) fun waits => waits.2 closed
    · rw [run_bind_of_ok (withSessions_run
        (reconcileControllerFromTransition_run present closed))]
      obtain ⟨_, seated⟩ : ∃ info, SessionManager.get (d.sessions.updateInfo record.sessionId
          fun info => info.reconciled record.target.principal leaseId record.target.controllerEpoch
            record.target.bindingExpiresUnix record.target.controllerAttached) record.sessionId =
          .ok info := by
        rw [get_updateInfo, present]
        exact ⟨_, rfl⟩
      rw [run_bind_of_ok (withSessions_run (r := .ok ()) (setInfo_run seated _))]
      refine iff_of_true ?_ ⟨not_lt.mp ahead, closed⟩
      have finishes {d : DaemonRuntime ω}
          (there : d.transitions.lookup record.transitionId = some marked) :
          ∃ d', (finishRecovery env record snapshot).run d = (.ok (), d') :=
        (writable.finishRecovery there snapshot).imp fun _ => And.left
      exact finishes journaled

/-! ## The three parts together -/

/-- Recovery has the binding of its record, and its record is noted as applied. -/
structure Bound (env : Environment ω) (d a : DaemonRuntime ω) (record : TransitionRecord)
    (binding : SidecarHostBinding) : Prop where
  ran : (bindingOfRecord env record).run d = (.ok (some binding), a)
  stores : Keeps DaemonRuntime.stores d a
  noted : ∃ marked, a.transitions.lookup record.transitionId = some marked
  others : a.transitions.erase record.transitionId = d.transitions.erase record.transitionId

/-- An intended transition that is granted is bound, once its answer could be noted. -/
theorem bound_of_granted (pending : SeatPending env d record current)
    (phase : record.phase = .intent) (asks : replayChange record = some change)
    {next : SupervisorBinding} {w : ω}
    (answered : env.change (oldSupervisorBinding record) change record.transitionId d.world =
      (.ok next, w))
    (notable : validate (record.markApplied (some (recoveredBinding record next))) = .ok ()) :
    ∃ a, Bound env d a record (recoveredBinding record next) := by
  have found : (d.asked record change w).transitions.lookup record.transitionId = some record :=
    pending.journaled
  obtain ⟨a, noted, stores, records⟩ := pending.writable.notes
    (markApplied env.transitions record.transitionId (recoveredBinding record next)) notable
    (by rw [markApplied, run_bind_of_ok (recordAt_run found), phase])
    fun reason => s!"mark recovered transition applied: {reason}"
  obtain ⟨transitions, -⟩ := Prod.mk.inj records
  refine ⟨a, ?_, stores, ⟨record.markApplied (some (recoveredBinding record next)), ?_⟩, ?_⟩
  · simp only [bindingOfRecord, phase]
    rw [replayTransition_answered pending.connected asks answered, run_bind_of_ok noted]
    rfl
  · rw [show a.transitions = _ from transitions]
    exact AList.lookup_insert _
  · rw [show a.transitions = _ from transitions]
    exact Table.erase_insert _ _ _

/-- **What the recovery of an intended transition needs.**  The supervisor grants it, its
answer can be noted, and the session is past the transition or can take it. -/
theorem recoverSession_ok_iff (pending : SeatPending env d record current)
    (phase : record.phase = .intent) (asks : replayChange record = some change)
    (leased : record.target.leaseId = some leaseId)
    (same : current.workspaceId = some record.workspaceId) :
    (∃ d', (recoverSession env record current).run d = (.ok (), d')) ↔
      (∃ next w, env.change (oldSupervisorBinding record) change record.transitionId d.world =
          (.ok next, w) ∧
        validate (record.markApplied (some (recoveredBinding record next))) = .ok ()) ∧
      (Superseded record current ∨ Resumable record current) := by
  rw [recoverSession, run_bind_of_ok (run_require_of_holds same _ _)]
  rcases answered : env.change (oldSupervisorBinding record) change record.transitionId d.world
    with ⟨e | next, w⟩
  · have refused : (bindingOfRecord env record).run d =
        (.error (replayError e), d.asked record change w) := by
      simp only [bindingOfRecord, phase]
      exact replayTransition_answered pending.connected asks answered
    rw [run_bind_of_error refused]
    exact iff_of_false (by rintro ⟨_, ⟨⟩⟩) (by rintro ⟨⟨_, _, ⟨⟩, _⟩, _⟩)
  by_cases notable : validate (record.markApplied (some (recoveredBinding record next))) = .ok ()
  · obtain ⟨a, bound⟩ := bound_of_granted pending phase asks answered notable
    obtain ⟨_, noted⟩ := bound.noted
    have present : a.sessions.get record.sessionId = .ok current := by
      rw [sessions_of_stores bound.stores]
      exact pending.present
    rw [and_iff_right ⟨next, w, rfl, notable⟩, run_bind_of_ok bound.ran,
      run_reads_bind]
    exact resumeController_ok_iff pending.writable present noted leased _
  · obtain ⟨e, a, failed⟩ := markApplied_of_invalid env
      (d := d.asked record change w) pending.journaled phase notable
      fun reason => s!"mark recovered transition applied: {reason}"
    have unnoted : (bindingOfRecord env record).run d = (.error e, a) := by
      simp only [bindingOfRecord, phase]
      rw [replayTransition_answered pending.connected asks answered, run_bind_of_error failed]
    rw [run_bind_of_error unnoted]
    refine iff_of_false (by rintro ⟨_, ⟨⟩⟩) ?_
    rintro ⟨⟨next', w', granted, notable'⟩, -⟩
    cases granted
    exact notable notable'

end OwnMesh.Daemon
