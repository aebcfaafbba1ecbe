import OwnMesh.Daemon.Effects

/-!
# How the daemon's programs move the transition journal

Recovery and reattaching only mark and clear records that are there.  A handler of a
seat request writes down the record of its plan and no other, and the handlers that end
sessions write down terminal records.  None of them changes which device the request
came from.  `Progress written` is that relation between the states before and after; a
restart, which reads the journal from its file, is treated on its own.
-/

namespace OwnMesh.Daemon

open Foundations Ipc Sessions Transitions Program
open Supervisor (SupervisorBinding Change)

variable {ω : Type} {env : Environment ω} {d d' : DaemonRuntime ω}

/-- The journal evolved with nothing but `written` records put into it, and the request
still comes from the same device. -/
structure Progress (written : TransitionRecord → Prop) (d d' : DaemonRuntime ω) : Prop where
  journal : Evolves written d.records d'.records
  device : d'.activeRemoteDeviceId = d.activeRemoteDeviceId

variable {written : TransitionRecord → Prop}

instance : Std.Refl (Progress (ω := ω) written) := ⟨fun _ => ⟨.refl, rfl⟩⟩

instance : IsTrans (DaemonRuntime ω) (Progress written) :=
  ⟨fun _ _ _ first second =>
    ⟨first.journal.trans second.journal, second.device.trans first.device⟩⟩

instance : IgnoresHealth (Progress (ω := ω) written) where
  world := fun _ _ => ⟨.refl, rfl⟩
  health := fun _ _ _ _ => ⟨.refl, rfl⟩

/-- Nothing at all is written. -/
abbrev nothing : TransitionRecord → Prop := fun _ => False

/-! ## Relations that recovery respects

Bringing the connection to the supervisor up to date, expiring leases and restarting change
sessions in memory and write them, mark and clear records, and go back to an earlier copy of
the sessions when a write fails.  The walk through these programs is made once, for every
relation that the single changes respect. -/

section Recovery

set_option linter.unusedSectionVars false

variable {R : DaemonRuntime ω → DaemonRuntime ω → Prop} [Std.Refl R] [IsTrans (DaemonRuntime ω) R]

/-- The changes of the sessions in memory that a relation allows. -/
def Within (R : DaemonRuntime ω → DaemonRuntime ω → Prop) (m m' : SessionManager) : Prop :=
  ∀ d : DaemonRuntime ω, d.sessions = m → R d { d with sessions := m' }

instance : Std.Refl (Within R) := by
  refine ⟨fun _ d same => ?_⟩
  subst same
  exact refl_of R d

instance : IsTrans SessionManager (Within R) :=
  ⟨fun _ _ _ first second d same => trans_of R (first d same) (second _ rfl)⟩

theorem withSessions_moves {α : Type} {m : SessionM α} (moves : Moves (Within R) m) :
    Moves R (withSessions m : DaemonM ω α) :=
  fun d => moves d.sessions d rfl

/-- A pass that starts by looking at the sessions. -/
theorem pass_moves {α : Type} {pass : SessionManager → DaemonM ω α}
    (body : ∀ start : DaemonRuntime ω, Moves (Preserves (R start)) (pass start.sessions)) :
    Moves R (reads DaemonRuntime.sessions >>= pass) :=
  fun start => body start start (refl_of R start)

/-- A relation that the changes of recovery respect when only `written` records are put into
the journal. -/
structure Respects (written : TransitionRecord → Prop)
    (R : DaemonRuntime ω → DaemonRuntime ω → Prop) : Prop where
  journal : ∀ (d : DaemonRuntime ω) (j : TransitionJournal ω), Evolves written d.records j.tables →
    R d (d.setTransitionJournal j)
  asks : ∀ (d : DaemonRuntime ω) (asked : Sent) (w : ω),
    R d { d with sent := d.sent ++ [asked], world := w }
  connects : ∀ d : DaemonRuntime ω, R d { d with connected := true }
  counts : ∀ (d : DaemonRuntime ω) (retained : Nat),
    R d { d with reattachRetainedSessions := retained }
  edits : ∀ (id : String) (f : SessionInfo → SessionInfo), KeepsIo f →
    Moves (Within R) (updateInfo id f)
  removes : ∀ id : String, Moves (Within R) (terminate id)
  expires : ∀ (m : SessionManager) (now : Int), Within R m (m.expireStaleLeases now)
  writes : ∀ d : DaemonRuntime ω, R d { d with sessionsFile := d.sessions }
  restores : ∀ start d : DaemonRuntime ω, R start d → R start { d with sessions := start.sessions }

/-- A relation that the writes of recovery respect. -/
structure RespectsFiles (written : TransitionRecord → Prop)
    (R : DaemonRuntime ω → DaemonRuntime ω → Prop) : Prop where
  journal : ∀ (d : DaemonRuntime ω) (j : TransitionJournal ω), Evolves written d.records j.tables →
    R d (d.setTransitionJournal j)
  writes : ∀ d : DaemonRuntime ω, R d { d with sessionsFile := d.sessions }
  restores : ∀ start d : DaemonRuntime ω, R start d → R start { d with sessions := start.sessions }

theorem Respects.files (respects : Respects written R) : RespectsFiles written R where
  __ := respects

/-- What recovery asks of the supervisor for a record. -/
def Sent.Replays (record : TransitionRecord) : Sent → Prop
  | change binding asked id => binding.sessionId = record.sessionId ∧ id = record.transitionId ∧
      replayChange record = some asked
  | terminate _ _ => True

/-- A relation that the recovery of one record respects. -/
structure RespectsRecord (written : TransitionRecord → Prop) (record : TransitionRecord)
    (R : DaemonRuntime ω → DaemonRuntime ω → Prop) : Prop extends RespectsFiles written R where
  asks : ∀ (d : DaemonRuntime ω) (asked : Sent) (w : ω), asked.Replays record →
    R d { d with sent := d.sent ++ [asked], world := w }
  seats : ∀ leaseId, record.kind.isTerminal = false → record.target.leaseId = some leaseId →
    Moves (Within R) (reconcileControllerFromTransition record.sessionId record.target.principal
      leaseId record.target.controllerEpoch record.target.bindingExpiresUnix
      record.target.controllerAttached)
  ends : Moves (Within R) (terminalOutcome record.kind record.sessionId)
  binds : ∀ binding, Moves (Within R) (setSidecarHostBinding record.sessionId binding)

theorem Respects.record (respects : Respects written R) (record : TransitionRecord) :
    RespectsRecord written record R where
  __ := respects.files
  asks := fun d asked w _ => respects.asks d asked w
  seats := fun _ _ _ => reconcileControllerFromTransition_moves (respects.edits _) _ _ _ _ _
  ends := by
    cases record.kind <;> first
      | exact respects.removes _
      | exact setInfo_moves (respects.edits _ _ keepsIo)
  binds := fun _ => setInfo_moves (respects.edits _ _ keepsIo)

namespace RespectsFiles

variable [IgnoresHealth R] (respects : RespectsFiles written R)

include respects

theorem withTransitions {α : Type} {describe : String → String} {m : TransitionM ω α}
    (evolves : ∀ s, Evolves written s.tables (m.run s).2.tables) :
    Moves R (withTransitions describe m) :=
  fun d => respects.journal d _ (evolves d.transitionJournal)

theorem clearTransition (what id : String) : Moves R (clearTransition env what id) :=
  respects.withTransitions (clear_evolves id)

/-- Writing the sessions that a pass made of those it started from, or going back to them. -/
theorem commitSessions (start : DaemonRuntime ω) :
    Moves (Preserves (R start)) (commitSessions env start.sessions) :=
  commitSessions_moves
    (fun d w reached =>
      trans_of R reached (trans_of R (IgnoresWorld.world d w) (respects.writes _)))
    fun d w reached => respects.restores start _ (trans_of R reached (IgnoresWorld.world d w))

end RespectsFiles

/-- A record that leads to a binding moves the seat. -/
theorem movesSeat_of_binding {record : TransitionRecord} {binding : SidecarHostBinding}
    (ran : (bindingOfRecord env record).run d = (.ok (some binding), d')) :
    record.kind.isTerminal = false := by
  cases ends : record.kind.isTerminal with
  | false => rfl
  | true =>
    unfold bindingOfRecord at ran
    cases phase : record.phase with
    | applied =>
      rw [phase, ends] at ran
      cases ran
    | intent =>
      rw [phase] at ran
      obtain ⟨_, a, -, ran⟩ := bind_ok_iff.mp ran
      rw [replayChange_eq_none ends] at ran
      obtain ⟨answer, b, -, ran⟩ := bind_ok_iff.mp ran
      cases answer with
      | some => cases ran
      | none =>
        obtain ⟨_, c, -, ran⟩ := bind_ok_iff.mp ran
        cases ran

namespace RespectsRecord

variable [IgnoresHealth R] {record : TransitionRecord} (respects : RespectsRecord written record R)

include respects

theorem finishRecovery (start : DaemonRuntime ω) :
    Moves (Preserves (R start)) (finishRecovery env record start.sessions) :=
  .bind (respects.commitSessions start) fun _ => (respects.clearTransition _ _).continues start

theorem replayTransition : Moves R (replayTransition env record) := by
  refine .bind (requireSupervisor_moves _ _) fun _ => ?_
  cases asked : replayChange record with
  | none =>
    refine .bind (fun d => respects.asks d _ _ trivial) fun answer => ?_
    cases answer with
    | some => exact .fail
    | none =>
      exact .bind (respects.withTransitions (markTerminalApplied_evolves _)) fun _ => .pure
  | some =>
    refine .bind (fun d => respects.asks d _ _ ⟨rfl, rfl, asked⟩) fun answer => ?_
    cases answer with
    | error => exact .fail
    | ok => exact .bind (respects.withTransitions (markApplied_evolves _ _)) fun _ => .pure

theorem bindingOfRecord : Moves R (bindingOfRecord env record) := by
  unfold Daemon.bindingOfRecord
  cases record.phase with
  | intent => exact respects.replayTransition
  | applied =>
    refine .ite (fun _ => .pure) fun _ => ?_
    cases record.newBinding with
    | none => exact .fail
    | some => exact .pure

theorem resumeController (movesSeat : record.kind.isTerminal = false)
    (binding : SidecarHostBinding) (start : DaemonRuntime ω) :
    Moves (Preserves (R start)) (resumeController env record binding start.sessions) := by
  refine .bind ((withSessions_moves (info_moves _)).continues start) fun current =>
    .ite (fun _ => .bind .require fun _ => (respects.clearTransition _ _).continues start)
      fun _ => ?_
  unfold recordedLeaseId
  cases named : record.target.leaseId with
  | none => exact fun _ reached => reached
  | some leaseId =>
    rw [pure_bind_eq]
    exact .bind ((withSessions_moves (respects.seats leaseId movesSeat named)).continues start)
      fun _ => .bind ((withSessions_moves (respects.binds _)).continues start) fun _ =>
        respects.finishRecovery start

theorem endSession (start : DaemonRuntime ω) :
    Moves (Preserves (R start)) (endSession env record start.sessions) :=
  .bind ((withSessions_moves respects.ends).continues start) fun _ =>
    .bind ((withSessions_moves (respects.binds _)).continues start)
      fun _ => respects.finishRecovery start

theorem recoverSession (current : SessionInfo) : Moves R (recoverSession env record current) := by
  refine .bind .require fun _ => .bind_ok respects.bindingOfRecord fun binding s a ran => ?_
  cases binding with
  | some binding =>
    exact respects.resumeController (movesSeat_of_binding ran) binding a a (refl_of R a)
  | none => exact respects.endSession a a (refl_of R a)

theorem recoverTransitionRecord : Moves R (recoverTransitionRecord env record) := by
  refine .bind (ask_moves _) fun now => .ite (fun _ => ?_) fun _ => .bind .reads fun found => ?_
  · exact reconcileExpiredTransitionRecord_moves fun _ => respects.clearTransition _ _
  · cases found with
    | ok current => exact respects.recoverSession current
    | error => exact .ite (fun _ => respects.clearTransition _ _) fun _ => .fail

end RespectsRecord

namespace Respects

variable [IgnoresHealth R] (respects : Respects written R)

include respects

theorem setInfo (id : String) {f : SessionInfo → SessionInfo} (keeps : KeepsIo f) :
    Moves R (withSessions (setInfo id f) : DaemonM ω Unit) :=
  withSessions_moves (setInfo_moves (respects.edits id f keeps))

theorem closeHostless (id : String) : Moves R (closeHostless id : DaemonM ω Unit) :=
  .bind (respects.setInfo id keepsIo) fun _ =>
    .bind (respects.setInfo id keepsIo) fun _ =>
      respects.setInfo id keepsIo

theorem recordChild (id : String) (pid birth : Nat) :
    Moves R (recordChild id pid birth : DaemonM ω Unit) := by
  refine .bind (respects.setInfo id keepsIo) fun _ =>
    .bind (withSessions_moves (info_moves id)) fun current => ?_
  cases current.sidecarHost with
  | none => exact .fail
  | some => exact respects.setInfo id keepsIo

theorem recoverSidecarTransitions : Moves R (recoverSidecarTransitions env) :=
  .bind (reconcileExpiredTransitions_moves fun _ _ => respects.files.clearTransition _ _) fun _ =>
    .bind .reads fun _ => .whenever fun _ _ =>
      replayPending_moves fun record _ => (respects.record record).recoverTransitionRecord

theorem examineSidecar (now : Int) (session : SessionInfo × SidecarHostBinding) :
    Moves R (examineSidecar env now session) := by
  refine .ite (fun _ => .bind (fun d => respects.asks d _ _) fun answer => ?_) fun _ =>
    .ite (fun _ => .pure) fun _ => .bind (ask_moves _) fun answer => ?_
  · cases answer with
    | none | some => exact .pure
  · cases answer with
    | error => exact .pure
    | ok =>
      dsimp only
      split
      · split
        · split <;> exact .pure
        · exact .pure
      · exact .pure

theorem reattachPersistentSidecars : Moves R (reattachPersistentSidecars env) := by
  refine .bind (ask_moves _) fun now => .bind .reads fun sessions => .bind .require
    fun _ => .bind (requireSupervisor_moves _ _) fun _ =>
      .bind (.collect (respects.examineSidecar now) _) fun found =>
        .bind (.modify fun d => respects.counts d _) fun _ => .whenever fun _ =>
          pass_moves fun start => ?_
  have closes : ∀ ids, Moves (Preserves (R start))
      (forEach Daemon.closeHostless ids : DaemonM ω Unit) := fun ids =>
    (Moves.forEach respects.closeHostless ids).continues start
  exact .bind (closes _) fun _ => .bind (closes _) fun _ =>
    .bind ((Moves.forEach (fun child => respects.recordChild _ _ _) _).continues start)
      fun _ => respects.files.commitSessions start

theorem ensureRemoteSupervisor : Moves R (ensureRemoteSupervisor env) := by
  refine .bind (.bind .reads fun _ => .whenever fun _ => .bind (ask_moves _)
    fun answer => ?_) fun _ => .bind respects.recoverSidecarTransitions fun _ =>
      .bind respects.reattachPersistentSidecars fun _ => requireSupervisor_moves _ _
  cases answer with
  | some => exact .fail
  | none => exact .modify respects.connects

theorem prepareSessionAccess : Moves R (prepareSessionAccess env) := by
  refine .bind (ask_moves _) fun now => pass_moves fun start =>
    .bind (.whenever fun _ => .bind ?_ fun _ => respects.files.commitSessions start) fun _ => .pure
  exact Moves.continues (.modify fun d => respects.expires d.sessions now d rfl) start

end Respects

end Recovery

/-! ## The transition journal -/

theorem progress_respects : Respects written (Progress (ω := ω) written) where
  journal := fun _ _ evolves => ⟨evolves, rfl⟩
  asks := fun _ _ _ => ⟨.refl, rfl⟩
  connects := fun _ => ⟨.refl, rfl⟩
  counts := fun _ _ => ⟨.refl, rfl⟩
  edits := fun _ _ _ _ _ _ => ⟨.refl, rfl⟩
  removes := fun _ _ _ _ => ⟨.refl, rfl⟩
  expires := fun _ _ _ _ => ⟨.refl, rfl⟩
  writes := fun _ => ⟨.refl, rfl⟩
  restores := fun _ _ reached => ⟨reached.journal, reached.device⟩

theorem withSessions_progress {α : Type} (m : SessionM α) :
    Moves (Progress written) (withSessions m : DaemonM ω α) :=
  fun _ => ⟨.refl, rfl⟩

theorem withJournal_progress {α : Type} (m : OpJournal.JournalM ω α) :
    Moves (Progress written) (withJournal m) :=
  fun _ => ⟨.refl, rfl⟩

/-- Whatever copy of the sessions a failed write goes back to. -/
theorem commitSessions_progress (snapshot : SessionManager) :
    Moves (Progress written) (commitSessions env snapshot) :=
  commitSessions_moves (fun _ _ => ⟨.refl, rfl⟩) fun _ _ => ⟨.refl, rfl⟩

theorem installSessions_progress (preview snapshot : SessionManager) :
    Moves (Progress written) (installSessions env preview snapshot) :=
  .bind (.modify fun _ => ⟨.refl, rfl⟩) fun _ => commitSessions_progress snapshot

variable {R : DaemonRuntime ω → DaemonRuntime ω → Prop}

/-! ## Starting -/

theorem openEntries_ok {file entries : Table String TransitionRecord}
    (opened : openEntries file = .ok entries) : entries = file := by
  unfold openEntries at opened
  split at opened
  · cases opened
  · split at opened <;> cases opened
    rfl

instance : IgnoresWorld (Keeps (DaemonRuntime.records (ω := ω))) := ⟨fun _ _ => rfl⟩

theorem reconcileDeadPersistentSessions_records {ε : Type} : Moves (Keeps DaemonRuntime.records)
    (reconcileDeadPersistentSessions env : Program (DaemonRuntime ω) ε Unit) := by
  refine .bind .reads fun _ => .forEach (fun _ => ?_) _
  refine .bind (.bind (probeChild_moves _) fun proof => ?_) fun _ => .whenever fun _ =>
    .bind (.attempt (.bind (fun _ => rfl) fun _ => .bind (fun _ => rfl) fun _ _ => rfl))
      fun _ => .pure
  cases proof with
  | dead | live => exact .pure
  | unknown => exact .bind (ask_moves _) fun _ => .pure

theorem saveRestartedSessions_records :
    Moves (Keeps DaemonRuntime.records) (saveRestartedSessions env) := by
  intro d
  rw [saveRestartedSessions, run_reads_bind, run_ask_bind]
  rcases env.writeSessions d.sessions d.world with ⟨_ | reason, w⟩ <;> rfl

/-- A restart reads the journal from its file. -/
theorem restart_records {transitions : Table String TransitionRecord}
    (readable : (env.loadFiles d.world).1 = none)
    (opened : openEntries d.transitionsFile = .ok transitions) :
    ((restart env).run d).2.records = (transitions, d.transitionsFile) := by
  have rest : Moves (Keeps DaemonRuntime.records) (do
      let hadSessions ← reads fun d : DaemonRuntime ω => !d.sessions.list.isEmpty
      reconcileDeadPersistentSessions env
      whenever (hadSessions = true) (saveRestartedSessions env)) :=
    .bind .reads fun _ => .bind reconcileDeadPersistentSessions_records fun _ =>
      .whenever fun _ => saveRestartedSessions_records
  rw [restart, run_ask_bind, readable, run_reads_bind, opened]
  exact rest (loaded env { d with world := (env.loadFiles d.world).2 } transitions)

theorem restart_evolves (d : DaemonRuntime ω) :
    Evolves written d.records ((restart env).run d).2.records := by
  rcases readable : (env.loadFiles d.world).1 with _ | reason
  · rcases opened : openEntries d.transitionsFile with message | transitions
    · rw [restart, run_ask_bind, readable, run_reads_bind, opened]
      exact .refl
    · obtain rfl := openEntries_ok opened
      rw [restart_records readable opened]
      exact .single .reopen
  · rw [restart, run_ask_bind, readable]
    exact .refl

/-! ## Handlers of seat requests -/

theorem requireReader_moves [Std.Refl R] [IsTrans (DaemonRuntime ω) R] (id principal : String) :
    Moves R (requireReader id principal : DaemonM ω Unit) := by
  refine .bind .reads fun answer => ?_
  split
  · exact .pure
  · exact .fail
  · exact .fail

theorem requireSessionWorkspace_moves [Std.Refl R] [IsTrans (DaemonRuntime ω) R] (id : String)
    (wanted : Option String) : Moves R (requireSessionWorkspace id wanted : DaemonM ω String) := by
  refine .bind (withSessions_moves (info_moves id)) fun info => ?_
  cases givenWorkspace wanted with
  | none => exact .pure
  | some => exact .bind .require fun _ => .pure

theorem rejectSpoofedPrincipal_moves [Std.Refl R] (claimed : Option String)
    (authenticated : String) :
    Moves R (rejectSpoofedPrincipal claimed authenticated : DaemonM ω Unit) := by
  cases claimed with
  | none => exact .pure
  | some => exact .require

theorem rejectSpoofedGiver_moves [Std.Refl R] (claimed : Option String) (client : String) :
    Moves R (rejectSpoofedGiver claimed client : DaemonM ω Unit) := by
  cases claimed with
  | none => exact .pure
  | some => exact .require

theorem fenceAmbiguousTransition_moves [Std.Refl R] [IsTrans (DaemonRuntime ω) R] (id : String) :
    Moves R (fenceAmbiguousTransition env id) :=
  .bind .reads fun _ => .require

theorem operationId_moves [Std.Refl R] [IsTrans (DaemonRuntime ω) R]
    [IgnoresWorld R] : Moves R (operationId env) := by
  refine .bind .reads fun active => ?_
  cases active with
  | none => exact .bind (ask_moves _) fun _ => .pure
  | some => exact .pure

theorem reserve_progress (id client : String) (key : Option String) (workspace : String) (now : Int)
    (snapshot : SessionManager) :
    Moves (Progress written) (reserve env id client key workspace now snapshot) :=
  .bind operationId_moves fun _ => .bind (withJournal_progress _) fun _ =>
    .bind (withSessions_progress _) fun _ => .pure

theorem authorizeRemoteSeat_moves [Std.Refl R] [IsTrans (DaemonRuntime ω) R]
    (method id client : String) (leaseId : Option String) (epoch : Option Nat) (now : Int) :
    Moves R (authorizeRemoteSeat method id client leaseId epoch now : DaemonM ω Unit) := by
  unfold authorizeRemoteSeat
  split
  · exact .fail
  · exact .fail
  · exact withSessions_moves (.bind (info_moves id) fun _ => .require)

theorem remoteMutationReceipt_progress (key : Option String) :
    Moves (Progress written) (remoteMutationReceipt env key) := by
  cases key with
  | none => exact .pure
  | some => exact .bind (withJournal_progress _) fun _ => .pure

theorem admitOnce_progress {key : Option String} {plan : DaemonM ω (Plan ω)}
    (planning : Moves (Progress written) plan) :
    Moves (Progress written) (admitOnce env key plan) := by
  refine .bind (remoteMutationReceipt_progress key) fun receipt => ?_
  cases receipt with
  | some => exact .pure
  | none => exact .bind planning fun _ => .pure

/-- Deciding what to do writes nothing down. -/
theorem admit_progress (client : String) (request : SeatRequest) :
    Moves (Progress written) (admitSeat env client request) := by
  cases request with
  | claim =>
    refine .bind .ofExcept fun p => .bind (rejectSpoofedPrincipal_moves _ _) fun _ =>
      admitOnce_progress ?_
    exact .bind progress_respects.prepareSessionAccess fun _ =>
      .bind (requireReader_moves _ _) fun _ => .bind (requireSessionWorkspace_moves _ _) fun _ =>
        .bind .reads fun _ => .bind (fenceAmbiguousTransition_moves _) fun _ =>
          .bind (ask_moves _) fun _ => .bind (onPreview_moves _ _) fun _ =>
            .bind (reserve_progress _ _ _ _ _ _) fun _ => .pure
  | renew =>
    refine .bind .ofExcept fun p => .bind (rejectSpoofedPrincipal_moves _ _) fun _ =>
      admitOnce_progress ?_
    exact .bind progress_respects.prepareSessionAccess fun _ =>
      .bind (requireSessionWorkspace_moves _ _) fun _ =>
        .bind (fenceAmbiguousTransition_moves _) fun _ => .bind .reads fun _ =>
          .bind (onPreview_moves _ _) fun _ => .bind (reserve_progress _ _ _ _ _ _) fun _ =>
            .pure
  | detach =>
    refine .bind .ofExcept fun p => .bind (rejectSpoofedPrincipal_moves _ _) fun _ =>
      admitOnce_progress ?_
    exact .bind progress_respects.prepareSessionAccess fun _ =>
      .bind (requireSessionWorkspace_moves _ _) fun _ =>
        .bind (fenceAmbiguousTransition_moves _) fun _ => .bind .reads fun _ =>
          .bind (onPreview_moves _ _) fun _ => .bind (reserve_progress _ _ _ _ _ _) fun _ =>
            .bind (onPreview_moves _ _) fun _ => .pure
  | give =>
    refine .bind .ofExcept fun p => .bind (rejectSpoofedGiver_moves _ _) fun _ =>
      admitOnce_progress ?_
    exact .bind progress_respects.prepareSessionAccess fun _ =>
      .bind (requireSessionWorkspace_moves _ _) fun _ =>
        .bind (fenceAmbiguousTransition_moves _) fun _ =>
          .bind (.whenever fun _ => authorizeRemoteSeat_moves _ _ _ _ _ _) fun _ =>
            .bind .ofExcept fun _ => .bind .reads fun _ => .bind (ask_moves _) fun _ =>
              .bind (onPreview_moves _ _) fun _ => .bind (reserve_progress _ _ _ _ _ _)
                fun _ => .pure

/-- Carrying out a plan writes down the record of the plan and no other. -/
theorem applyPlan_progress {plan : Plan ω}
    (allowed : ∀ transition, plan.sidecar = some transition → written transition.record) :
    Moves (Progress written) (applyPlan env plan) := by
  unfold applyPlan
  cases hosted : plan.sidecar with
  | none => exact installSessions_progress _ _
  | some transition =>
    refine .bind progress_respects.ensureRemoteSupervisor fun _ => .bind ?_ fun _ =>
      .bind (installSessions_progress _ _) fun _ => progress_respects.files.clearTransition _ _
    exact .bind (sendTransition_moves _ (fun _ => progress_respects.files.withTransitions
      (beginTransition_evolves (allowed transition hosted))) progress_respects.asks) fun _ =>
      .bind (progress_respects.files.withTransitions (markApplied_evolves _ _)) fun _ =>
        .bind (onPreview_moves _ _) fun _ => .pure

/-- The record a seat request would write down. -/
def Plans (env : Environment ω) (client : String) (request : SeatRequest) (d : DaemonRuntime ω)
    (record : TransitionRecord) : Prop :=
  ∃ plan planned transition, (admitSeat env client request).run d = (.ok (.planned plan), planned) ∧
      plan.sidecar = some transition ∧ record = transition.record

/-- A seat request writes down the record it plans and no other. -/
theorem handle_progress (client : String) (request : SeatRequest) (d : DaemonRuntime ω) :
    Progress (Plans env client request d) d ((handle env client request).run d).2 := by
  have admitting : Moves (Progress (Plans env client request d)) (admitSeat env client request) :=
    admit_progress client request
  rw [handle_eq]
  rcases admitted : (admitSeat env client request).run d with ⟨e | receipt | plan, planned⟩
  · rw [run_bind_of_error admitted]
    exact admitting.of_eq admitted
  · rw [run_bind_of_ok admitted]
    exact admitting.of_eq admitted
  · rw [run_bind_of_ok admitted]
    have carrying : Moves (Progress (Plans env client request d)) (settle env (.planned plan)) :=
      .bind (applyPlan_progress fun transition hosted =>
        ⟨plan, planned, transition, admitted, hosted, rfl⟩) fun _ =>
          answerPlan_moves (fun _ _ => ⟨.refl, rfl⟩) plan
    exact trans_of (Progress _) (admitting.of_eq admitted) (carrying planned)

/-! ## Handlers that end sessions -/

/-- Terminal records. -/
abbrev terminalOnly : TransitionRecord → Prop := fun record => record.kind.isTerminal = true

theorem requireController_moves [Std.Refl R] [IsTrans (DaemonRuntime ω) R] (id principal : String)
    (now : Int) : Moves R (requireController id principal now : DaemonM ω Unit) := by
  refine .bind .reads fun answer => ?_
  split
  · exact .pure
  · exact .fail
  · exact .fail

theorem answerEnding_progress (ending : Ending) (request : EndRequest) (operation : String)
    (reconciled : Bool) :
    Moves (Progress written) (answerEnding env ending request operation reconciled) :=
  .bind (withJournal_progress _) fun _ => .pure

theorem reconcileTerminal_progress (kind : TransitionKind) (id : String) :
    Moves (Progress written) (reconcileTerminalAfterSupervisorFailure env kind id) := by
  refine .bind (withSessions_progress _) fun current => ?_
  cases current.sidecarHost with
  | none => exact .fail
  | some =>
    refine .bind ?_ fun _ => .bind .require fun _ => .bind .reads fun snapshot =>
      .bind ?_ fun _ => commitSessions_progress snapshot
    · unfold persistentChildIsLive
      split
      · exact .fail
      · exact .fail
      · refine .bind (ask_moves _) fun answer => ?_
        rcases answer with _ | _ | _
        · exact .fail
        · exact .pure
        · exact .pure
    · unfold reconciledOutcome
      split
      · exact withSessions_progress _
      · exact progress_respects.closeHostless _

variable {ending : Ending}

section

variable {record : TransitionRecord} (request : EndRequest) (allowed : written record)
  (preview snapshot : SessionManager)
include allowed

theorem sendEnding_progress (binding : SupervisorBinding) :
    Moves (Progress written) (sendEnding env ending request record binding preview snapshot) := by
  refine .bind (progress_respects.files.withTransitions (beginTransition_evolves allowed)) fun _ =>
    .bind (requireSupervisor_moves _ _) fun _ => .bind (fun d => progress_respects.asks d _ _)
      fun answer => ?_
  cases answer with
  | some => exact .fail
  | none =>
    refine .bind (progress_respects.files.withTransitions (markTerminalApplied_evolves _)) fun _ =>
      .bind ?_ fun _ => .bind (installSessions_progress _ _) fun _ =>
        progress_respects.files.clearTransition _ _
    unfold boundPreview
    split
    · exact .pure
    · exact .bind (onPreview_moves _ _) fun _ => .pure

theorem endThroughSupervisor_progress (old : SidecarHostBinding) (operation : String) :
    Moves (Progress written)
      (endThroughSupervisor env ending request record old operation preview snapshot) := by
  refine .bind (verifiedSidecarBindingFrom_moves _ _) fun binding =>
    .bind (.attempt progress_respects.ensureRemoteSupervisor) fun connected => ?_
  cases connected with
  | error =>
    exact .bind (reconcileTerminal_progress _ _) fun _ => answerEnding_progress _ _ _ _
  | ok =>
    refine .bind .reads fun found => ?_
    rcases found with e | current
    · cases e <;> first | exact answerEnding_progress _ _ _ _ | exact .fail
    · refine .ite (fun _ => .bind ?_ fun _ => answerEnding_progress _ _ _ _) fun _ =>
        .bind (sendEnding_progress request allowed _ _ _) fun _ => answerEnding_progress _ _ _ _
      unfold finishRecoveredEnding
      split
      · exact .bind .reads fun snapshot => .bind (withSessions_progress _) fun _ =>
          commitSessions_progress snapshot
      · exact .pure

end

theorem drainLiveOutputIntoSession_progress (id : String) :
    Moves (Progress written) (drainLiveOutputIntoSession env id) :=
  .bind .reads fun _ => .bind (ask_moves _) fun _ => .modify fun _ => ⟨.refl, rfl⟩

theorem stopLiveHost_progress (id : String) :
    Moves (Progress written) (stopLiveHost id : DaemonM ω Unit) :=
  .bind .reads fun _ => .whenever fun _ => .bind (.modify fun _ => ⟨.refl, rfl⟩) fun _ =>
    .bind (.attempt (withSessions_progress _)) fun _ => .pure

theorem endSessionOf_progress (ends : ending.kind.isTerminal = true)
    (request : EndRequest) : Moves (Progress terminalOnly) (endSessionOf env ending request) := by
  refine .bind (drainLiveOutputIntoSession_progress _) fun _ => .bind .reads fun snapshot =>
    .bind (withSessions_progress _) fun current => ?_
  cases current.controller with
  | none => exact .fail
  | some =>
    refine .bind (onPreview_moves _ _) fun _ => .bind operationId_moves fun _ =>
      .bind (withJournal_progress _) fun _ => ?_
    cases current.sidecarHost with
    | some => exact endThroughSupervisor_progress request ends _ _ _ _
    | none =>
      exact .bind (installSessions_progress _ _) fun _ => .bind (stopLiveHost_progress _)
        fun _ => answerEnding_progress _ _ _ _

theorem checkAndEnd_progress (ends : ending.kind.isTerminal = true) (id client : String)
    (leaseId : Option String) (epoch : Option Nat) (workspaceId key : Option String) (now : Int) :
    Moves (Progress terminalOnly)
      (checkAndEnd env ending id client leaseId epoch workspaceId key now) := by
  refine .bind (requireSessionWorkspace_moves _ _) fun _ => .bind (.ite (fun _ => ?_) fun _ => ?_)
    fun _ => .bind (fenceAmbiguousTransition_moves _) fun _ => endSessionOf_progress ends _
  · exact authorizeRemoteSeat_moves _ _ _ _ _ _
  · exact requireController_moves _ _ _

theorem unlessReplayed_progress {key : Option String} {rest : DaemonM ω Value}
    (continues : Moves (Progress written) rest) :
    Moves (Progress written) (unlessReplayed env key rest) := by
  refine .bind (remoteMutationReceipt_progress key) fun receipt => ?_
  cases receipt with
  | some => exact .pure
  | none => exact continues

/-- Closing writes down terminal records only. -/
theorem handleSessionClose_progress (params : Except IpcError CloseParams) (client : String) :
    Moves (Progress terminalOnly) (handleSessionClose env params client) :=
  .bind .ofExcept fun _ => unlessReplayed_progress (.bind progress_respects.prepareSessionAccess
    fun _ => checkAndEnd_progress rfl _ _ _ _ _ _ _)

theorem terminateAll_progress (client : String) (now : Int) :
    Moves (Progress written) (terminateAll env client now) :=
  .bind .require fun _ => .bind .reads fun _ =>
    .bind (.forEach fenceAmbiguousTransition_moves _) fun _ =>
      .bind (.forEach drainLiveOutputIntoSession_progress _) fun _ => .bind .reads
        fun snapshot => .bind (.forEach (fun _ => withSessions_progress _) _) fun _ =>
          .bind (commitSessions_progress snapshot) fun _ =>
            .bind (.forEach stopLiveHost_progress _) fun _ => .pure

/-- Terminating writes down terminal records only. -/
theorem handleSessionTerminate_progress (params : Except IpcError TerminateParams)
    (client : String) : Moves (Progress terminalOnly) (handleSessionTerminate env params client) :=
  .bind .ofExcept fun _ => unlessReplayed_progress (.bind progress_respects.prepareSessionAccess
    fun _ => .ite (fun _ => terminateAll_progress _ _) fun _ => .bind .ofExcept
      fun _ => checkAndEnd_progress rfl _ _ _ _ _ _ _)

end OwnMesh.Daemon
