import OwnMesh.Daemon.TerminalHandlers
import OwnMesh.Sessions.Effects

/-!
# What the daemon's programs touch

The daemon's state has three parts that matter here: the session stores (memory and
file), the transition journal (memory and file) and the history of what was sent to
the supervisor.  Most steps of a program keep two of the three; the lemmas say which.
The plans of the four handlers are read off their programs: what a handler has decided,
and in which state.
-/

namespace OwnMesh.Daemon

open Foundations Ipc Sessions Transitions Program DaemonRuntime
open Supervisor (SupervisorBinding Change)

variable {ω : Type} {env : Environment ω} {d d' : DaemonRuntime ω} {α : Type}

/-! ## Parts of the state -/

/-- The sessions in memory and on disk. -/
def DaemonRuntime.stores (d : DaemonRuntime ω) : SessionManager × SessionManager :=
  (d.sessions, d.sessionsFile)

/-- The transition journal in memory and on disk. -/
def DaemonRuntime.records (d : DaemonRuntime ω) :
    Table String TransitionRecord × Table String TransitionRecord :=
  (d.transitions, d.transitionsFile)

theorem sessions_of_stores (same : Keeps stores d d') : d'.sessions = d.sessions :=
  congrArg Prod.fst same

theorem sessionsFile_of_stores (same : Keeps stores d d') : d'.sessionsFile = d.sessionsFile :=
  congrArg Prod.snd same

@[simp]
theorem run_ask_bind {ε β : Type} (question : ω → α × ω)
    (next : α → Program (DaemonRuntime ω) ε β) (d : DaemonRuntime ω) :
    (ask question >>= next).run d =
      (next (question d.world).1).run { d with world := (question d.world).2 } := rfl

/-- Relations between states that do not look at the surroundings. -/
class IgnoresWorld (R : DaemonRuntime ω → DaemonRuntime ω → Prop) : Prop where
  world : ∀ (d : DaemonRuntime ω) (w : ω), R d { d with world := w }

instance : IgnoresWorld (Keeps (DaemonRuntime.stores (ω := ω))) := ⟨fun _ _ => rfl⟩

variable {R : DaemonRuntime ω → DaemonRuntime ω → Prop}

theorem ask_moves [IgnoresWorld R] {ε : Type}
    (question : ω → α × ω) : Moves R (ask question : Program (DaemonRuntime ω) ε α) :=
  fun d => IgnoresWorld.world d _

theorem withTransitions_stores (describe : String → String) (m : TransitionM ω α) :
    Moves (Keeps stores) (withTransitions describe m) :=
  fun _ => rfl

theorem onPreview_moves [Std.Refl R] (preview : SessionManager)
    (m : SessionM α) : Moves R (onPreview preview m) := by
  unfold onPreview
  split
  · exact .pure
  · exact .fail

theorem verifiedSidecarBindingFrom_moves [Std.Refl R] [IsTrans (DaemonRuntime ω) R] (id : String)
    (binding : SidecarHostBinding) : Moves R (verifiedSidecarBindingFrom id binding) := by
  refine .bind .reads fun device => ?_
  cases device with
  | none => exact .pure
  | some => exact .bind .require fun _ => .pure

theorem requireSupervisor_moves [Std.Refl R] [IsTrans (DaemonRuntime ω) R] (code : Int)
    (message : String) : Moves R (requireSupervisor code message) :=
  .bind .reads fun _ => .require

theorem requireSupervisor_run (connected : d.connected = true) (code : Int) (message : String) :
    (requireSupervisor code message).run d = (.ok (), d) :=
  run_require_of_holds connected _ _

theorem requestChange_run (binding : SupervisorBinding) (change : Change) (id : String)
    (d : DaemonRuntime ω) : (requestChange env binding change id).run d =
      (.ok (env.change binding change id d.world).1,
        { d with
          sent := d.sent ++ [.change binding change id]
          world := (env.change binding change id d.world).2 }) := rfl

theorem clearTransition_stores (what id : String) :
    Moves (Keeps stores) (clearTransition env what id) :=
  withTransitions_stores _ _

theorem sendTransition_moves [Std.Refl R] [IsTrans (DaemonRuntime ω) R] (id : String)
    {transition : SidecarTransition}
    (begins : ∀ describe : String → String, Moves R (withTransitions describe
      (beginTransition env.transitions transition.record)))
    (asks : ∀ d asked w, R d { d with sent := d.sent ++ [asked], world := w }) :
    Moves R (sendTransition env id transition) := by
  refine .bind (begins _) fun _ => .bind (verifiedSidecarBindingFrom_moves _ _) fun _ =>
    .bind (requireSupervisor_moves _ _) fun _ => .bind (fun d => asks d _ _) fun answer => ?_
  cases answer with
  | error => exact .fail
  | ok =>
    dsimp only
    split
    · exact .fail
    · exact .pure

theorem prepareTransition_stores (plan : Plan ω) (transition : SidecarTransition) :
    Moves (Keeps stores) (prepareTransition env plan transition) :=
  .bind (sendTransition_moves _ (fun _ => withTransitions_stores _ _) fun _ _ _ => rfl) fun _ =>
    .bind (withTransitions_stores _ _) fun _ =>
    .bind (onPreview_moves _ _) fun _ => .pure

theorem answerPlan_moves [Std.Refl R] [IsTrans (DaemonRuntime ω) R]
    (journals : ∀ d j, R d { d with toJournal := j }) (plan : Plan ω) :
    Moves R (answerPlan env plan) :=
  .bind .reads fun _ => .bind .ofExcept fun _ => .bind (fun d => journals d _) fun _ => .pure

/-! ## Records past their time

Looking for proof that a host is dead changes neither sessions nor records. -/

/-- Sessions and records, in memory and on disk. -/
def DaemonRuntime.contents (d : DaemonRuntime ω) : (SessionManager × SessionManager) ×
      (Table String TransitionRecord × Table String TransitionRecord) :=
  (d.stores, d.records)

theorem stores_of_contents (same : Keeps contents d d') : Keeps stores d d' :=
  congrArg Prod.fst same

theorem records_of_contents (same : Keeps contents d d') : Keeps records d d' :=
  congrArg Prod.snd same

instance : IgnoresWorld (Keeps (DaemonRuntime.contents (ω := ω))) := ⟨fun _ _ => rfl⟩

section Expired

variable {R : DaemonRuntime ω → DaemonRuntime ω → Prop} [Std.Refl R] [IsTrans (DaemonRuntime ω) R]
  [IgnoresWorld R] {ε : Type}

theorem probeChild_moves (binding : SidecarHostBinding) :
    Moves R (probeChild env binding : Program (DaemonRuntime ω) ε ProcessProof) := by
  unfold probeChild
  split
  · refine .bind (ask_moves _) fun answer => ?_
    rcases answer with _ | _ | _ <;> exact .pure
  · exact .pure

theorem probeChildren_moves (bindings : List SidecarHostBinding) (need : Bool) :
    Moves R (probeChildren env bindings need : Program (DaemonRuntime ω) ε (Option Bool)) := by
  induction bindings generalizing need with
  | nil => exact .pure
  | cons binding rest ih =>
    refine .bind (probeChild_moves binding) fun proof => ?_
    cases proof with
    | dead => exact ih need
    | live => exact .pure
    | unknown => exact ih true

theorem proveExpiredSidecarDead_moves (env : Environment ω) (record : TransitionRecord) :
    Moves R (proveExpiredSidecarDead env record) := by
  refine .bind (probeChildren_moves _ _) fun need => ?_
  rcases need with _ | _ | _
  · exact .pure
  · exact .pure
  · refine .bind .reads fun _ => .bind .require fun _ => .bind (ask_moves _)
      fun answer => ?_
    cases answer with
    | error => exact .fail
    | ok => exact .pure

theorem refuseLiveHost_moves (record : TransitionRecord) (current : SessionInfo) :
    Moves R (refuseLiveHost env record current) := by
  unfold refuseLiveHost
  split
  · exact .pure
  · exact .whenever fun _ => .bind (ask_moves _) fun _ => .require

/-- What recovery has found out when it clears a record past its time: the record bounds its
hosts, they are proven dead, and the session is gone, or closed and not bound to one of them. -/
structure Moot (env : Environment ω) (record : TransitionRecord) (d : DaemonRuntime ω) : Prop where
  bounded : hostOutlivesRecord record = false
  dead : ((proveExpiredSidecarDead env record).run d).1 = .ok true
  ended : d.sessions.get record.sessionId = .error .notFound ∨
    ∃ current, d.sessions.get record.sessionId = .ok current ∧ current.state = .closed ∧
      ∃ s, (refuseLiveHost env record current).run
        ((proveExpiredSidecarDead env record).run d).2 = (.ok (), s)

variable (R) in
/-- A record past its time is retained, or it is moot and cleared. -/
theorem reconcileExpiredTransitionRecord_cases (record : TransitionRecord) (d : DaemonRuntime ω) :
    (∃ e s, R d s ∧ (reconcileExpiredTransitionRecord env record).run d = (.error e, s)) ∨
      Moot env record d ∧ ∃ what s, R d s ∧ (reconcileExpiredTransitionRecord env record).run d =
        (clearTransition env what record.transitionId).run s := by
  have probed : R d ((proveExpiredSidecarDead env record).run d).2 :=
    proveExpiredSidecarDead_moves env record d
  have sessions : ((proveExpiredSidecarDead env record).run d).2.sessions = d.sessions :=
    sessions_of_stores (proveExpiredSidecarDead_moves env record d)
  unfold reconcileExpiredTransitionRecord
  by_cases bounded : hostOutlivesRecord record = false
  · rw [run_bind_of_ok (run_require_of_holds bounded _ _), run_attempt_bind]
    rcases dead : ((proveExpiredSidecarDead env record).run d).1 with message | _ | _
    · exact .inl ⟨_, _, probed, rfl⟩
    · exact .inl ⟨_, _, probed, rfl⟩
    · simp only [run_reads_bind, sessions]
      rcases found : d.sessions.get record.sessionId with e | current
      · cases e with
        | notFound => exact .inr ⟨⟨bounded, dead, .inl found⟩, _, _, probed, rfl⟩
        | _ => exact .inl ⟨_, _, probed, rfl⟩
      · by_cases closed : current.state = .closed
        · simp only [if_pos closed]
          rcases ran : (refuseLiveHost env record current).run
            ((proveExpiredSidecarDead env record).run d).2 with ⟨e | _, s⟩
          · exact .inl ⟨e, s, trans_of R probed ((refuseLiveHost_moves record current).of_eq ran),
              run_bind_of_error ran⟩
          · exact .inr ⟨⟨bounded, dead, .inr ⟨current, found, closed, s, ran⟩⟩, _, s,
              trans_of R probed ((refuseLiveHost_moves record current).of_eq ran),
              run_bind_of_ok ran⟩
        · simp only [if_neg closed]
          exact .inl ⟨_, _, probed, rfl⟩
  · exact .inl ⟨_, d, refl_of R d, run_bind_of_error (run_require_of_not bounded _ _)⟩

/-- All a record past its time can lead to is that it is cleared. -/
theorem reconcileExpiredTransitionRecord_moves {record : TransitionRecord}
    (clears : ∀ what, Moves R (clearTransition env what record.transitionId)) :
    Moves R (reconcileExpiredTransitionRecord env record) := by
  intro d
  rcases reconcileExpiredTransitionRecord_cases R record d with
    ⟨e, s, moved, ran⟩ | ⟨-, what, s, moved, ran⟩
  · rw [ran]
    exact moved
  · rw [ran]
    exact trans_of R moved (clears what s)

end Expired

/-! ## The passes of recovery -/

/-- Relations that look neither at the surroundings nor at what the daemon notes about
the recovery itself. -/
class IgnoresHealth (R : DaemonRuntime ω → DaemonRuntime ω → Prop) : Prop
    extends IgnoresWorld R where
  health : ∀ (d : DaemonRuntime ω) (running : Bool) (retained : List String) (total : Nat),
    R d { d with
      transitionRecoveryRunning := running
      retainedExpired := retained
      retainedExpiredTotal := total }

section Passes

variable {R : DaemonRuntime ω → DaemonRuntime ω → Prop} [Std.Refl R] [IsTrans (DaemonRuntime ω) R]
  [IgnoresHealth R] {ε : Type}

omit [Std.Refl R] [IsTrans (DaemonRuntime ω) R] in
theorem setRecoveryRunning_moves (running : Bool) :
    Moves R (setRecoveryRunning running : Program (DaemonRuntime ω) ε Unit) :=
  .modify fun d => IgnoresHealth.health d running d.retainedExpired d.retainedExpiredTotal

omit [Std.Refl R] in
theorem refreshTransitionRecoveryHealth_moves :
    Moves R (refreshTransitionRecoveryHealth env : Program (DaemonRuntime ω) ε Unit) :=
  .bind (ask_moves _) fun _ => .modify fun d =>
    IgnoresHealth.health d d.transitionRecoveryRunning _ _

omit [IsTrans (DaemonRuntime ω) R] in
theorem recordTransitionRecoveryIssue_moves (id : String) :
    Moves R (recordTransitionRecoveryIssue id : Program (DaemonRuntime ω) ε Unit) := by
  refine .modify fun d => ?_
  split
  · exact refl_of R d
  · exact IgnoresHealth.health d d.transitionRecoveryRunning _ _

/-- The pass over expired records clears records and does nothing else. -/
theorem reconcileExpiredTransitions_moves
    (clears : ∀ what id, Moves R (clearTransition env what id)) :
    Moves R (reconcileExpiredTransitions env : Program (DaemonRuntime ω) ε Unit) := by
  refine .bind .reads fun _ => .whenever fun _ => .bind (setRecoveryRunning_moves true)
    fun _ => .bind .reads fun records => .bind (ask_moves _) fun now =>
      .bind (.forEach (fun record => .whenever fun _ => ?_) records) fun _ =>
        .bind refreshTransitionRecoveryHealth_moves fun _ => setRecoveryRunning_moves false
  refine .bind (.attempt (reconcileExpiredTransitionRecord_moves fun _ => clears _ _))
    fun outcome => ?_
  cases outcome with
  | ok => exact .pure
  | error => exact recordTransitionRecoveryIssue_moves _

/-- The replay pass recovers the records that are there. -/
theorem replayPending_moves {start : DaemonRuntime ω}
    (recovers : ∀ record ∈ start.transitionJournal.pending,
      Moves R (recoverTransitionRecord env record)) :
    R start ((replayPending env).run start).2 := by
  have rounds : ∀ now, Moves R (attempt (forEach (recoverRound env now)
      start.transitionJournal.pending) : DaemonM ω _) := fun now =>
    .attempt (.forEach_mem fun record waits => .whenever fun _ => recovers record waits)
  have rest : Moves R (do
      let now ← ask env.now
      let outcome ← attempt (forEach (recoverRound env now) start.transitionJournal.pending)
      setRecoveryRunning false
      ofExcept outcome : DaemonM ω Unit) :=
    .bind (ask_moves _) fun now => .bind (rounds now) fun outcome =>
      .bind (setRecoveryRunning_moves false) fun _ => .ofExcept
  exact trans_of R (setRecoveryRunning_moves (ε := IpcError) true start) (rest _)

end Passes

variable {u : Unit} {id : String} {a : α} {m : SessionM α}

theorem replayChange_eq_none {record : TransitionRecord}
    (terminal : record.kind.isTerminal = true) : replayChange record = none := by
  cases kind : record.kind <;> simp_all [replayChange, TransitionKind.isTerminal]

/-- The daemon after it has looked at the clock. -/
def DaemonRuntime.tick (env : Environment ω) (d : DaemonRuntime ω) : DaemonRuntime ω :=
  { d with world := (env.now d.world).2 }

/-- A record past its time is only reconciled. -/
theorem recoverTransitionRecord_expired {record : TransitionRecord}
    (past : record.expiresUnix ≤ (env.now d.world).1) : (recoverTransitionRecord env record).run d =
      (reconcileExpiredTransitionRecord env record).run (d.tick env) := by
  rw [recoverTransitionRecord, run_ask_bind, if_pos past]
  rfl

/-- A record in its window whose session is there is recovered with that session. -/
theorem recoverTransitionRecord_present {record : TransitionRecord} {current : SessionInfo}
    (within_ : ¬ record.expiresUnix ≤ (env.now d.world).1)
    (present : d.sessions.get record.sessionId = .ok current) :
    (recoverTransitionRecord env record).run d =
      (recoverSession env record current).run (d.tick env) := by
  rw [recoverTransitionRecord, run_ask_bind, if_neg within_, run_reads_bind, present]
  rfl

/-! ## Writing the sessions -/

/-- A write that succeeds makes the file what memory is. -/
theorem commitSessions_of_written {snapshot : SessionManager} {w : ω}
    (written : env.writeSessions d.sessions d.world = (none, w)) :
    (commitSessions env snapshot).run d =
      (.ok (), { d with sessionsFile := d.sessions, world := w }) := by
  simp only [commitSessions, persistSessions, run_attempt_bind, run_reads_bind,
    run_ask_bind, written]
  rfl

/-- A write that fails puts the snapshot in memory and leaves the file alone. -/
theorem commitSessions_of_failed {snapshot : SessionManager} {w : ω} {reason : String}
    (failed : env.writeSessions d.sessions d.world = (some reason, w)) :
    (commitSessions env snapshot).run d =
      (.error (.remote AppError.internal s!"session persist failed: {reason}"),
        { d with sessions := snapshot, world := w }) := by
  simp only [commitSessions, persistSessions, run_attempt_bind, run_reads_bind,
    run_ask_bind, failed]
  rfl

/-- Writing the sessions, or going back to the snapshot. -/
theorem commitSessions_moves {snapshot : SessionManager}
    (wrote : ∀ d w, R d { d with sessionsFile := d.sessions, world := w })
    (restored : ∀ d w, R d { d with sessions := snapshot, world := w }) :
    Moves R (commitSessions env snapshot) := by
  intro d
  rcases written : env.writeSessions d.sessions d.world with ⟨_ | reason, w⟩
  · rw [commitSessions_of_written written]
    exact wrote d w
  · rw [commitSessions_of_failed written]
    exact restored d w

/-! ## Surroundings in which writes succeed -/

/-- Every write of the sessions and of the transition journal succeeds. -/
structure Writable (env : Environment ω) : Prop where
  sessions : ∀ m w, (env.writeSessions m w).1 = none
  transitions : ∀ bytes w, (env.transitions.write bytes w).1 = .written
  encodes : ∀ disk, ∃ bytes, env.transitions.encode disk = .ok bytes ∧ bytes.length ≤ maxBytes

theorem Writable.commitSessions (writable : Writable env) (snapshot : SessionManager)
    (d : DaemonRuntime ω) : ∃ d', (Daemon.commitSessions env snapshot).run d = (.ok (), d') ∧
      d'.stores = (d.sessions, d.sessions) ∧ d'.records = d.records := by
  rcases outcome : env.writeSessions d.sessions d.world with ⟨_ | reason, w⟩
  · exact ⟨_, commitSessions_of_written outcome, rfl, rfl⟩
  · have success := writable.sessions d.sessions d.world
    rw [outcome] at success
    cases success

theorem Writable.replaceEntries (writable : Writable env) (next : Table String TransitionRecord)
    (j : TransitionJournal ω) :
    ∃ w, (Transitions.replaceEntries env.transitions next).run j = (.ok (), ⟨next, next, w⟩) := by
  obtain ⟨bytes, encoded, fits⟩ := writable.encodes ⟨version, next⟩
  have success := writable.transitions bytes j.world
  refine ⟨(env.transitions.write bytes j.world).2, ?_⟩
  simp only [Transitions.replaceEntries, Transitions.persist, run_reads_bind,
    run_modify_bind, run_attempt_bind, encoded]
  rw [run_bind_of_ok (run_require_of_holds fits _ _)]
  simp only [replaceFile, success]
  rfl

theorem withTransitions_run {describe : String → String} {m : TransitionM ω α}
    {r : Except String α} {j : TransitionJournal ω} (ran : m.run d.transitionJournal = (r, j)) :
    (withTransitions describe m).run d =
      (r.mapError fun reason => .remote AppError.internal (describe reason),
        d.setTransitionJournal j) := by
  simp only [withTransitions, run_mapError, run_zoom, ran]

/-- Clearing a record that is there removes it from memory and from the file. -/
theorem Writable.clearTransition (writable : Writable env) (what : String)
    {record : TransitionRecord} (found : d.transitions.lookup id = some record) :
    ∃ d', (Daemon.clearTransition env what id).run d = (.ok (), d') ∧ d'.stores = d.stores ∧
      d'.records = (d.transitions.erase id, d.transitions.erase id) := by
  obtain ⟨w, replaced⟩ :=
    writable.replaceEntries (d.transitions.erase id) d.transitionJournal
  have cleared : (clear env.transitions id).run d.transitionJournal =
      (.ok (), ⟨d.transitions.erase id, d.transitions.erase id, w⟩) := by
    simp only [clear, run_reads_bind]
    rw [show d.transitionJournal.entries.lookup id = some record from found]
    exact replaced
  exact ⟨_, withTransitions_run cleared, rfl, rfl⟩

/-- The record of an interrupted transition is found again. -/
theorem recordAt_run {record : TransitionRecord} (found : d.transitions.lookup id = some record) :
    (recordAt id).run d.transitionJournal = (.ok record, d.transitionJournal) := by
  simp only [recordAt, run_reads_bind]
  rw [show d.transitionJournal.entries.lookup id = some record from found]
  rfl

/-- A call that stores a valid record of its own succeeds. -/
theorem Writable.notes (writable : Writable env) (call : TransitionM ω Unit)
    {marked : TransitionRecord} (valid : validate marked = .ok ())
    (stores : call.run d.transitionJournal =
      (Transitions.storeApplied env.transitions id marked).run d.transitionJournal)
    (describe : String → String) : ∃ d', (withTransitions describe call).run d = (.ok (), d') ∧
      d'.stores = d.stores ∧
      d'.records = (d.transitions.insert id marked, d.transitions.insert id marked) := by
  obtain ⟨w, replaced⟩ :=
    writable.replaceEntries (d.transitions.insert id marked) d.transitionJournal
  rw [Transitions.storeApplied, valid, run_bind_of_ok (run_ofExcept _ _)] at stores
  exact ⟨_, withTransitions_run (stores.trans replaced), rfl, rfl⟩

/-- Recovery ends by writing the sessions in memory and removing its record. -/
theorem Writable.finishRecovery (writable : Writable env) {record marked : TransitionRecord}
    (journaled : d.transitions.lookup record.transitionId = some marked)
    (snapshot : SessionManager) :
    ∃ d', (Daemon.finishRecovery env record snapshot).run d = (.ok (), d') ∧
      d'.stores = (d.sessions, d.sessions) ∧ d'.records = (d.transitions.erase record.transitionId,
        d.transitions.erase record.transitionId) := by
  obtain ⟨a, committed, stores, records⟩ := writable.commitSessions snapshot d
  obtain ⟨transitions, -⟩ := Prod.mk.inj records
  rw [← transitions] at journaled ⊢
  obtain ⟨b, cleared, stores', records'⟩ :=
    writable.clearTransition "clear recovered transition journal" journaled
  exact ⟨b, (run_bind_of_ok committed).trans cleared, stores'.trans stores, records'⟩

/-! ## The checks of a request -/

theorem withSessions_ok (ran : (withSessions m).run d = (.ok a, d')) :
    ∃ sessions, m.run d.sessions = (.ok a, sessions) ∧ d' = { d with sessions := sessions } := by
  simp only [withSessions, run_mapError, run_zoom] at ran
  rcases result : m.run d.sessions with ⟨_ | b, sessions⟩ <;> rw [result] at ran
  · cases ran
  · cases ran
    exact ⟨sessions, rfl, rfl⟩

theorem withSessions_run {r : Except SessionError α} {sessions : SessionManager}
    (ran : m.run d.sessions = (r, sessions)) :
    (withSessions m).run d = (r.mapError sessionErr, { d with sessions := sessions }) := by
  simp only [withSessions, run_mapError, run_zoom, ran]

variable {info : SessionInfo}

/-- Setting a part of a session that is there. -/
theorem withSessions_setInfo (found : d.sessions.get id = .ok info)
    (f : SessionInfo → SessionInfo) : ∃ d', (withSessions (setInfo id f)).run d = (.ok (), d') ∧
      d'.sessions.get id = .ok (f info) ∧ d'.records = d.records := by
  refine ⟨_, withSessions_run (setInfo_run found f), ?_, rfl⟩
  rw [get_updateInfo, found]
  rfl

theorem withSessions_info_ok (ran : (withSessions (Sessions.info id)).run d = (.ok info, d')) :
    d.sessions.get id = .ok info ∧ d = d' := by
  obtain ⟨sessions, looked, rfl⟩ := withSessions_ok ran
  obtain ⟨found, rfl⟩ := info_ok_iff.mp looked
  exact ⟨found, rfl⟩

theorem requireReader_ok {principal : String}
    (ran : (requireReader id principal).run d = (.ok u, d')) : d = d' := by
  simp only [requireReader, run_reads_bind] at ran
  split at ran <;> cases ran
  rfl

theorem requireSessionWorkspace_ok {workspace : String} {wanted : Option String}
    (ran : (requireSessionWorkspace id wanted).run d = (.ok workspace, d')) :
    d = d' ∧ ∃ info, d.sessions.get id = .ok info ∧
      workspace = boundWorkspace info.workspaceId := by
  obtain ⟨info, s, looked, ran⟩ := bind_ok_iff.mp ran
  obtain ⟨found, rfl⟩ := withSessions_info_ok looked
  split at ran
  · cases ran
    exact ⟨rfl, info, found, rfl⟩
  · obtain ⟨_, s, agreed, ran⟩ := bind_ok_iff.mp ran
    obtain ⟨-, rfl⟩ := require_ok_iff.mp agreed
    cases ran
    exact ⟨rfl, info, found, rfl⟩

/-- No record of the transition journal is about the session. -/
def Unfenced (d : DaemonRuntime ω) (id : String) : Prop :=
  d.transitionJournal.pending.any (fun record => record.sessionId == id) = false

theorem fenceAmbiguousTransition_ok
    (ran : (fenceAmbiguousTransition env id).run d = (.ok u, d')) : Unfenced d id ∧ d = d' := by
  obtain ⟨unfenced, same⟩ := require_ok_iff.mp ran
  exact ⟨unfenced, same⟩

theorem onPreview_ok {preview next : SessionManager}
    (ran : (onPreview preview m).run d = (.ok (a, next), d')) :
    m.run preview = (.ok a, next) ∧ d = d' := by
  unfold onPreview at ran
  split at ran
  · cases ran
    exact ⟨by assumption, rfl⟩
  · cases ran

variable {client : String}

theorem reserve_ok {key : Option String} {workspace : String} {now : Int}
    {snapshot : SessionManager} {checked : Checked}
    (ran : (reserve env id client key workspace now snapshot).run d = (.ok checked, d')) :
    Keeps stores d d' ∧ Keeps records d d' ∧ ∃ operation current, d'.sessions.get id = .ok current ∧
        checked = ⟨workspace, operation, now, snapshot, current.sidecarHost⟩ := by
  obtain ⟨operation, a, named, ran⟩ := bind_ok_iff.mp ran
  obtain ⟨_, b, reserved, ran⟩ := bind_ok_iff.mp ran
  obtain ⟨current, c, looked, ran⟩ := bind_ok_iff.mp ran
  obtain ⟨found, rfl⟩ := withSessions_info_ok looked
  cases ran
  have named : a.stores = d.stores ∧ a.records = d.records := by
    simp only [operationId, run_reads_bind] at named
    split at named
    · cases named
      exact ⟨rfl, rfl⟩
    · rw [run_ask_bind] at named
      cases named
      exact ⟨rfl, rfl⟩
  simp only [withJournal, run_zoom, Prod.mk.injEq] at reserved
  obtain ⟨-, rfl⟩ := reserved
  exact ⟨named.1, named.2, operation, current, found, rfl⟩

/-! ## The plans of the handlers -/

/-- The facts a handler has checked about its session, in the state its plan is made
for. -/
structure CheckedIn (d : DaemonRuntime ω) (id : String) (checked : Checked) : Prop where
  snapshot : checked.snapshot = d.sessions
  unfenced : Unfenced d id
  current : ∃ info, d.sessions.get id = .ok info ∧ checked.sidecarHost = info.sidecarHost ∧
    checked.workspace = boundWorkspace info.workspaceId

/-- A handler previews its change and reserves its operation; what it has checked then
still holds in the state its plan is made for. -/
theorem reserved_ok {β : Type} {key : Option String} {now : Int} {made : α}
    {snapshot : SessionManager} {m : SessionM β} {next : β × SessionManager → Checked → DaemonM ω α}
    (ran : (do
      let previewed ← onPreview snapshot m
      let checked ← reserve env id client key (boundWorkspace info.workspaceId) now snapshot
      next previewed checked).run d = (.ok made, d'))
    (found : snapshot.get id = .ok info) (unfenced : Unfenced d id)
    (copied : snapshot = d.sessions) :
    ∃ result preview checked b, m.run b.sessions = (.ok result, preview) ∧
      CheckedIn b id checked ∧ checked.now = now ∧
      (next (result, preview) checked).run b = (.ok made, d') := by
  subst copied
  obtain ⟨⟨result, preview⟩, _, previewed, ran⟩ := bind_ok_iff.mp ran
  obtain ⟨changed, rfl⟩ := onPreview_ok previewed
  obtain ⟨_, b, reserved, ran⟩ := bind_ok_iff.mp ran
  obtain ⟨stores, records, operation, current, looked, rfl⟩ := reserve_ok reserved
  have sessions : b.sessions = d.sessions := sessions_of_stores stores
  have transitions : b.transitions = d.transitions := congrArg Prod.fst records
  have agree : current = info := by
    rw [sessions, found] at looked
    exact (Except.ok.inj looked).symm
  subst agree
  refine ⟨result, preview, _, b, by rw [sessions]; exact changed,
    ⟨sessions.symm, ?_, current, looked, rfl, rfl⟩, rfl, ran⟩
  unfold Unfenced transitionJournal TransitionJournal.pending at unfenced ⊢
  rw [transitions]
  exact unfenced

variable {plan : Plan ω}

/-- What a plan is, whichever of the four requests it answers. -/
inductive PlanOf (env : Environment ω) (client : String) (d : DaemonRuntime ω) :
    SeatRequest → Plan ω → Prop where
  | claim {p : ClaimParams} {checked : Checked} {fresh : String} {lease : ControllerLease}
      {preview : SessionManager} (checkedIn : CheckedIn d p.id checked)
      (claimed : (claimController p.id client checked.now fresh).run d.sessions =
        (.ok lease, preview)) :
      PlanOf env client d (.claim (.ok p)) (claimPlan env p client checked lease preview)
  | renew {p : RenewParams} {checked : Checked} {lease : ControllerLease}
      {preview : SessionManager} (checkedIn : CheckedIn d p.id checked)
      (renewed : (renewControllerLease p.id client p.leaseId p.controllerEpoch checked.now
        p.ttlSecs).run d.sessions = (.ok lease, preview)) :
      PlanOf env client d (.renew (.ok p)) (renewPlan env p client checked lease preview)
  | detach {p : DetachParams} {checked : Checked} {preview : SessionManager}
      {left : SessionInfo} (checkedIn : CheckedIn d p.id checked)
      (detached : (detachControllerLease p.id client p.leaseId p.controllerEpoch
        checked.now).run d.sessions = (.ok (), preview))
      (after : preview.get p.id = .ok left) :
      PlanOf env client d (.detach (.ok p))
        (detachPlan env p client checked left.controllerEpoch preview)
  | give {p : GiveParams} {checked : Checked} {receiver fresh : String}
      {lease : ControllerLease} {preview : SessionManager}
      (checkedIn : CheckedIn d p.id checked)
      (given : (giveController p.id client receiver checked.now fresh).run d.sessions =
        (.ok lease, preview)) :
      PlanOf env client d (.give (.ok p)) (givePlan env p client checked lease preview)

/-- The first checks of a request: its session is bound to the workspace, and no record
waits for it. -/
theorem boundUnfenced_ok {wanted : Option String} {next : String → DaemonM ω α} (ran : (do
      let workspace ← requireSessionWorkspace id wanted
      fenceAmbiguousTransition env id
      next workspace).run d = (.ok a, d')) :
    ∃ info, d.sessions.get id = .ok info ∧ Unfenced d id ∧
      (next (boundWorkspace info.workspaceId)).run d = (.ok a, d') := by
  obtain ⟨workspace, b, within_, ran⟩ := bind_ok_iff.mp ran
  obtain ⟨rfl, info, found, rfl⟩ := requireSessionWorkspace_ok within_
  obtain ⟨_, b, fence, ran⟩ := bind_ok_iff.mp ran
  obtain ⟨unfenced, rfl⟩ := fenceAmbiguousTransition_ok fence
  exact ⟨info, found, unfenced, ran⟩

theorem planClaim_ok {p : ClaimParams} (ran : (planClaim env p client).run d = (.ok plan, d')) :
    PlanOf env client d' (.claim (.ok p)) plan := by
  obtain ⟨now, a, -, ran⟩ := bind_ok_iff.mp ran
  obtain ⟨_, b, reader, ran⟩ := bind_ok_iff.mp ran
  obtain rfl := requireReader_ok reader
  obtain ⟨workspace, b, within_, ran⟩ := bind_ok_iff.mp ran
  obtain ⟨rfl, info, found, rfl⟩ := requireSessionWorkspace_ok within_
  rw [run_reads_bind] at ran
  obtain ⟨_, b, fence, ran⟩ := bind_ok_iff.mp ran
  obtain ⟨unfenced, rfl⟩ := fenceAmbiguousTransition_ok fence
  obtain ⟨lease, preview, checked, b, claimed, checkedIn, rfl, planned⟩ :=
    reserved_ok ran found unfenced rfl
  cases planned
  exact .claim checkedIn claimed

theorem planRenew_ok {p : RenewParams} (ran : (planRenew env p client).run d = (.ok plan, d')) :
    PlanOf env client d' (.renew (.ok p)) plan := by
  obtain ⟨now, a, -, ran⟩ := bind_ok_iff.mp ran
  obtain ⟨info, found, unfenced, ran⟩ := boundUnfenced_ok ran
  obtain ⟨lease, preview, checked, b, renewed, checkedIn, rfl, planned⟩ :=
    reserved_ok ran found unfenced rfl
  cases planned
  exact .renew checkedIn renewed

theorem planDetach_ok {p : DetachParams} (ran : (planDetach env p client).run d = (.ok plan, d')) :
    PlanOf env client d' (.detach (.ok p)) plan := by
  obtain ⟨now, a, -, ran⟩ := bind_ok_iff.mp ran
  obtain ⟨info, found, unfenced, ran⟩ := boundUnfenced_ok ran
  obtain ⟨_, preview, checked, b, detached, checkedIn, rfl, planned⟩ :=
    reserved_ok ran found unfenced rfl
  obtain ⟨⟨left, copy⟩, c, looked, made⟩ := bind_ok_iff.mp planned
  obtain ⟨read, rfl⟩ := onPreview_ok looked
  obtain ⟨left_of, rfl⟩ := info_ok_iff.mp read
  cases made
  exact .detach checkedIn detached left_of

theorem authorizeRemoteSeat_ok {method : String} {leaseId : Option String} {epoch : Option Nat}
    {now : Int}
    (ran : (authorizeRemoteSeat method id client leaseId epoch now).run d = (.ok u, d')) :
    d = d' := by
  unfold authorizeRemoteSeat at ran
  split at ran
  · cases ran
  · cases ran
  · obtain ⟨sessions, authorized, rfl⟩ := withSessions_ok ran
    obtain ⟨info, m, looked, held⟩ := bind_ok_iff.mp authorized
    obtain ⟨-, rfl⟩ := info_ok_iff.mp looked
    obtain ⟨-, rfl⟩ := require_ok_iff.mp held
    rfl

theorem planGive_ok {p : GiveParams} (ran : (planGive env p client).run d = (.ok plan, d')) :
    PlanOf env client d' (.give (.ok p)) plan := by
  obtain ⟨now, a, -, ran⟩ := bind_ok_iff.mp ran
  obtain ⟨info, found, unfenced, ran⟩ := boundUnfenced_ok ran
  obtain ⟨_, b, seated, ran⟩ := bind_ok_iff.mp ran
  have unmoved : a = b := by
    unfold whenever at seated
    split at seated
    · exact authorizeRemoteSeat_ok seated
    · cases seated
      rfl
  subst unmoved
  obtain ⟨receiver, b, named, ran⟩ := bind_ok_iff.mp ran
  rw [run_ofExcept, Prod.mk.injEq] at named
  obtain ⟨-, rfl⟩ := named
  obtain ⟨lease, preview, checked, b, given, checkedIn, rfl, planned⟩ :=
    reserved_ok ran found unfenced rfl
  cases planned
  exact .give checkedIn given

/-- What is planned is planned for the parameters the request came with. -/
theorem admitted_planned {params : Except IpcError α} {rejects : α → DaemonM ω Unit}
    {key : α → Option String} {plans : α → DaemonM ω (Plan ω)} (ran : (do
      let p ← ofExcept params
      rejects p
      admitOnce env (key p) (plans p)).run d = (.ok (.planned plan), d')) :
    ∃ p a, params = .ok p ∧ (plans p).run a = (.ok plan, d') := by
  obtain ⟨p, a, parsed, ran⟩ := bind_ok_iff.mp ran
  cases parsed
  obtain ⟨_, a, -, ran⟩ := bind_ok_iff.mp ran
  obtain ⟨receipt, a, looked, ran⟩ := bind_ok_iff.mp ran
  cases receipt with
  | some => cases ran
  | none =>
    obtain ⟨made, b, planned, ran⟩ := bind_ok_iff.mp ran
    cases ran
    exact ⟨p, a, rfl, planned⟩

/-- A request that is not answered from a receipt is planned as its handler says. -/
theorem planOf_admitted {request : SeatRequest}
    (ran : (admitSeat env client request).run d = (.ok (.planned plan), d')) :
    PlanOf env client d' request plan := by
  cases request with
  | claim =>
    obtain ⟨p, a, rfl, planned⟩ := admitted_planned ran
    exact planClaim_ok planned
  | renew =>
    obtain ⟨p, a, rfl, planned⟩ := admitted_planned ran
    exact planRenew_ok planned
  | detach =>
    obtain ⟨p, a, rfl, planned⟩ := admitted_planned ran
    exact planDetach_ok planned
  | give =>
    obtain ⟨p, a, rfl, planned⟩ := admitted_planned ran
    exact planGive_ok planned

namespace PlanOf

variable {client : String} {request : SeatRequest} {plan : Plan ω}

section

variable (planned : PlanOf env client d request plan)
include planned

theorem sessionId : request.sessionId = some plan.sessionId := by
  cases planned <;> rfl

/-- The copy a plan goes back to is memory as the plan found it. -/
theorem snapshot : plan.snapshot = d.sessions := by
  cases planned with
  | claim checkedIn | renew checkedIn | detach checkedIn | give checkedIn =>
    exact checkedIn.snapshot

/-- The copy a plan installs differs from memory in its own session only. -/
theorem preview : Elsewhere plan.sessionId d.sessions plan.preview := by
  cases planned with
  | claim _ claimed =>
    exact (claimController_moves (fun f _ => updateInfo_moves _ f) _ _ _).of_eq claimed
  | renew _ renewed =>
    exact (renewControllerLease_moves (fun f _ => updateInfo_moves _ f) _ _ _ _ _).of_eq renewed
  | detach _ detached =>
    exact (detachControllerLease_moves (fun f _ => updateInfo_moves _ f) _ _ _ _).of_eq detached
  | give _ given =>
    exact (giveController_moves (fun f _ => updateInfo_moves _ f) _ _ _ _).of_eq given

end

/-- The record of a plan is about the session of the plan and moves its seat; it is
written down before the supervisor is asked. -/
theorem record (planned : PlanOf env client d request plan) {transition : SidecarTransition}
    (hosted : plan.sidecar = some transition) : transition.record.sessionId = plan.sessionId ∧
      transition.record.kind.isTerminal = false ∧ transition.record.phase = .intent := by
  cases planned <;>
    · obtain ⟨old, -, rfl⟩ := Option.map_eq_some_iff.mp hosted
      exact ⟨rfl, rfl, rfl⟩

/-- No record waits for the session of a plan. -/
theorem unfenced (planned : PlanOf env client d request plan) : Unfenced d plan.sessionId := by
  cases planned with
  | claim checkedIn | renew checkedIn | detach checkedIn | give checkedIn =>
    exact checkedIn.unfenced

end PlanOf

end OwnMesh.Daemon
