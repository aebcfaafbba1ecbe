import OwnMesh.Daemon.JournalEffects
import OwnMesh.Foundations.Run
import OwnMesh.Transitions.Reopening

/-!
# Requests that are refused

A handler writes its transition down before it checks that the request came from the
device the session is bound to.  A request it refuses at that check leaves a record in
the journal, and recovery, which knows nothing of devices, performs it later.  So does a
request that is refused because writing its record failed, when the failure came after the
new file was in place: the next daemon finds the record there.

`refusedTransition_stays_refused_iff` says which refused requests leave nothing behind, and
that a transition which left nothing behind is never performed by recovery, in whatever
state the daemon is later.  `claim_refused_then_performed` is a request that is.
-/

namespace OwnMesh.Daemon

open Foundations Ipc Sessions Transitions Program List AList DaemonRuntime
open Supervisor (SupervisorBinding Change)

variable {ω : Type} {env : Environment ω} {d d' : DaemonRuntime ω}

/-! ## What it means to perform a transition -/

/-- The lease a record installs when it is recovered. -/
def grant (record : TransitionRecord) : Option ControllerLease :=
  if record.target.controllerAttached then
    record.target.leaseId.map fun leaseId =>
      { principalId := record.target.principal
        leaseId := leaseId
        epoch := record.target.controllerEpoch
        expiresUnix := record.target.bindingExpiresUnix }
  else none

/-- Two records that move the seat of one session stand for the same transition when they
carry the same identifier, or install the same lease. -/
def SameTransition (refused record : TransitionRecord) : Prop :=
  record.sessionId = refused.sessionId ∧ record.kind.isTerminal = false ∧
    (record.transitionId = refused.transitionId ∨
      ∃ lease, grant refused = some lease ∧ grant record = some lease)

/-- A change asked of the supervisor for a transition. -/
def Sent.asksFor (record : TransitionRecord) : Sent → Bool
  | change binding _ id =>
    decide (binding.sessionId = record.sessionId ∧ id = record.transitionId)
  | terminate _ _ => false

/-- A session has a given lease. -/
def Holds (id : String) (lease : ControllerLease) (m : SessionManager) : Prop :=
  ∃ info, m.get id = .ok info ∧ info.controller = some lease

/-- A session has a given lease in memory or on disk. -/
def Seated (id : String) (lease : ControllerLease) (d : DaemonRuntime ω) : Prop :=
  Holds id lease d.sessions ∨ Holds id lease d.sessionsFile

/-- A transition has not been performed between two states: the supervisor was not asked
for it, and its lease was not installed. -/
structure Passive (refused : TransitionRecord) (d d' : DaemonRuntime ω) : Prop where
  asked : d'.sent.filter (Sent.asksFor refused) = d.sent.filter (Sent.asksFor refused)
  seated : ∀ lease, grant refused = some lease → Seated refused.sessionId lease d' →
    Seated refused.sessionId lease d

variable {refused record : TransitionRecord}

instance : Std.Refl (Passive (ω := ω) refused) := ⟨fun _ => ⟨rfl, fun _ _ seated => seated⟩⟩

instance : IsTrans (DaemonRuntime ω) (Passive refused) :=
  ⟨fun _ _ _ first second => ⟨second.asked.trans first.asked, fun lease granted seated =>
    first.seated lease granted (second.seated lease granted seated)⟩⟩

instance : IgnoresHealth (Passive (ω := ω) refused) where
  world := fun _ _ => ⟨rfl, fun _ _ seated => seated⟩
  health := fun _ _ _ _ => ⟨rfl, fun _ _ seated => seated⟩

/-! ## Sessions under recovery -/

/-- A lease the session did not have is not installed. -/
def NotInstalled (id : String) (lease : ControllerLease) (m m' : SessionManager) : Prop :=
  Holds id lease m' → Holds id lease m

instance (id : String) (lease : ControllerLease) : Std.Refl (NotInstalled id lease) :=
  ⟨fun _ => fun held => held⟩

instance (id : String) (lease : ControllerLease) : IsTrans SessionManager (NotInstalled id lease) :=
  ⟨fun _ _ _ first second => fun held => first (second held)⟩

variable {lease : ControllerLease} {id other : String} {binding : SidecarHostBinding}

theorem notInstalled_of_elsewhere {m m' : SessionManager}
    (different : id ≠ other) (elsewhere : Elsewhere other m m') : NotInstalled id lease m m' := by
  rintro ⟨info, found, held⟩
  refine ⟨info, ?_, held⟩
  unfold SessionManager.get at found ⊢
  rw [← elsewhere id different]
  exact found

variable {f : SessionInfo → SessionInfo}

/-- Changing a session installs a lease only where the change does. -/
theorem updateInfo_notInstalled (keeps : id = other → ∀ info, (f info).controller = some lease →
      info.controller = some lease) : Moves (NotInstalled id lease) (updateInfo other f) := by
  refine .modify fun m => ?_
  by_cases same : id = other
  · rintro ⟨info, found, held⟩
    subst same
    rw [get_updateInfo] at found
    cases looked : m.get id <;> rw [looked] at found <;> cases found
    exact ⟨_, looked, keeps rfl _ held⟩
  · exact notInstalled_of_elsewhere same (elsewhere_updateInfo m other f)

theorem terminalOutcome_notInstalled (kind : TransitionKind) (id : String) (sessionId : String)
    (lease : ControllerLease) : Moves (NotInstalled sessionId lease) (terminalOutcome kind id) := by
  have closing : Moves (NotInstalled sessionId lease) (close id) :=
    .bind (info_moves id) fun _ => updateInfo_notInstalled fun _ _ absent => by cases absent
  unfold terminalOutcome
  split
  · refine .bind closing fun _ => .modify fun m => ?_
    by_cases same : sessionId = id
    · rintro ⟨info, found, -⟩
      subst same
      unfold SessionManager.get at found
      rw [show AList.lookup sessionId _ = none from lookup_erase _ _] at found
      cases found
    · exact notInstalled_of_elsewhere same fun _ different => lookup_erase_ne different
  · exact closing

/-! ## Recovery of other transitions -/

theorem within_passive {α : Type} {m : SessionM α} (moves : ∀ lease, grant refused = some lease →
      Moves (NotInstalled refused.sessionId lease) m) :
    Moves (Within (Passive (ω := ω) refused)) m := by
  rintro _ d rfl
  refine ⟨rfl, fun lease granted seated => ?_⟩
  rcases seated with held | held
  · exact .inl (moves lease granted d.sessions held)
  · exact .inr held

theorem passive_files : RespectsFiles nothing (Passive (ω := ω) refused) where
  journal := fun _ _ _ => ⟨rfl, fun _ _ seated => seated⟩
  writes := fun _ => ⟨rfl, fun _ _ seated => .inl (or_self_iff.mp seated)⟩
  restores := by
    refine fun _ _ passive => ⟨passive.asked, fun lease granted seated => ?_⟩
    rcases seated with held | held
    · exact .inl held
    · exact passive.seated lease granted (.inr held)

/-- Recovering one transition does not perform another: asking the supervisor for it is not
asking for this one. -/
theorem passive_record (other : ¬ SameTransition refused record) :
    RespectsRecord nothing record (Passive (ω := ω) refused) where
  __ := passive_files
  asks := by
    refine fun d asked w replays => ⟨?_, fun _ _ seated => seated⟩
    have unasked : Sent.asksFor refused asked = false := by
      cases asked with
      | terminate => rfl
      | change binding change id =>
        refine decide_eq_false fun same => other ⟨replays.1.symm.trans same.1, ?_,
          .inl (replays.2.1.symm.trans same.2)⟩
        cases ends : record.kind.isTerminal with
        | false => rfl
        | true => cases (replayChange_eq_none ends).symm.trans replays.2.2
    rw [filter_append, filter_singleton, unasked]
    exact append_nil _
  -- a record installs its own lease and no other
  seats := by
    refine fun _ movesSeat named => within_passive fun lease granted =>
      .bind (info_moves _) fun _ => .bind .require fun _ => .ite (fun attached => ?_)
        fun _ => updateInfo_notInstalled fun _ info absent => by cases absent
    refine updateInfo_notInstalled fun same info installed => ?_
    refine absurd ⟨same.symm, movesSeat, .inr ⟨lease, granted, ?_⟩⟩ other
    rw [grant, if_pos attached, named]
    exact installed
  ends := within_passive fun lease _ => terminalOutcome_notInstalled _ _ _ lease
  binds := fun _ => within_passive fun _ _ =>
    .bind (info_moves _) fun _ => updateInfo_notInstalled fun _ _ held => held

/-! ## The recovery pass -/

variable {j : TransitionJournal ω}

/-- A record that waits is in the journal. -/
theorem lookup_of_pending (waits : record ∈ j.pending) :
    ∃ id, j.entries.lookup id = some record := by
  obtain ⟨entry, member, rfl⟩ := mem_map.mp waits
  have listed : entry ∈ j.entries.toList := (mem_insertionSort _).mp member
  exact ⟨entry.1, Table.lookup_isSome_of_mem listed⟩

/-- Marking a record does not change which transition it stands for, so only writing one down
leaves a record of a transition. -/
theorem unrecorded_evolves {written : TransitionRecord → Prop} {a b : Tables}
    (unrecorded : NoneSuch (SameTransition refused) a) (evolves : Evolves written a b)
    (others : ∀ record, written record → ¬ SameTransition refused record) :
    NoneSuch (SameTransition refused) b :=
  unrecorded.evolves evolves (fun _ _ _ _ other same => other same) fun record _ => others record

/-- A transition that has left no record is not performed by the recovery pass. -/
theorem recoverSidecarTransitions_passive
    (unrecorded : NoneSuch (SameTransition refused) d.records) :
    Passive refused d ((recoverSidecarTransitions env).run d).2 := by
  have expired : Passive refused d ((reconcileExpiredTransitions env : DaemonM ω Unit).run d).2 :=
    reconcileExpiredTransitions_moves (fun _ _ => passive_files.clearTransition _ _) d
  have evolved : Progress nothing d ((reconcileExpiredTransitions env : DaemonM ω Unit).run d).2 :=
    reconcileExpiredTransitions_moves (fun _ _ => progress_respects.files.clearTransition _ _) d
  rcases ran : (reconcileExpiredTransitions env : DaemonM ω Unit).run d with ⟨e | _, a⟩
  · rw [recoverSidecarTransitions, run_bind_of_error ran]
    rwa [ran] at expired
  · rw [ran] at expired evolved
    have absent : NoneSuch (SameTransition refused) a.records :=
      unrecorded_evolves unrecorded evolved.journal fun _ written => written.elim
    rw [recoverSidecarTransitions, run_bind_of_ok ran, run_reads_bind]
    refine trans_of (Passive refused) expired ?_
    unfold whenever
    split
    · refine replayPending_moves fun record waits => (passive_record ?_).recoverTransitionRecord
      obtain ⟨id, found⟩ := lookup_of_pending waits
      exact absent id record (.inl found)
    · exact refl_of (Passive refused) a

/-! ## What may happen later -/

/-- What happens to the daemon.  `elsewhere` is everything that does not touch the
transition journal.  A crash in the middle of a request is a request whose later writes
fail, followed by a restart. -/
inductive Action where
  | seat (client : String) (request : SeatRequest)
  | close (params : Except IpcError CloseParams) (client : String)
  | terminate (params : Except IpcError TerminateParams) (client : String)
  | recover
  | reconcile
  | ensure
  | restart
  | elsewhere

/-- One action and the state it leaves. -/
inductive Step (env : Environment ω) : DaemonRuntime ω → Action → DaemonRuntime ω → Prop where
  | seat (d : DaemonRuntime ω) (client : String) (request : SeatRequest) :
      Step env d (.seat client request) ((handle env client request).run d).2
  | close (d : DaemonRuntime ω) (params : Except IpcError CloseParams) (client : String) :
      Step env d (.close params client) ((handleSessionClose env params client).run d).2
  | terminate (d : DaemonRuntime ω) (params : Except IpcError TerminateParams) (client : String) :
      Step env d (.terminate params client) ((handleSessionTerminate env params client).run d).2
  | recover (d : DaemonRuntime ω) :
      Step env d .recover ((recoverSidecarTransitions env).run d).2
  | reconcile (d : DaemonRuntime ω) :
      Step env d .reconcile ((reconcileExpiredTransitions env : DaemonM ω Unit).run d).2
  | ensure (d : DaemonRuntime ω) : Step env d .ensure ((ensureRemoteSupervisor env).run d).2
  | restart (d : DaemonRuntime ω) : Step env d .restart ((Daemon.restart env).run d).2
  | elsewhere {d d' : DaemonRuntime ω} (journal : d'.records = d.records) :
      Step env d .elsewhere d'

/-- The action does not ask for the transition anew. -/
def NotAgain (env : Environment ω) (refused : TransitionRecord) (d : DaemonRuntime ω) :
    Action → Prop
  | .seat client request => ∀ record, Plans env client request d record →
      ¬ SameTransition refused record
  | _ => True

/-- An action that is not the same request again. -/
def LaterStep (env : Environment ω) (refused : TransitionRecord) (d : DaemonRuntime ω)
    (action : Action) (d' : DaemonRuntime ω) : Prop :=
  Step env d action d' ∧ NotAgain env refused d action

/-- Recovery does not perform the transition, in any state with this journal: neither
the pass does, nor the recovery of any record that waits. -/
def NeverPerformed (env : Environment ω) (refused : TransitionRecord) (d : DaemonRuntime ω) :
    Prop :=
  ∀ u : DaemonRuntime ω, u.records = d.records →
    Passive refused u ((recoverSidecarTransitions env).run u).2 ∧
      ∀ record ∈ u.transitionJournal.pending,
        Passive refused u ((recoverTransitionRecord env record).run u).2

/-- No later action leaves a record of the transition. -/
theorem LaterStep.unrecorded {action : Action} (step : LaterStep env refused d action d')
    (unrecorded : NoneSuch (SameTransition refused) d.records) :
    NoneSuch (SameTransition refused) d'.records := by
  obtain ⟨step, again⟩ := step
  have quiet : ∀ {written : TransitionRecord → Prop} {e : DaemonRuntime ω},
      (∀ record, written record → ¬ SameTransition refused record) →
      Evolves written d.records e.records → NoneSuch (SameTransition refused) e.records :=
    fun others evolved => unrecorded_evolves unrecorded evolved others
  have still : ∀ {e : DaemonRuntime ω}, Progress nothing d e →
      NoneSuch (SameTransition refused) e.records :=
    fun moved => quiet (fun _ written => written.elim) moved.journal
  have terminal : ∀ record, terminalOnly record → ¬ SameTransition refused record := by
    intro record ends same
    cases same.2.1.symm.trans ends
  cases step with
  | seat client request => exact quiet again (handle_progress client request d).journal
  | close params client =>
    exact quiet terminal (handleSessionClose_progress params client d).journal
  | terminate params client =>
    exact quiet terminal (handleSessionTerminate_progress params client d).journal
  | recover => exact still (progress_respects.recoverSidecarTransitions d)
  | reconcile =>
    exact still
      (reconcileExpiredTransitions_moves (fun _ _ => progress_respects.files.clearTransition _ _) d)
  | ensure => exact still (progress_respects.ensureRemoteSupervisor d)
  | restart => exact quiet (fun _ written => written.elim) (@restart_evolves _ _ nothing d)
  | elsewhere journal => rwa [journal]

/-- A transition without a record is never performed later. -/
theorem neverPerformed_of_unrecorded {actions : List Action}
    (run : Run (LaterStep env refused) d actions d')
    (unrecorded : NoneSuch (SameTransition refused) d.records) : NeverPerformed env refused d' := by
  have absent : NoneSuch (SameTransition refused) d'.records :=
    run.invariant (I := fun d => NoneSuch (SameTransition refused) d.records)
      (fun unrecorded step => LaterStep.unrecorded step unrecorded) unrecorded
  intro u journal
  have absent' : NoneSuch (SameTransition refused) u.records := by rwa [journal]
  refine ⟨recoverSidecarTransitions_passive absent', fun record waits => ?_⟩
  obtain ⟨id, found⟩ := lookup_of_pending waits
  exact (passive_record (absent' id record (.inl found))).recoverTransitionRecord u

/-! ## What a refused request leaves behind -/

/-- The request came from another device than the one the session is bound to. -/
def OtherDevice (transition : SidecarTransition) (d : DaemonRuntime ω) : Prop :=
  ∃ device, d.activeRemoteDeviceId = some device ∧ transition.record.oldBinding.deviceId ≠ device

/-- How the write of a table ends; `none` where the journal does not come to it. -/
def storeWrite (env : Transitions.Environment ω) (next : Table String TransitionRecord) (w : ω) :
    Option AtomicWrite :=
  match env.encode ⟨version, next⟩ with
  | .ok bytes => if bytes.length ≤ maxBytes then some (env.write bytes w).1 else none
  | .error _ => none

/-- How the write of a new record ends. -/
def beginWrite (env : Transitions.Environment ω) (record : TransitionRecord)
    (j : TransitionJournal ω) : Option AtomicWrite :=
  if validate record = .ok () ∧ j.entries.lookup record.transitionId = none ∧
      j.entries.entries.length < maxEntries then
    storeWrite env (j.entries.insert record.transitionId record) j.world
  else none

/-- The request leaves its record behind: the record is written and the device is another one,
or the write is reported as failed with the new file in place. -/
def LeavesRecord (env : Environment ω) (transition : SidecarTransition) (d : DaemonRuntime ω) :
    Prop :=
  ∃ d₁, (ensureRemoteSupervisor env).run d = (.ok (), d₁) ∧
    let outcome := beginWrite env.transitions transition.record d₁.transitionJournal
    (outcome = some .written ∧ OtherDevice transition d ∨
      ∃ reason, outcome = some (.unsynced reason))

/-- The connection is up when it was brought up to date. -/
theorem connected_of_ensured {u : Unit}
    (ensured : (ensureRemoteSupervisor env).run d = (.ok u, d')) : d'.connected = true := by
  obtain ⟨_, a, -, ensured⟩ := bind_ok_iff.mp ensured
  obtain ⟨_, b, -, ensured⟩ := bind_ok_iff.mp ensured
  obtain ⟨_, c, -, ensured⟩ := bind_ok_iff.mp ensured
  obtain ⟨connected, rfl⟩ := require_ok_iff.mp ensured
  exact connected

/-! ### What is sent -/

theorem commitSessions_sent (snapshot : SessionManager) :
    Moves (Keeps sent) (commitSessions env snapshot) :=
  commitSessions_moves (fun _ _ => rfl) fun _ _ => rfl

theorem withTransitions_sent {α : Type} (describe : String → String) (m : TransitionM ω α) :
    Moves (Keeps sent) (withTransitions describe m) :=
  fun _ => rfl

theorem finishTransition_sent (plan : Plan ω) (transition : SidecarTransition)
    (bound : SessionManager) : Moves (Keeps sent) (finishTransition env plan transition bound) :=
  .bind (.bind (.modify fun _ => rfl) fun _ => commitSessions_sent _) fun _ =>
    withTransitions_sent _ _

variable {transition : SidecarTransition} {plan : Plan ω}

/-- After its transition was sent, a handler sends nothing more. -/
theorem settle_sent (hosted : plan.sidecar = some transition) {d₁ : DaemonRuntime ω}
    (ensured : (ensureRemoteSupervisor env).run d = (.ok (), d₁)) :
    ((settle env (.planned plan)).run d).2.sent =
      ((sendTransition env plan.sessionId transition).run d₁).2.sent := by
  calc ((settle env (.planned plan)).run d).2.sent
      = ((applyPlan env plan).run d).2.sent :=
        part_after_bind (fun _ => answerPlan_moves (fun _ _ => rfl) plan) d
    _ = ((prepareTransition env plan transition >>= finishTransition env plan transition).run
          d₁).2.sent := by
        simp only [applyPlan, hosted]
        rw [run_bind_of_ok ensured]
    _ = ((prepareTransition env plan transition).run d₁).2.sent :=
        part_after_bind (fun bound => finishTransition_sent plan transition bound) d₁
    _ = ((sendTransition env plan.sessionId transition).run d₁).2.sent :=
        part_after_bind (fun _ => .bind (withTransitions_sent _ _) fun _ =>
          .bind (onPreview_moves _ _) fun _ => .pure) d₁

/-! ### The journal of a refused request -/

theorem pending_of_lookup (found : j.entries.lookup id = some record) : record ∈ j.pending :=
  mem_map.mpr ⟨(id, record), (mem_insertionSort _).mpr (Table.mem_toList_iff.mpr found),
    rfl⟩

/-- The file has no record of the transition. -/
def Unfiled (refused : TransitionRecord) (d : DaemonRuntime ω) : Prop :=
  ∀ id record, d.transitionsFile.lookup id = some record → ¬ SameTransition refused record

/-- A session that is not fenced has no record of any transition in memory. -/
theorem unrecorded_of_unfenced (unfenced : Unfenced d id) (unfiled : Unfiled refused d)
    (about : refused.sessionId = id) : NoneSuch (SameTransition refused) d.records := by
  intro key record there same
  rcases there with found | found
  · have fenced := any_eq_false.mp unfenced record (pending_of_lookup found)
    rw [same.1, about] at fenced
    exact fenced (beq_self_eq_true id)
  · exact unfiled key record found same

theorem admitted_of_beginWrite {env : Transitions.Environment ω} {outcome : AtomicWrite}
    (wrote : beginWrite env record j = some outcome) :
    validate record = .ok () ∧ j.entries.lookup record.transitionId = none ∧
      j.entries.entries.length < maxEntries := by
  unfold beginWrite at wrote
  split at wrote
  next admitted => exact admitted
  next => cases wrote

/-- What an operation that stores a table leaves, by how the write of the table ends. -/
def StoredAs {α : Type} (next : Table String TransitionRecord) (j : TransitionJournal ω) (a : α)
    (result : Except String α × TransitionJournal ω) : Option AtomicWrite → Prop
  | some .written => ∃ w, result = (.ok a, ⟨next, next, w⟩)
  | some (.unsynced _) => ∃ e w, result = (.error e, ⟨j.entries, next, w⟩)
  | _ => ∃ e w, result = (.error e, ⟨j.entries, j.file, w⟩)

theorem StoredAs.bind_pure {α β : Type} {m : TransitionM ω α} {a : α} {f : α → β}
    {next : Table String TransitionRecord} {outcome : Option AtomicWrite}
    (stored : StoredAs next j a (m.run j) outcome) :
    StoredAs next j (f a) ((m >>= fun a => pure (f a)).run j) outcome := by
  rcases outcome with _ | _ | _ | _
  · obtain ⟨e, w, ran⟩ := stored
    exact ⟨e, w, run_bind_of_error ran⟩
  · obtain ⟨w, ran⟩ := stored
    exact ⟨w, run_bind_of_ok ran⟩
  · obtain ⟨e, w, ran⟩ := stored
    exact ⟨e, w, run_bind_of_error ran⟩
  · obtain ⟨e, w, ran⟩ := stored
    exact ⟨e, w, run_bind_of_error ran⟩

theorem replaceEntries_storedAs (env : Transitions.Environment ω)
    (next : Table String TransitionRecord) (j : TransitionJournal ω) :
    StoredAs next j () ((replaceEntries env next).run j) (storeWrite env next j.world) := by
  simp only [replaceEntries, persist, run_reads_bind, run_modify_bind, run_attempt_bind, storeWrite]
  rcases env.encode ⟨version, next⟩ with e | bytes
  · exact ⟨_, _, rfl⟩
  · by_cases fits : bytes.length ≤ maxBytes
    · simp only [if_pos fits, run_bind_of_ok (run_require_of_holds fits _ _), replaceFile]
      rcases (env.write bytes j.world).1 with _ | _ | _
      · exact ⟨_, rfl⟩
      · exact ⟨_, _, rfl⟩
      · exact ⟨_, _, rfl⟩
    · simp only [if_neg fits, run_bind_of_error (run_require_of_not fits _ _)]
      exact ⟨_, _, rfl⟩

/-- Writing down a record that the journal does not have. -/
theorem beginTransition_storedAs (env : Transitions.Environment ω) (j : TransitionJournal ω)
    (record : TransitionRecord)
    (absent : j.entries.lookup record.transitionId ≠ some record) :
    StoredAs (j.entries.insert record.transitionId record) j record
      ((beginTransition env record).run j) (beginWrite env record j) := by
  unfold beginTransition beginWrite
  rcases checked : validate record with e | _
  · rw [if_neg (by simp)]
    exact ⟨_, _, rfl⟩
  rw [run_bind_of_ok (run_ofExcept _ j), run_reads_bind]
  rcases found : j.entries.lookup record.transitionId with _ | existing
  · by_cases room : j.entries.entries.length < maxEntries
    · rw [if_pos ⟨rfl, rfl, room⟩]
      simp only [run_bind_of_ok (run_require_of_holds room _ _)]
      exact (replaceEntries_storedAs env _ j).bind_pure (f := fun _ => record)
    · rw [if_neg (fun all => room all.2.2)]
      simp only [run_bind_of_error (run_require_of_not room _ _)]
      exact ⟨_, _, rfl⟩
  · rw [if_neg (by simp)]
    dsimp only
    rw [if_neg fun same => absent (found.trans (congrArg some same))]
    exact ⟨_, _, rfl⟩

theorem verifiedSidecarBindingFrom_denied {device : String}
    (active : d.activeRemoteDeviceId = some device) (different : binding.deviceId ≠ device) :
    ∃ e, (verifiedSidecarBindingFrom id binding).run (d.setTransitionJournal j) =
      (.error e, d.setTransitionJournal j) := by
  rw [verifiedSidecarBindingFrom, run_reads_bind,
    show (d.setTransitionJournal j).activeRemoteDeviceId = some device from active]
  exact ⟨_, run_bind_of_error (run_require_of_not different _ _)⟩

/-- A transition that was written down is sent when the device is the right one. -/
theorem sendTransition_sent {answer : TransitionRecord} (connected : d.connected = true)
    (begun : (beginTransition env.transitions transition.record).run d.transitionJournal =
      (.ok answer, j)) (same : ¬ OtherDevice transition d) :
    ((sendTransition env id transition).run d).2.sent =
      d.sent ++ [.change (supervisorBindingFrom id transition.record.oldBinding)
        transition.change transition.record.transitionId] := by
  have verified : (verifiedSidecarBindingFrom id transition.record.oldBinding).run
      (d.setTransitionJournal j) =
        (.ok (supervisorBindingFrom id transition.record.oldBinding),
          d.setTransitionJournal j) := by
    rw [verifiedSidecarBindingFrom, run_reads_bind]
    cases active : d.activeRemoteDeviceId with
    | none =>
      rw [show (d.setTransitionJournal j).activeRemoteDeviceId = none from active]
      rfl
    | some device =>
      have own : transition.record.oldBinding.deviceId = device := by
        by_contra different
        exact same ⟨device, active, different⟩
      rw [show (d.setTransitionJournal j).activeRemoteDeviceId = some device from active]
      exact run_bind_of_ok (run_require_of_holds own _ _)
  rw [sendTransition, run_bind_of_ok (withTransitions_run begun),
    run_bind_of_ok verified,
    run_bind_of_ok (requireSupervisor_run (d := d.setTransitionJournal j) connected _ _),
    run_bind_of_ok (requestChange_run _ _ _ _)]
  split
  · rfl
  · split <;> rfl

/-! ### Recovery of a record that was left behind -/

theorem resumeController_sent (record : TransitionRecord) (binding : SidecarHostBinding)
    (snapshot : SessionManager) :
    Moves (Keeps sent) (resumeController env record binding snapshot) := by
  refine .bind (fun _ => rfl) fun current => .ite (fun _ => ?_) fun _ => ?_
  · exact .bind .require fun _ => withTransitions_sent _ _
  · refine .bind ?_ fun _ => .bind (fun _ => rfl) fun _ =>
      .bind (fun _ => rfl) fun _ => .bind (commitSessions_sent _) fun _ => withTransitions_sent _ _
    unfold recordedLeaseId
    cases record.target.leaseId with
    | none => exact .fail
    | some => exact .pure

theorem endSession_sent (record : TransitionRecord) (snapshot : SessionManager) :
    Moves (Keeps sent) (endSession env record snapshot) :=
  .bind (fun _ => rfl) fun _ => .bind (fun _ => rfl) fun _ => .bind (commitSessions_sent _)
    fun _ => withTransitions_sent _ _

theorem replayTransition_sent {change : Change} (connected : d.connected = true)
    (asked : replayChange record = some change) : ((replayTransition env record).run d).2.sent =
      d.sent ++ [.change (supervisorBindingFrom record.sessionId record.oldBinding) change
        record.transitionId] := by
  simp only [replayTransition, asked]
  rw [run_bind_of_ok (requireSupervisor_run connected _ _),
    run_bind_of_ok (requestChange_run _ _ _ _)]
  cases (env.change (supervisorBindingFrom record.sessionId record.oldBinding) change
      record.transitionId d.world).1 with
  | error => rfl
  | ok =>
    exact part_after_bind (fun _ => .pure) _

/-- Recovery asks the supervisor for an intended transition. -/
theorem recoverSession_sent {current : SessionInfo} {change : Change}
    (connected : d.connected = true) (phase : record.phase = .intent)
    (same : current.workspaceId = some record.workspaceId)
    (asked : replayChange record = some change) :
    ((recoverSession env record current).run d).2.sent =
      d.sent ++ [.change (supervisorBindingFrom record.sessionId record.oldBinding) change
        record.transitionId] := by
  rw [recoverSession, run_bind_of_ok (run_require_of_holds same _ _)]
  refine (part_after_bind (fun binding => .bind .reads fun snapshot => ?_) d).trans ?_
  · cases binding with
    | some binding => exact resumeController_sent record binding snapshot
    | none => exact endSession_sent record snapshot
  · simp only [bindingOfRecord, phase]
    exact replayTransition_sent connected asked

/-- The same surroundings with a clock that has stopped. -/
def Environment.stoppedAt (env : Environment ω) (now : Int) : Environment ω :=
  { env with journal := { env.journal with now := fun w => (now, w) } }

/-- A session of the workspace of a record. -/
def sessionFor (record : TransitionRecord) : Session :=
  let session := plainSession record.sessionId record.target.principal record.oldBinding
  { session with info := { session.info with workspaceId := some record.workspaceId } }

/-- A record that was left behind is performed, if the session is there when recovery
reaches it. -/
theorem performed_of_recorded (env : Environment ω)
    (found : d.transitions.lookup record.transitionId = some record)
    (valid : validate record = .ok ()) (phase : record.phase = .intent)
    (movesSeat : record.kind.isTerminal = false) :
    ¬ NeverPerformed (env.stoppedAt record.createdUnix) record d := by
  intro never
  let u : DaemonRuntime ω :=
    { d with
      connected := true
      sessions := plainManager
        ((∅ : Table String Session).insert record.sessionId (sessionFor record)) }
  have present : u.sessions.get record.sessionId = .ok (sessionFor record).info :=
    get_ok_iff.mpr ⟨sessionFor record, lookup_insert _, rfl⟩
  have within_ : ¬ record.expiresUnix ≤ ((env.stoppedAt record.createdUnix).now u.world).1 := by
    have window := (validate_ok_iff.mp valid).window
    show ¬ record.expiresUnix ≤ record.createdUnix
    omega
  obtain ⟨change, asked⟩ : ∃ change, replayChange record = some change := by
    cases kind : record.kind <;> simp_all [replayChange, TransitionKind.isTerminal]
  have passive := (never u rfl).2 record (pending_of_lookup found)
  have sent := passive.asked
  rw [recoverTransitionRecord_present within_ present,
    recoverSession_sent rfl phase rfl asked, filter_append] at sent
  have performed : Sent.asksFor record (.change
      (supervisorBindingFrom record.sessionId record.oldBinding) change
      record.transitionId) = true := decide_eq_true ⟨rfl, rfl⟩
  rw [filter_singleton, performed] at sent
  exact absurd sent (by simp [tick])

/-! ## The main result -/

section Refused

variable (hosted : plan.sidecar = some transition)

include hosted in
theorem settle_of_unready {e : IpcError} {d₁ : DaemonRuntime ω}
    (unready : (ensureRemoteSupervisor env).run d = (.error e, d₁)) :
    (settle env (.planned plan)).run d = (.error e, d₁) := by
  refine run_bind_of_error ?_
  simp only [applyPlan, hosted]
  exact run_bind_of_error unready

variable {d₁ : DaemonRuntime ω} (ensured : (ensureRemoteSupervisor env).run d = (.ok (), d₁))
include ensured

include hosted in
theorem settle_of_unsent {e : IpcError} {s : DaemonRuntime ω}
    (stopped : (sendTransition env plan.sessionId transition).run d₁ = (.error e, s)) :
    (settle env (.planned plan)).run d = (.error e, s) := by
  refine run_bind_of_error ?_
  simp only [applyPlan, hosted]
  rw [run_bind_of_ok ensured]
  exact run_bind_of_error (run_bind_of_error stopped)

/-- Once the supervisor is ready, the write of the record and the device decide. -/
theorem leavesRecord_iff : LeavesRecord env transition d ↔
    (beginWrite env.transitions transition.record d₁.transitionJournal = some .written ∧
        OtherDevice transition d ∨
      ∃ reason, beginWrite env.transitions transition.record d₁.transitionJournal =
        some (.unsynced reason)) := by
  constructor
  · rintro ⟨a, succeeded, left⟩
    cases ensured.symm.trans succeeded
    exact left
  · exact fun left => ⟨d₁, ensured, left⟩

end Refused

/-- What the journal of a refused request holds: nothing of the transition, unless the request
left its record behind, in memory or in the file. -/
theorem refused_records {e : IpcError} (hosted : plan.sidecar = some transition)
    (movesSeat : transition.record.kind.isTerminal = false)
    (unrecorded : NoneSuch (SameTransition transition.record) d.records)
    (wellFormed : Each WellFormed d.records)
    (refused : (settle env (.planned plan)).run d = (.error e, d'))
    (unsent : d'.sent = ((ensureRemoteSupervisor env).run d).2.sent) :
    (NoneSuch (SameTransition transition.record) d'.records ∧ ¬ LeavesRecord env transition d) ∨
      (LeavesRecord env transition d ∧ validate transition.record = .ok () ∧
        (d'.transitions.lookup transition.record.transitionId = some transition.record ∨
          d'.transitionsFile.lookup transition.record.transitionId = some transition.record ∧
            Sound d'.transitionsFile)) := by
  have passes : Progress nothing d ((ensureRemoteSupervisor env).run d).2 :=
    progress_respects.ensureRemoteSupervisor d
  rcases ensured : (ensureRemoteSupervisor env).run d with ⟨e' | _, d₁⟩
  · left
    cases refused.symm.trans (settle_of_unready hosted ensured)
    rw [ensured] at passes
    refine ⟨unrecorded_evolves unrecorded passes.journal fun _ written => written.elim, ?_⟩
    rintro ⟨a, succeeded, -⟩
    rw [ensured] at succeeded
    cases succeeded
  rw [ensured] at passes unsent
  have absent : NoneSuch (SameTransition transition.record) d₁.records :=
    unrecorded_evolves unrecorded passes.journal fun _ written => written.elim
  have sound : Each WellFormed d₁.records := wellFormed_evolves wellFormed passes.journal
  have quiet : ((sendTransition env plan.sessionId transition).run d₁).2.sent = d₁.sent := by
    rw [← settle_sent hosted ensured, refused]
    exact unsent
  have stops : ∀ {e' s}, (sendTransition env plan.sessionId transition).run d₁ = (.error e', s) →
      d' = s := fun stopped =>
    congrArg Prod.snd (refused.symm.trans (settle_of_unsent hosted ensured stopped))
  have begun := beginTransition_storedAs env.transitions d₁.transitionJournal transition.record
    fun found => absent _ _ (.inl found) ⟨rfl, movesSeat, .inl rfl⟩
  rw [leavesRecord_iff ensured]
  rcases outcome : beginWrite env.transitions transition.record d₁.transitionJournal with
    _ | _ | _ | reason <;> rw [outcome] at begun
  · obtain ⟨e', w, failed⟩ := begun
    obtain rfl := stops (run_bind_of_error (withTransitions_run failed))
    exact .inl ⟨absent, by simp⟩
  · obtain ⟨w, wrote⟩ := begun
    by_cases other : OtherDevice transition d₁
    · obtain ⟨device, active, different⟩ := other
      obtain ⟨e', denied⟩ := verifiedSidecarBindingFrom_denied active different
      obtain rfl := stops ((run_bind_of_ok (withTransitions_run wrote)).trans
        (run_bind_of_error denied))
      exact .inr ⟨.inl ⟨rfl, device, passes.device ▸ active, different⟩,
        (admitted_of_beginWrite outcome).1, .inl (lookup_insert _)⟩
    · rw [sendTransition_sent (connected_of_ensured ensured) wrote other] at quiet
      exact absurd quiet (by simp)
  · obtain ⟨e', w, failed⟩ := begun
    obtain rfl := stops (run_bind_of_error (withTransitions_run failed))
    exact .inl ⟨absent, by simp⟩
  · obtain ⟨e', w, failed⟩ := begun
    obtain rfl := stops (run_bind_of_error (withTransitions_run failed))
    obtain ⟨valid, fresh, room⟩ := admitted_of_beginWrite outcome
    refine .inr ⟨.inr ⟨reason, rfl⟩, valid, .inr ⟨lookup_insert _, ?_⟩⟩
    have kept := each_insert sound ⟨rfl, valid⟩
    exact ⟨fun found => (kept _ _ (.inl found)).1, fun found => (kept _ _ (.inl found)).2,
      (Table.length_insert_of_absent fresh _).trans_le room⟩

/-- **A refused transition stays refused exactly when it leaves no record behind.**  The request
is one the handler refuses before it sends anything to the supervisor, when the file has no
record of the transition; later, other requests, recovery passes and restarts may follow in
any order and any surroundings. -/
theorem refusedTransition_stays_refused_iff {client : String} {request : SeatRequest}
    {start planned final : DaemonRuntime ω} {transition : SidecarTransition}
    {e : IpcError} (wellFormed : Each WellFormed start.records)
    (admitted : (admitSeat env client request).run start = (.ok (.planned plan), planned))
    (hosted : plan.sidecar = some transition) (unfiled : Unfiled transition.record planned)
    (refused : (handle env client request).run start = (.error e, final))
    (unsent : final.sent = ((ensureRemoteSupervisor env).run planned).2.sent) :
    (∀ (later : Environment ω) actions reached,
        Run (LaterStep later transition.record) final actions reached →
        NeverPerformed later transition.record reached) ↔
      ¬ LeavesRecord env transition planned := by
  have planOf := planOf_admitted admitted
  obtain ⟨about, movesSeat, phase⟩ := planOf.record hosted
  have moved : Progress nothing start planned :=
    (admit_progress client request).of_eq admitted
  have unrecorded : NoneSuch (SameTransition transition.record) planned.records :=
    unrecorded_of_unfenced planOf.unfenced unfiled about
  rw [handle_eq, run_bind_of_ok admitted] at refused
  rcases refused_records hosted movesSeat unrecorded (wellFormed_evolves wellFormed moved.journal)
    refused unsent with ⟨absent, fine⟩ | ⟨left, valid, found | ⟨found, sound⟩⟩
  · refine iff_of_true (fun later actions reached run => ?_) fine
    exact neverPerformed_of_unrecorded run absent
  · refine iff_of_false (fun never => ?_) fun fine => fine left
    exact performed_of_recorded env found valid phase movesSeat (never _ [] final (.done final))
  · -- the record is in the file only: a restart reads it
    refine iff_of_false (fun never => ?_) fun fine => fine left
    let readable : Environment ω := { env with loadFiles := fun w => (none, w) }
    let later := readable.stoppedAt transition.record.createdUnix
    have reopened : ((restart later).run final).2.records =
        (final.transitionsFile, final.transitionsFile) :=
      restart_records rfl (openEntries_ok_iff.mpr ⟨sound, rfl⟩)
    have again : ((restart later).run final).2.transitions.lookup transition.record.transitionId =
        some transition.record := by
      rw [show ((restart later).run final).2.transitions = final.transitionsFile from
        congrArg Prod.fst reopened]
      exact found
    exact performed_of_recorded readable again valid phase movesSeat
      (never later [.restart] _ (.next ⟨.restart final, trivial⟩ (.done _)))

/-! ## A request from another device -/

section OtherDevice

def danaBinding : SidecarHostBinding := plainBinding "dana" "host_s" 1 500 1000

def danaSession : SessionManager :=
  plainManager ((∅ : Table String Session).insert "s" (plainSession "s" "dana" danaBinding))

/-- The daemon while it serves a request of the given device. -/
def danaStart (device : Option String) : DaemonRuntime Unit :=
  { startedDaemon danaSession ∅ with activeRemoteDeviceId := device }

def danaParams : ClaimParams where
  id := "s"
  principal := none
  workspaceId := none
  idempotencyKey := none

def danaLease : ControllerLease where
  principalId := "dana"
  leaseId := "lease_fresh"
  epoch := 2
  expiresUnix := 160

def danaChecked : Checked where
  workspace := "ws_default"
  operation := "op_fresh"
  now := 100
  snapshot := danaSession
  sidecarHost := some danaBinding

/-- Surroundings in which the transition journal cannot be written. -/
def fullDisk : Environment Unit :=
  { calmEnvironment 100 with
    transitions := { encode := fun _ => .ok [], write := fun _ _ => (.unwritten "disk full", ()) } }

def danaClaim : SidecarTransition := claimTransition "s" "dana" danaChecked danaLease danaBinding

/-- The plan Dana's handler carries out. -/
def danaPlan : Plan Unit :=
  claimPlan fullDisk danaParams "dana" danaChecked danaLease
    ((claimController "s" "dana" 100 "fresh").run danaSession).2

def claimOnFullDisk : Except IpcError Value × DaemonRuntime Unit :=
  (handle fullDisk "dana" (.claim (.ok danaParams))).run (danaStart none)

/-- A claim that cannot be written down is refused, and stays refused. -/
theorem refusedTransition_stays_refused_iff_dana :
    claimOnFullDisk.1 = .error (.remote AppError.internal
        "begin sidecar claim journal: persist transition journal: disk full") ∧
      ∀ (later : Environment Unit) actions reached,
        Run (LaterStep later danaClaim.record) claimOnFullDisk.2 actions reached →
        NeverPerformed later danaClaim.record reached := by
  have admitted : (admitSeat fullDisk "dana" (.claim (.ok danaParams))).run (danaStart none) =
      (.ok (.planned danaPlan), danaStart none) := rfl
  have wellFormed : Each WellFormed (danaStart none).records := by
    rintro id record (found | found) <;> cases found
  have unfiled : Unfiled danaClaim.record (danaStart none) := by
    intro id record found
    cases found
  refine ⟨rfl, (refusedTransition_stays_refused_iff wellFormed admitted rfl unfiled rfl rfl).mpr ?_⟩
  rintro ⟨d₁, -, ⟨-, device, active, -⟩ | ⟨reason, unsynced⟩⟩
  · cases active
  -- this disk never fails that late
  · simp only [beginWrite, storeWrite, fullDisk] at unsynced
    split at unsynced
    · split at unsynced <;> cases unsynced
    · cases unsynced

def claimFromLaptop : Except IpcError Value × DaemonRuntime Unit :=
  (handle (calmEnvironment 100) "dana" (.claim (.ok danaParams))).run (danaStart (some "laptop"))

/-- What recovery makes of it, once the request of the other device is over. -/
def afterLaptop : DaemonRuntime Unit :=
  ((recoverSidecarTransitions (calmEnvironment 101)).run
    { claimFromLaptop.2 with activeRemoteDeviceId := none }).2

/-- A claim of a device the session is not bound to is refused, and nothing was sent to
the supervisor.  The next recovery asks the supervisor for the claim and installs its
lease. -/
theorem claim_refused_then_performed : claimFromLaptop.1 = .error (.remote AppError.policyDenied
        "persistent session s is bound to device dev, not verified device laptop") ∧
      claimFromLaptop.2.sent = [] ∧
      afterLaptop.sent = [.change (supervisorBindingFrom "s" danaBinding)
        (.claim "dana" 2 160) "claim:s:dana:2"] ∧
      (claimFromLaptop.2.sessionsFile.get "s").map SessionInfo.controller = .ok none ∧
      (afterLaptop.sessionsFile.get "s").map SessionInfo.controller = .ok (some danaLease) :=
  ⟨rfl, rfl, rfl, rfl, rfl⟩

end OtherDevice

end OwnMesh.Daemon
