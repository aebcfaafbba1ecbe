import OwnMesh.Daemon.Effects
import OwnMesh.Sessions.Closing

/-!
# What a seat request does to the other sessions

A handler copies the session manager, brings the connection to the supervisor up to
date and then installs the copy.  Bringing the connection up to date recovers and
reattaches sessions of its own; what it wrote for another session is lost when the
copy is installed, since the copy is older.

`seatRequest_keeps_others_iff` says exactly when nothing is lost: whenever the handler
gets as far as installing its copy, the passes in between must have left every other
session as they found it, in memory, and on disk as well if the write succeeds.
`claim_overwrites_recovered` is a run where they did not.

What is lost can be that a session was closed.  `closed_stays_iff` is about everything the
daemon does to its sessions, one event after the other: operating on them, copying them,
going back to a copy, planning a request on a copy and installing what was planned.  A
closed session stays closed exactly as long as no event sets its state, opens another
session under its identifier, or puts back a copy that was made while it was open.
`claim_reopens_closed` is a run of the claim handler that does the last.
-/

namespace OwnMesh.Daemon

open Foundations Ipc Sessions Transitions Program

variable {ω : Type} {env : Environment ω} {d d' : DaemonRuntime ω}
  {plan : Plan ω} {transition : SidecarTransition}

/-- Every session other than `id` is the same in memory, and on disk. -/
def OthersKept (id : String) (d d' : DaemonRuntime ω) : Prop :=
  Elsewhere id d.sessions d'.sessions ∧ Elsewhere id d.sessionsFile d'.sessionsFile

theorem othersKept_of_stores {id : String} (same : d'.stores = d.stores) : OthersKept id d d' := by
  obtain ⟨sessions, file⟩ := Prod.mk.inj same
  exact ⟨fun _ _ => by rw [sessions], fun _ _ => by rw [file]⟩

/-- The copy a handler installs is its preview with the binding the supervisor answered. -/
theorem prepareTransition_bound {bound : SessionManager}
    (prepared : (prepareTransition env plan transition).run d = (.ok bound, d')) :
    ∃ binding, (setSidecarHostBinding plan.sessionId (some binding)).run plan.preview =
      (.ok (), bound) := by
  obtain ⟨returned, a, -, rest⟩ := bind_ok_iff.mp prepared
  obtain ⟨_, b, -, rest⟩ := bind_ok_iff.mp rest
  obtain ⟨⟨_, copy⟩, c, previewed, rest⟩ := bind_ok_iff.mp rest
  cases rest
  obtain ⟨set, -⟩ := onPreview_ok previewed
  exact ⟨_, set⟩

/-! ## The main result -/

/-- What the passes of `ensureRemoteSupervisor` must leave alone: if the handler goes on
to install its copy `bound`, every other session is in memory what it was before the
passes, and on disk too unless the copy cannot be written. -/
def PassesLeaveOthers (env : Environment ω) (plan : Plan ω) (transition : SidecarTransition)
    (d : DaemonRuntime ω) : Prop :=
  ∀ d₁ bound d₂, (ensureRemoteSupervisor env).run d = (.ok (), d₁) →
    (prepareTransition env plan transition).run d₁ = (.ok bound, d₂) →
    Elsewhere plan.sessionId d.sessions d₁.sessions ∧ ((env.writeSessions bound d₂.world).1 = none →
        Elsewhere plan.sessionId d.sessions d₁.sessionsFile)

/-- **A seat request on a hosted session leaves every other session as the nested
recovery and reattach passes left it exactly when those passes left every other session
alone, whenever the handler gets as far as installing its copy.** -/
theorem seatRequest_keeps_others_iff {client : String} {request : SeatRequest}
    {start planned : DaemonRuntime ω} {plan : Plan ω} {transition : SidecarTransition}
    (admitted : (admitSeat env client request).run start = (.ok (.planned plan), planned))
    (hosted : plan.sidecar = some transition) :
    request.sessionId = some plan.sessionId ∧
      (OthersKept plan.sessionId ((ensureRemoteSupervisor env).run planned).2
          ((handle env client request).run start).2 ↔
        PassesLeaveOthers env plan transition planned) := by
  have planOf := planOf_admitted admitted
  have final : ((handle env client request).run start).2.stores =
      ((applyPlan env plan).run planned).2.stores := by
    rw [handle_eq, run_bind_of_ok admitted]
    exact part_after_bind (fun _ => answerPlan_moves (fun _ _ => rfl) plan) planned
  simp only [applyPlan, hosted] at final
  refine ⟨planOf.sessionId, ?_⟩
  rcases ensured : (ensureRemoteSupervisor env).run planned with ⟨e | _, d₁⟩
  · rw [run_bind_of_error ensured] at final
    refine iff_of_true (othersKept_of_stores final) fun _ _ _ ensured' _ => ?_
    cases ensured.symm.trans ensured'
  rw [run_bind_of_ok ensured] at final
  rcases prepared : (prepareTransition env plan transition).run d₁ with ⟨e | bound, d₂⟩
  all_goals have kept := (prepareTransition_stores plan transition).of_eq prepared
  · rw [run_bind_of_error prepared] at final
    refine iff_of_true (othersKept_of_stores (final.trans kept)) fun _ _ _ ensured' prepared' => ?_
    cases ensured.symm.trans ensured'
    cases prepared.symm.trans prepared'
  rw [run_bind_of_ok prepared, finishTransition,
    part_after_bind fun _ => clearTransition_stores _ _, installSessions, run_modify_bind] at final
  -- the copy that is installed differs from memory, as the plan found it, in its session only
  have elsewhere : Elsewhere plan.sessionId planned.sessions bound := by
    obtain ⟨binding, set⟩ := prepareTransition_bound prepared
    exact trans_of (Elsewhere plan.sessionId) planOf.preview
      ((setInfo_moves (updateInfo_moves _ _)).of_eq set)
  have unique : PassesLeaveOthers env plan transition planned ↔
      Elsewhere plan.sessionId planned.sessions d₁.sessions ∧
        ((env.writeSessions bound d₂.world).1 = none →
          Elsewhere plan.sessionId planned.sessions d₁.sessionsFile) := by
    refine ⟨fun leaves => leaves d₁ bound d₂ ensured prepared,
      fun leaves _ _ _ ensured' prepared' => ?_⟩
    cases ensured.symm.trans ensured'
    cases prepared.symm.trans prepared'
    exact leaves
  rw [unique]
  rcases outcome : env.writeSessions bound d₂.world with ⟨_ | reason, w⟩
  · rw [commitSessions_of_written outcome] at final
    obtain ⟨sessions, file⟩ := Prod.mk.inj final
    rw [OthersKept, sessions, file, elsewhere_comm elsewhere, elsewhere_comm elsewhere]
    exact and_congr_right fun _ => ⟨fun agree _ => agree, fun agree => agree rfl⟩
  · rw [commitSessions_of_failed outcome] at final
    obtain ⟨sessions, file⟩ := Prod.mk.inj final
    rw [OthersKept, sessions, file, planOf.snapshot, sessionsFile_of_stores kept,
      elsewhere_comm (refl_of (Elsewhere plan.sessionId) _)]
    exact and_congr_right fun _ => ⟨fun _ => nofun, fun _ => refl_of (Elsewhere plan.sessionId) _⟩

/-! ## Closed sessions -/

/-- Connect to the supervisor, if the session of the plan has a host there. -/
def runPasses (env : Environment ω) (plan : Plan ω) : DaemonM ω Unit :=
  match plan.sidecar with
  | none => pure ()
  | some _ => ensureRemoteSupervisor env

/-- What a handler does with its plan once it is connected. -/
def installPlan (env : Environment ω) (plan : Plan ω) : DaemonM ω Unit :=
  match plan.sidecar with
  | none => installSessions env plan.preview plan.snapshot
  | some transition => do
    let bound ← prepareTransition env plan transition
    finishTransition env plan transition bound

/-- A handler plans its request, connects to the supervisor and installs its plan. -/
theorem handle_sessions {client : String} {request : SeatRequest} {start planned : DaemonRuntime ω}
    (admitted : (admitSeat env client request).run start = (.ok (.planned plan), planned)) :
    ((handle env client request).run start).2.sessions =
      ((do runPasses env plan; installPlan env plan).run planned).2.sessions := by
  have same : applyPlan env plan = (do runPasses env plan; installPlan env plan) := by
    unfold applyPlan runPasses installPlan
    cases plan.sidecar with
    | none | some => rfl
  have answers : ((handle env client request).run start).2.stores =
      ((do runPasses env plan; installPlan env plan).run planned).2.stores := by
    rw [handle_eq, run_bind_of_ok admitted, settle, same]
    exact part_after_bind (fun _ => answerPlan_moves (fun _ _ => rfl) plan) planned
  exact (Prod.mk.inj answers).1

/-- The supervisor did what it was asked, if the session has a host there: the handler
installs its copy. -/
def Prepares (env : Environment ω) (plan : Plan ω) (d : DaemonRuntime ω) : Prop :=
  ∀ transition, plan.sidecar = some transition →
    ∃ bound, ((prepareTransition env plan transition).run d).1 = .ok bound

section Plans

variable {client id : String} {request : SeatRequest}

/-- A session is closed in the copy a plan installs exactly when it was closed in what
the plan copied. -/
theorem PlanOf.closedIn_iff (planned : PlanOf env client d request plan) :
    ClosedIn id plan.preview ↔ ClosedIn id plan.snapshot := by
  rw [planned.snapshot]
  cases planned with
  | claim _ claimed => exact claimed_closedIn_iff claimed
  | renew _ renewed => exact renewed_closedIn_iff renewed
  | detach _ detached => exact detached_closedIn_iff detached
  | give _ given => exact given_closedIn_iff given

/-- Whether the write succeeds or not, what is then in memory has the closed sessions of
what was copied. -/
theorem installSessions_closedIn_iff {preview snapshot : SessionManager}
    (alike : ClosedIn id preview ↔ ClosedIn id snapshot) (d : DaemonRuntime ω) :
    ClosedIn id ((installSessions env preview snapshot).run d).2.sessions ↔
      ClosedIn id snapshot := by
  rw [installSessions, run_modify_bind]
  rcases outcome : env.writeSessions preview d.world with ⟨_ | reason, w⟩
  · rw [commitSessions_of_written outcome]
    exact alike
  · rw [commitSessions_of_failed outcome]

theorem prepareTransition_closedIn_iff {bound : SessionManager}
    (prepared : (prepareTransition env plan transition).run d = (.ok bound, d')) :
    ClosedIn id bound ↔ ClosedIn id plan.preview := by
  obtain ⟨binding, set⟩ := prepareTransition_bound prepared
  have keeps : Moves KeepsStanding (setSidecarHostBinding plan.sessionId (some binding)) :=
    setInfo_keepsStanding plan.sessionId fun _ => rfl
  exact ClosedIn.congr (keeps.of_eq set)

theorem installPlan_closedIn_iff (planned : PlanOf env client d request plan)
    (closed : ClosedIn id d'.sessions) : ClosedIn id ((installPlan env plan).run d').2.sessions ↔
      (Prepares env plan d' → ClosedIn id plan.snapshot) := by
  unfold installPlan Prepares
  cases hosted : plan.sidecar with
  | none =>
    refine (installSessions_closedIn_iff planned.closedIn_iff d').trans ?_
    constructor
    · exact fun shut _ => shut
    · intro shut
      apply shut
      rintro _ ⟨⟩
  | some transition =>
    rcases prepared : (prepareTransition env plan transition).run d' with ⟨e | bound, d''⟩
    · have kept := (prepareTransition_stores plan transition).of_eq prepared
      have same : ((prepareTransition env plan transition >>= fun bound =>
          finishTransition env plan transition bound).run d').2.sessions = d'.sessions := by
        rw [run_bind_of_error prepared]
        exact (Prod.mk.inj kept).1
      refine iff_of_true (same ▸ closed) fun prepares => ?_
      obtain ⟨bound, answered⟩ := prepares transition rfl
      rw [prepared] at answered
      cases answered
    · have ready : ∀ t, some transition = some t →
          ∃ bound, ((prepareTransition env plan t).run d').1 = .ok bound := by
        rintro _ ⟨⟩
        exact ⟨bound, by rw [prepared]⟩
      rw [forall_prop_of_true ready]
      show ClosedIn id ((prepareTransition env plan transition >>= fun bound =>
        finishTransition env plan transition bound).run d').2.sessions ↔ _
      rw [run_bind_of_ok prepared, finishTransition]
      rw [(Prod.mk.inj (part_after_bind (fun _ => clearTransition_stores _ _) d'')).1]
      exact installSessions_closedIn_iff
        ((prepareTransition_closedIn_iff prepared).trans planned.closedIn_iff) d''

end Plans

/-- The daemon, the copies of its sessions it may go back to, and the requests it has
planned. -/
structure Desk (env : Environment ω) where
  daemon : DaemonRuntime ω
  copies : List SessionManager
  plans : List (Plan ω)
  admitted : ∀ plan ∈ plans, ∃ client d request, PlanOf env client d request plan

/-- What the daemon does to its sessions.  An operation and an answer leave a daemon of
which only the sessions are said. -/
inductive DeskEvent (ω : Type) where
  | operate (op : SessionOp) (d : DaemonRuntime ω)
  | turn (d : DaemonRuntime ω)
  | copy
  | restore (m : SessionManager)
  | plan (plan : Plan ω)
  | install (plan : Plan ω)

inductive DeskStep (env : Environment ω) : Desk env → DeskEvent ω → Desk env → Prop where
  | operate (desk : Desk env) (op : SessionOp)
      {d : DaemonRuntime ω} (done : d.sessions = (op.program.run desk.daemon.sessions).2) :
      DeskStep env desk (.operate op d) { desk with daemon := d }
  | turn (desk : Desk env) {d : DaemonRuntime ω} (kept : d.sessions = desk.daemon.sessions) :
      DeskStep env desk (.turn d) { desk with daemon := d }
  | copy (desk : Desk env) :
      DeskStep env desk .copy { desk with copies := desk.daemon.sessions :: desk.copies }
  | restore (desk : Desk env) {m : SessionManager} (made : m ∈ desk.copies) :
      DeskStep env desk (.restore m) { desk with daemon := { desk.daemon with sessions := m } }
  | plan (desk : Desk env) {plan : Plan ω} {client : String} {request : SeatRequest}
      (planned : PlanOf env client desk.daemon request plan) :
      DeskStep env desk (.plan plan)
        { desk with
          plans := plan :: desk.plans
          admitted := List.forall_mem_cons.mpr ⟨⟨client, _, request, planned⟩, desk.admitted⟩ }
  | install (desk : Desk env) {plan : Plan ω} (waits : plan ∈ desk.plans) :
      DeskStep env desk (.install plan)
        { desk with daemon := ((installPlan env plan).run desk.daemon).2 }

/-- The event does not take the session out of the closed state: it does not set its
state or open a session under its identifier, and if it puts a copy in place that was made
before the run, the session was closed in what was copied. -/
def DeskEvent.KeepsClosed (id : String) (before desk : Desk env) : DeskEvent ω → Prop
  | .operate op _ => op.KeepsClosed id desk.daemon.sessions
  | .restore m => m ∈ before.copies → ClosedIn id m
  | .install plan =>
    Prepares env plan desk.daemon → plan ∈ before.plans → ClosedIn id plan.snapshot
  | .turn _ | .copy | .plan _ => True

/-- The copies that were made since the session was closed are copies of a closed session. -/
def CopiedSince (id : String) (before desk : Desk env) : Prop :=
  (∀ m ∈ desk.copies, m ∈ before.copies ∨ ClosedIn id m) ∧
    ∀ plan ∈ desk.plans, plan ∈ before.plans ∨ ClosedIn id plan.snapshot

section Steps

variable {id : String} {before desk desk' : Desk env} {event : DeskEvent ω}

theorem DeskStep.functional {desk'' : Desk env} (left : DeskStep env desk event desk')
    (right : DeskStep env desk event desk'') : desk' = desk'' := by
  cases left <;> cases right <;> rfl

theorem CopiedSince.step (fresh : CopiedSince id before desk)
    (closed : ClosedIn id desk.daemon.sessions) (step : DeskStep env desk event desk') :
    CopiedSince id before desk' := by
  cases step with
  | operate | turn | restore | install => exact fresh
  | copy => exact ⟨List.forall_mem_cons.mpr ⟨.inr closed, fresh.1⟩, fresh.2⟩
  | plan planned =>
    exact ⟨fresh.1, List.forall_mem_cons.mpr ⟨.inr (planned.snapshot ▸ closed), fresh.2⟩⟩

theorem DeskStep.closedIn_iff (fresh : CopiedSince id before desk)
    (closed : ClosedIn id desk.daemon.sessions) (step : DeskStep env desk event desk') :
    ClosedIn id desk'.daemon.sessions ↔ event.KeepsClosed id before desk := by
  cases step with
  | operate op done =>
    show ClosedIn id _ ↔ _
    rw [done]
    exact op.closedIn_iff closed
  | turn kept => exact iff_of_true (kept ▸ closed) trivial
  | copy | plan => exact iff_of_true closed trivial
  | @restore m made =>
    exact ⟨fun shut _ => shut, fun shut => (fresh.1 m made).elim shut fun shut => shut⟩
  | @install plan waits =>
    obtain ⟨client, d, request, planned⟩ := desk.admitted plan waits
    refine (installPlan_closedIn_iff planned closed).trans ?_
    constructor
    · exact fun shut ready _ => shut ready
    · exact fun shut ready => (fresh.2 plan waits).elim (shut ready) fun shut => shut

end Steps

/-- **When a closed session stays closed.**  After a session was closed, whatever copies
and plans there are, it is closed with an empty seat in every state of a run, until it is
removed, if and only if no event of the run sets its state to another one, opens a session
under its identifier, goes back to a copy that was made while it was open, or installs a
plan that was made while it was open. -/
theorem closed_stays_iff {id : String} {m : SessionManager} {start last : Desk env}
    {events : List (DeskEvent ω)} (closes : (close id).run m = (.ok (), start.daemon.sessions))
    (run : Run (DeskStep env) start events last) :
    (∀ mid, Run.Visits (DeskStep env) start events mid → ClosedIn id mid.daemon.sessions) ↔
      ∀ mid event, Run.Takes (DeskStep env) start events mid event →
        event.KeepsClosed id start mid := by
  refine (run.throughout_iff_while (J := CopiedSince id start)
    (fun _ _ _ _ left right => left.functional right)
    (fun fresh closed _ step => fresh.step closed step)
    (fun fresh closed step => step.closedIn_iff fresh closed)
    ⟨fun _ => .inl, fun _ => .inl⟩).trans (and_iff_right (closedIn_of_close closes))

/-! ## A lost update -/

section LostUpdate

/-- Two sessions with hosts: "a", which Alice is about to claim, and "b". -/
def twoSessions : SessionManager :=
  plainManager (((∅ : Table String Session).insert "b"
    (plainSession "b" "bob" (plainBinding "bob" "host_b" 1 500 1000))).insert "a"
    (plainSession "a" "alice" (plainBinding "alice" "host_a" 1 500 1000)))

def bobLease : ControllerLease where
  principalId := "bob"
  leaseId := "lease_b"
  epoch := 2
  expiresUnix := 160

/-- Bob's claim of "b", applied by the supervisor when a crash interrupted it. -/
def bobClaim : TransitionRecord :=
  (intentRecord .claim "claim:b:bob:2" "b" "ws_default" "bob"
    (plainBinding "bob" "host_b" 1 500 1000) (seatOf bobLease) 90).markApplied
    (some (plainBinding "bob" "host_b2" 2 160 1000))

def interruptedStart : DaemonRuntime Unit :=
  startedDaemon twoSessions ((∅ : Table String TransitionRecord).insert "claim:b:bob:2" bobClaim)

def aliceClaims : SeatRequest :=
  .claim (.ok { id := "a", principal := none, workspaceId := none, idempotencyKey := none })

/-- The lease of the seat of a session. -/
def leaseOf (m : SessionManager) (id : String) : Option ControllerLease :=
  (m.sessions.lookup id).bind fun session => session.info.controller

/-- What Alice's handler has decided before it connects to the supervisor. -/
def aliceChecked : Checked where
  workspace := "ws_default"
  operation := "op_fresh"
  now := 100
  snapshot := twoSessions
  sidecarHost := some (plainBinding "alice" "host_a" 1 500 1000)

def aliceLease : ControllerLease where
  principalId := "alice"
  leaseId := "lease_fresh"
  epoch := 2
  expiresUnix := 160

def alicePlan : Plan Unit :=
  claimPlan (calmEnvironment 100)
    { id := "a", principal := none, workspaceId := none, idempotencyKey := none } "alice"
    aliceChecked aliceLease ((claimController "a" "alice" 100 "fresh").run twoSessions).2

theorem seatRequest_keeps_others_iff_alice : aliceClaims.sessionId = some "a" ∧
      (OthersKept "a" ((ensureRemoteSupervisor (calmEnvironment 100)).run interruptedStart).2
          ((handle (calmEnvironment 100) "alice" aliceClaims).run interruptedStart).2 ↔
        PassesLeaveOthers (calmEnvironment 100) alicePlan
          (claimTransition "a" "alice" aliceChecked aliceLease
            (plainBinding "alice" "host_a" 1 500 1000)) interruptedStart) := by
  have admitted : (admitSeat (calmEnvironment 100) "alice" aliceClaims).run interruptedStart =
      (.ok (.planned alicePlan), interruptedStart) := rfl
  exact seatRequest_keeps_others_iff admitted rfl

/-- Alice claims "a" while Bob's claim of "b" waits to be recovered.  Connecting to the
supervisor recovers it: Bob's lease is written and the record is cleared.  Then Alice's
handler installs its older copy, and Bob's lease is gone from memory and from disk. -/
theorem claim_overwrites_recovered :
    (let recovered := ((ensureRemoteSupervisor (calmEnvironment 100)).run interruptedStart).2
     leaseOf recovered.sessionsFile "b" = some bobLease ∧
      recovered.transitionsFile.lookup "claim:b:bob:2" = none) ∧
    (let final := ((handle (calmEnvironment 100) "alice" aliceClaims).run interruptedStart).2
     leaseOf final.sessions "b" = none ∧ leaseOf final.sessionsFile "b" = none ∧
      final.transitionsFile.lookup "claim:b:bob:2" = none) :=
  ⟨⟨rfl, rfl⟩, rfl, rfl, rfl⟩

/-! ## A closed session that is open again -/

/-- The supervisor reports that the host of "b" has exited. -/
def exitedEnvironment : Environment Unit :=
  { calmEnvironment 100 with
    status := fun binding _ =>
      (.ok
        { pid := some 7
          processBirthId := some 70
          pendingOutputBytes := 0
          pendingStdoutBytes := 0
          pendingStderrBytes := 0
          exited := binding.sessionId = "b" }, ()) }

/-- Bob controls "b". -/
def bobSession : Session :=
  let session := plainSession "b" "erin" (plainBinding "bob" "host_b" 2 160 1000)
  { session with info := { session.info with state := .running, controller := some bobLease } }

def bobSeated : DaemonRuntime Unit :=
  startedDaemon (plainManager (((∅ : Table String Session).insert "b" bobSession).insert "a"
    (plainSession "a" "alice" (plainBinding "alice" "host_a" 1 500 1000)))) ∅

/-- The state of a session and the lease of its seat. -/
def stateOf (m : SessionManager) (id : String) : Option (SessionState × Option ControllerLease) :=
  (m.sessions.lookup id).map fun session => (session.info.state, session.info.controller)

/-- Alice claims "a" after the host of "b" has exited.  Connecting to the supervisor
closes "b" and writes it.  Then Alice's handler installs its older copy: "b" is running
again and Bob is seated, in memory and on disk. -/
theorem claim_reopens_closed :
    (let passed := ((ensureRemoteSupervisor exitedEnvironment).run bobSeated).2
     stateOf passed.sessions "b" = some (.closed, none) ∧
      stateOf passed.sessionsFile "b" = some (.closed, none)) ∧
    (let final := ((handle exitedEnvironment "alice" aliceClaims).run bobSeated).2
     stateOf final.sessions "b" = some (.running, some bobLease) ∧
      stateOf final.sessionsFile "b" = some (.running, some bobLease)) :=
  ⟨⟨rfl, rfl⟩, rfl, rfl⟩

/-- Bob's session was closed before Alice's request is planned. -/
def bobClosed : DaemonRuntime Unit :=
  { bobSeated with sessions := ((close "b").run bobSeated.sessions).2, connected := true }

def laterPlan : Plan Unit :=
  match ((admitSeat (calmEnvironment 100) "alice" aliceClaims).run bobClosed).1 with
  | .ok (.planned plan) => plan
  | _ => alicePlan

def closedDesk : Desk (calmEnvironment 100) :=
  ⟨bobClosed, [], [], List.forall_mem_nil _⟩

theorem closed_stays_iff_later : ∃ last, Run (DeskStep (calmEnvironment 100)) closedDesk
      [.plan laterPlan, .install laterPlan] last ∧
    leaseOf last.daemon.sessions "a" = some aliceLease ∧ ClosedIn "b" last.daemon.sessions := by
  have admitted : (admitSeat (calmEnvironment 100) "alice" aliceClaims).run bobClosed =
      (.ok (.planned laterPlan), bobClosed) := rfl
  have run : Run (DeskStep (calmEnvironment 100)) closedDesk
      [.plan laterPlan, .install laterPlan] _ :=
    .next (.plan _ (planOf_admitted admitted))
      (.next (.install _ (List.mem_singleton.mpr rfl)) (.done _))
  refine ⟨_, run, rfl, ?_⟩
  have closes : (close "b").run bobSeated.sessions = (.ok (), closedDesk.daemon.sessions) := rfl
  refine (closed_stays_iff closes run).mpr ?_ _ ⟨_, [], rfl, run⟩
  rintro mid event ⟨before, after, split, -⟩
  have member : event ∈ [DeskEvent.plan laterPlan, .install laterPlan] := by
    rw [split]
    simp
  rcases List.mem_pair.mp member with rfl | rfl
  · trivial
  · exact fun _ => (absurd · List.not_mem_nil)

end LostUpdate

end OwnMesh.Daemon
