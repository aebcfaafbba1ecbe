import OwnMesh.Daemon.SeatRecovery
import OwnMesh.Daemon.TerminalRecovery
import OwnMesh.Supervisor.Effects

/-!
# Recovery of an interrupted claim

A claim of a session whose host has an expired binding asks the supervisor to reclaim the
host, and a claim of one with a live binding asks it to claim the host.  The record says
claim in both cases, and recovery always asks for a claim.

Here the world of the daemon is the state of the supervisor.  The handler's request may
have reached the supervisor or not; recovery asks again, later.  If the request was
carried out, its receipt answers the claim, whichever of the two it was.  If it was not,
the claim needs what a claim needs, at the later time: an old binding that has not
expired, which a reclaim never had.
-/

namespace OwnMesh.Daemon

open Foundations Ipc Sessions Transitions Supervisor
open Foundations.Program (Moves Keeps whenever)

variable {ω : Type} {sup : Supervisor.Environment ω} {env : Environment (SupervisorState ω)}
  {d : DaemonRuntime (SupervisorState ω)} {record : TransitionRecord} {current : SessionInfo}

/-! ## The daemon and its supervisor -/

/-- The changes the daemon asks for are carried out by the supervisor. -/
def ServedBy (env : Environment (SupervisorState ω)) (sup : Supervisor.Environment ω) : Prop :=
  ∀ binding change id s,
    env.change binding change id s = (dispatchChange sup binding change id).run s

/-- The supervisor as it is when recovery asks it: recovery has looked at the clock
once. -/
def askedSupervisor (env : Environment (SupervisorState ω))
    (d : DaemonRuntime (SupervisorState ω)) : SupervisorState ω :=
  (env.now d.world).2

/-- Recovery asks the supervisor for a change, and the supervisor grants it. -/
def OperationSucceeds (env : Environment (SupervisorState ω))
    (d : DaemonRuntime (SupervisorState ω)) (record : TransitionRecord) : Prop :=
  ∃ change, ((recoverTransitionRecord env record).run d).2.sent =
      d.sent ++ [.change (oldSupervisorBinding record) change record.transitionId] ∧
    ∃ next s, env.change (oldSupervisorBinding record) change record.transitionId
      (askedSupervisor env d) = (.ok next, s)

/-- Recovery asks for a change that succeeds, and no pass of recovery fails at the
record. -/
def RecoversClaim (env : Environment (SupervisorState ω))
    (d : DaemonRuntime (SupervisorState ω)) (record : TransitionRecord) : Prop :=
  OperationSucceeds env d record ∧ ∀ now, ∃ d', (recoverRound env now record).run d = (.ok (), d')

/-- A claim was interrupted after it was written down.  `before` and `after` are the
supervisor before and after it carries out the handler's request; `d` is the daemon when
it recovers the record, and its supervisor has the host as one of them has it. -/
structure InterruptedClaim (env : Environment (SupervisorState ω))
    (sup : Supervisor.Environment ω) (transition : SidecarTransition)
    (before after : SupervisorState ω) (d : DaemonRuntime (SupervisorState ω))
    (current : SessionInfo) : Prop where
  planned : ∃ client request plan d₀, PlanOf env client d₀ (.claim request) plan ∧
    plan.sidecar = some transition
  granted : ∃ next, (dispatchChange sup (oldSupervisorBinding transition.record)
    transition.change transition.record.transitionId).run before = (.ok next, after)
  manifests : ∀ hosted, before.hosts.lookup transition.record.sessionId = some hosted →
    ValidManifest hosted.manifest
  left : (askedSupervisor env d).hosts.lookup transition.record.sessionId =
      before.hosts.lookup transition.record.sessionId ∨
    (askedSupervisor env d).hosts.lookup transition.record.sessionId =
      after.hosts.lookup transition.record.sessionId
  guardLater : sup.guardClock before.world ≤ sup.guardClock (askedSupervisor env d).world
  lifetimeLater : sup.lifetimeClock before.world ≤
    sup.lifetimeClock (askedSupervisor env d).world
  pending : SeatPending env d transition.record current
  served : ServedBy env sup
  dependable : Dependable sup

/-- The receipt of the claim of a record. -/
def claimReceipt (sup : Supervisor.Environment ω) (record : TransitionRecord) : TransitionReceipt :=
  seatReceipt sup (oldSupervisorBinding record) record.target.principal
    record.target.controllerEpoch record.target.bindingExpiresUnix record.transitionId

/-- The supervisor still grants the claim: it has carried it out already, or the old
binding, the new lease and the host are all alive. -/
def StillClaimable (sup : Supervisor.Environment ω) (record : TransitionRecord)
    (s : SupervisorState ω) : Prop :=
  ∃ hosted, s.hosts.lookup record.sessionId = some hosted ∧
    (hosted.manifest.lastTransition = some (claimReceipt sup record) ∨
      (sup.guardClock s.world < hosted.manifest.bindingExpiresUnix ∧
        sup.lifetimeClock s.world < record.target.bindingExpiresUnix ∧
        sup.lifetimeClock s.world < hosted.manifest.hostExpiresUnix))

/-! ## The request of recovery -/

/-- What recovery asks for on behalf of a claim. -/
def claimAgain (record : TransitionRecord) : Change :=
  .claim record.target.principal record.target.controllerEpoch record.target.bindingExpiresUnix

namespace InterruptedClaim

variable {transition : SidecarTransition} {before after : SupervisorState ω}

section

variable (interrupted : InterruptedClaim env sup transition before after d current)
include interrupted

/-- The record of a claim, and what its handler asked for. -/
theorem shape : replayChange transition.record = some (claimAgain transition.record) ∧
      transition.record.phase = .intent ∧
      (∃ leaseId, transition.record.target.leaseId = some leaseId) ∧
      Seats transition.record.target.principal transition.record.target.controllerEpoch
        transition.record.target.bindingExpiresUnix transition.change := by
  obtain ⟨client, request, plan, d₀, planned, hosted⟩ := interrupted.planned
  cases planned with
  | claim =>
    obtain ⟨old, -, rfl⟩ := Option.map_eq_some_iff.mp hosted
    refine ⟨rfl, rfl, ⟨_, rfl⟩, ?_⟩
    simp only [claimTransition]
    split
    · exact .inr rfl
    · exact .inl rfl

/-- The supervisor grants the claim of recovery exactly when it is still claimable. -/
theorem granted_again_iff : (∃ next s, env.change (oldSupervisorBinding transition.record)
        (claimAgain transition.record) transition.record.transitionId (askedSupervisor env d) =
          (.ok next, s)) ↔ StillClaimable sup transition.record (askedSupervisor env d) := by
  obtain ⟨-, -, -, seats⟩ := interrupted.shape
  obtain ⟨next, granted⟩ := interrupted.granted
  -- the host is there before and after the handler's request, so recovery finds it
  have found : ∃ hosted, (askedSupervisor env d).hosts.lookup transition.record.sessionId =
      some hosted := by
    rcases interrupted.left with same | same
    · obtain ⟨-, changed⟩ := dispatchChange_ok_iff.mp granted
      obtain ⟨hosted, found, -⟩ := changeBinding_ok_iff.mp changed
      exact ⟨hosted, same.trans found⟩
    · obtain ⟨hosted, found, -⟩ := granted_keeps_receipt seats granted
      exact ⟨hosted, same.trans found⟩
  obtain ⟨hosted, found⟩ := found
  have again := claim_again_iff interrupted.dependable seats granted found interrupted.left
    interrupted.guardLater interrupted.lifetimeLater
  simp only [interrupted.served _ _ _ _]
  refine again.trans ⟨fun granted => ⟨hosted, found, granted⟩, ?_⟩
  rintro ⟨hosted', found', granted⟩
  rw [found] at found'
  cases found'
  exact granted

/-- The answer to the claim of recovery can be noted exactly when the new lease ends
before the host does. -/
theorem notable_iff {next : SupervisorBinding} {s : SupervisorState ω}
    (answered : env.change (oldSupervisorBinding transition.record)
      (claimAgain transition.record) transition.record.transitionId (askedSupervisor env d) =
        (.ok next, s)) : validate (transition.record.markApplied
        (some (recoveredBinding transition.record next))) = .ok () ↔
      transition.record.target.bindingExpiresUnix <
        transition.record.oldBinding.hostExpiresUnix := by
  have valid := validate_ok_iff.mp interrupted.pending.valid
  have manifests : ∀ hosted, (askedSupervisor env d).hosts.lookup transition.record.sessionId =
      some hosted → ValidManifest hosted.manifest := by
    intro hosted found
    rcases interrupted.left with same | same
    · exact interrupted.manifests hosted (same.symm.trans found)
    · obtain ⟨_, granted⟩ := interrupted.granted
      exact (changeBinding_valid interrupted.manifests (dispatchChange_ok_iff.mp granted).2).2
        hosted (same.symm.trans found)
  rw [interrupted.served] at answered
  obtain ⟨⟨manifest, wellFormed, rfl⟩, -⟩ :=
    changeBinding_valid manifests (dispatchChange_ok_iff.mp answered).2
  rw [markApplied_valid_iff interrupted.pending.valid]
  constructor
  · rintro ⟨binding, -⟩
    exact binding.lifetime.2.2
  · intro ends
    have identifiers := valid.identifiers
    simp only [List.forall_mem_cons, List.not_mem_nil, false_implies, implies_true, and_true]
      at identifiers
    obtain ⟨-, -, device, workspace, -, principal⟩ := identifiers
    have leased : 0 < transition.record.target.bindingExpiresUnix :=
      valid.window.2.1.trans valid.window.2.2.2.1
    exact ⟨⟨device, workspace, principal, wellFormed.nonce, ⟨wellFormed.numbers.1, leased, ends⟩,
      valid.oldBinding.child⟩, valid.covers.1⟩

end

end InterruptedClaim

/-! ## Which claims recovery finishes -/

instance : IgnoresWorld (Keeps (DaemonRuntime.sent (ω := ω))) := ⟨fun _ _ => rfl⟩

/-- Nothing was asked of the supervisor. -/
theorem not_operationSucceeds
    (quiet : ((recoverTransitionRecord env record).run d).2.sent = d.sent) :
    ¬ OperationSucceeds env d record := by
  rintro ⟨change, sent, -⟩
  rw [quiet] at sent
  exact absurd sent (by simp)

/-- A pass never fails at a record exactly when the recovery of the record answers. -/
theorem rounds_ok_iff : (∀ now, ∃ d', (recoverRound env now record).run d = (.ok (), d')) ↔
      ∃ d', (recoverTransitionRecord env record).run d = (.ok (), d') := by
  constructor
  · intro rounds
    obtain ⟨d', ran⟩ := rounds (record.expiresUnix - 1)
    rw [recoverRound, whenever, if_pos (by omega)] at ran
    exact ⟨d', ran⟩
  · rintro ⟨d', ran⟩ now
    unfold recoverRound whenever
    split
    · exact ⟨d', ran⟩
    · exact ⟨d, rfl⟩

/-- In its window and workspace, the recovery of an interrupted claim asks for a claim;
it succeeds exactly when the supervisor grants that. -/
theorem operationSucceeds_iff (pending : SeatPending env d record current)
    (within_ : ¬ record.expiresUnix ≤ (env.now d.world).1)
    (same : current.workspaceId = some record.workspaceId) (phase : record.phase = .intent)
    {change : Change} (asks : replayChange record = some change) : OperationSucceeds env d record ↔
      ∃ next s, env.change (oldSupervisorBinding record) change record.transitionId
        (askedSupervisor env d) = (.ok next, s) := by
  have sent : ((recoverTransitionRecord env record).run d).2.sent =
      d.sent ++ [.change (oldSupervisorBinding record) change record.transitionId] := by
    rw [recoverTransitionRecord_present within_ pending.present]
    exact recoverSession_sent pending.tick.connected phase same asks
  constructor
  · rintro ⟨other, sent', granted⟩
    rw [sent] at sent'
    have agree : change = other := by simpa using sent'
    rw [agree]
    exact granted
  · intro granted
    exact ⟨change, sent, granted⟩

/-- **Recovery finishes an interrupted claim only while the old binding lives.**  Given
that the supervisor carried out the handler's request or would have done so, recovery
succeeds exactly when the record is in its window and of the session's workspace, the
supervisor has the claim already or its old binding, its lease and its host are still
alive, the lease ends before the host, and the session is past the claim or can take
it. -/
theorem claimRecovery_succeeds_iff {transition : SidecarTransition}
    {before after : SupervisorState ω}
    (interrupted : InterruptedClaim env sup transition before after d current) :
    RecoversClaim env d transition.record ↔ (env.now d.world).1 < transition.record.expiresUnix ∧
        current.workspaceId = some transition.record.workspaceId ∧
        StillClaimable sup transition.record (askedSupervisor env d) ∧
        transition.record.target.bindingExpiresUnix <
          transition.record.oldBinding.hostExpiresUnix ∧
        (Superseded transition.record current ∨ Resumable transition.record current) := by
  obtain ⟨asks, phase, ⟨leaseId, leased⟩, -⟩ := interrupted.shape
  have pending := interrupted.pending
  by_cases past : transition.record.expiresUnix ≤ (env.now d.world).1
  · refine iff_of_false (fun recovers => not_operationSucceeds ?_ recovers.1) ?_
    · rw [recoverTransitionRecord_expired past]
      exact reconcileExpiredTransitionRecord_moves (fun _ => withTransitions_sent _ _) (d.tick env)
    · exact fun needs => absurd needs.1 (not_lt.mpr past)
  by_cases same : current.workspaceId = some transition.record.workspaceId
  · rw [RecoversClaim, operationSucceeds_iff pending past same phase asks,
      interrupted.granted_again_iff, rounds_ok_iff,
      recoverTransitionRecord_present past pending.present,
      recoverSession_ok_iff pending.tick phase asks leased same]
    constructor
    · rintro ⟨claimable, ⟨next, s, answered, notable⟩, ready⟩
      exact ⟨not_le.mp past, same, claimable, (interrupted.notable_iff answered).mp notable, ready⟩
    · rintro ⟨-, -, claimable, ends, ready⟩
      obtain ⟨next, s, answered⟩ := interrupted.granted_again_iff.mpr claimable
      exact ⟨claimable, ⟨next, s, answered, (interrupted.notable_iff answered).mpr ends⟩, ready⟩
  · refine iff_of_false (fun recovers => not_operationSucceeds ?_ recovers.1) ?_
    · rw [recoverTransitionRecord_present past pending.present, recoverSession,
        Program.run_bind_of_error (Program.run_require_of_not same _ _)]
      rfl
    · exact fun needs => same needs.2.1

/-! ## A claim of an expired binding -/

section Erin

/-- A supervisor whose world is its clock, and for which everything succeeds. -/
def clockedSupervisor : Supervisor.Environment Int where
  now := fun w => (w, w)
  fresh := fun w => ("fresh", w)
  digest := fun payload =>
    match payload with
    | .handoff .. => "handoff"
    | .detach .. => "detach"
    | .renew .. => "renew"
    | .terminate .. => "terminate"
  startHost := fun w => (none, w)
  createSpool := fun w => (none, w)
  createStderr := fun w => (none, w)
  writeManifest := fun w => (none, w)
  readReceipt := fun w => (none, w)
  writeReceipt := fun w => (.written, w)
  readSpool := fun w => (none, w)
  writeSpool := fun w => (.written, w)
  writeHost := fun _ _ w => (none, w)
  resizeHost := fun _ _ _ w => (none, w)
  drainHost := fun _ _ _ w => (.ok ([], false), w)
  terminateHost := fun _ w => (none, w)
  hostStatus := fun _ w => (⟨none, none, 0, 0, 0, false⟩, w)

/-- A daemon on the same clock, whose writes succeed and whose supervisor that is. -/
def clockedEnvironment : Environment (SupervisorState Int) where
  journal :=
    { now := fun s => (s.world, s)
      encode := fun _ => .ok 0
      primaryPath := "op-journal.json"
      backupPath := "op-journal.json.bak"
      removeBackup := fun s => (none, s)
      writePrimary := fun s => (none, s)
      readFile := fun s => (none, s)
      persistApprovals := fun s => (none, s)
      persistGrants := fun s => (none, s)
      consumeGrantUse := fun s => (none, s) }
  transitions := { encode := fun _ => .ok [], write := fun _ s => (.written, s) }
  transitionJournalDir := "session-transitions"
  sessionsPath := "sessions/sessions.json"
  canonicalizePrincipalKey := id
  fresh := fun s => ("fresh", s)
  writeSessions := fun _ s => (none, s)
  bootstrap := fun s => (none, s)
  status := fun _ s => (.error (.other "no status"), s)
  hostLive := fun id s => (.ok (s.tracked id || s.inFlight id), s)
  change := fun binding change id => (dispatchChange clockedSupervisor binding change id).run
  terminate := fun _ _ s => (none, s)
  runningProcessBirthId := fun _ s => (.error "unknown process", s)
  terminationReceipt := fun _ s => (none, s)
  loadFiles := fun s => (none, s)
  drainLiveOutput := fun _ sessions s => (sessions, s)

/-- The binding of Erin's host, which nobody controls; it expires at the given time. -/
def erinBinding (bindingExpires : Int) : SidecarHostBinding :=
  plainBinding "erin" "host_e" 1 bindingExpires 1000

def erinSessions (bindingExpires : Int) : SessionManager :=
  plainManager ((∅ : Table String Session).insert "e"
    (plainSession "e" "erin" (erinBinding bindingExpires)))

/-- The manifest of Erin's host before her request. -/
def erinManifest (bindingExpires : Int) : HostManifest where
  sessionId := "e"
  deviceId := "dev"
  workspaceId := "ws_default"
  ownerPrincipal := "erin"
  ioMode := .pty
  controllerAttached := false
  hostNonce := "host_e"
  controllerEpoch := 1
  bindingExpiresUnix := bindingExpires
  hostExpiresUnix := 1000
  lastTransition := none

/-- The supervisor at some time, before Erin's request reached it. -/
def erinSupervisor (bindingExpires now : Int) : SupervisorState Int where
  hosts := (∅ : Table String Hosted).insert "e"
    ⟨erinManifest bindingExpires, erinManifest bindingExpires, ⟨0, []⟩, none⟩
  terminating := []
  directories := (∅ : Table String (Option TerminationReceipt)).insert "e" none
  world := now

/-- The daemon at some time, with the given records in its journal. -/
def erinDaemon (bindingExpires now : Int) (transitions : Table String TransitionRecord) :
    DaemonRuntime (SupervisorState Int) where
  entries := ∅
  degraded := none
  primary := none
  backup := none
  world := erinSupervisor bindingExpires now
  sessions := erinSessions bindingExpires
  sessionsFile := erinSessions bindingExpires
  transitions := transitions
  transitionsFile := transitions
  connected := true
  transitionRecoveryRunning := false
  retainedExpired := []
  retainedExpiredTotal := 0
  reattachRetainedSessions := 0
  liveHosts := []
  activeRemoteOperationId := none
  activeRemoteDeviceId := none
  sent := []

/-- What Erin's handler has checked at time 100. -/
def erinChecked (bindingExpires : Int) : Checked where
  workspace := "ws_default"
  operation := "op_e"
  now := 100
  snapshot := erinSessions bindingExpires
  sidecarHost := some (erinBinding bindingExpires)

def erinLease : ControllerLease where
  principalId := "erin"
  leaseId := "lease_fresh"
  epoch := 2
  expiresUnix := 160

def erinTransition (bindingExpires : Int) : SidecarTransition :=
  claimTransition "e" "erin" (erinChecked bindingExpires) erinLease (erinBinding bindingExpires)

/-- The daemon when it recovers Erin's record, which never reached the supervisor. -/
def erinRecovers (bindingExpires : Int) : DaemonRuntime (SupervisorState Int) :=
  erinDaemon bindingExpires 110 ((∅ : Table String TransitionRecord).insert
    (erinTransition bindingExpires).record.transitionId (erinTransition bindingExpires).record)

def erinInfo (bindingExpires : Int) : SessionInfo :=
  (plainSession "e" "erin" (erinBinding bindingExpires)).info

/-- The supervisor after it has carried out Erin's request at time 100. -/
def erinSeated (bindingExpires : Int) : SupervisorState Int :=
  ((dispatchChange clockedSupervisor (oldSupervisorBinding (erinTransition bindingExpires).record)
    (erinTransition bindingExpires).change
    (erinTransition bindingExpires).record.transitionId).run (erinSupervisor bindingExpires 100)).2

/-- Erin's request was interrupted before it reached the supervisor. -/
theorem erin_interrupted (bindingExpires : Int)
    (manifest : (erinManifest bindingExpires).validate = .ok ())
    (valid : validate (erinTransition bindingExpires).record = .ok ())
    (granted : ∃ next, (dispatchChange clockedSupervisor
      (oldSupervisorBinding (erinTransition bindingExpires).record)
      (erinTransition bindingExpires).change
      (erinTransition bindingExpires).record.transitionId).run
        (erinSupervisor bindingExpires 100) = (.ok next, erinSeated bindingExpires)) :
    InterruptedClaim clockedEnvironment clockedSupervisor (erinTransition bindingExpires)
      (erinSupervisor bindingExpires 100) (erinSeated bindingExpires)
      (erinRecovers bindingExpires) (erinInfo bindingExpires) where
  planned := by
    have claimed : (claimController "e" "erin" 100 "fresh").run (erinSessions bindingExpires) =
      (.ok erinLease, _) := rfl
    have checkedIn : CheckedIn (erinDaemon bindingExpires 100 ∅) "e" (erinChecked bindingExpires) :=
      ⟨rfl, rfl, erinInfo bindingExpires, rfl, rfl, rfl⟩
    exact ⟨"erin", .ok ⟨"e", none, none, none⟩, _, _, .claim checkedIn claimed, rfl⟩
  granted := granted
  manifests := by
    intro hosted found
    obtain rfl := Option.some.inj found
    exact validate_ok_iff.mp manifest
  left := .inl rfl
  guardLater := show (100 : Int) ≤ 110 by decide
  lifetimeLater := show (100 : Int) ≤ 110 by decide
  pending := ⟨rfl, rfl, valid, rfl, rfl, fun _ _ => rfl, fun _ _ => rfl,
    fun _ => ⟨[], rfl, Nat.zero_le _⟩⟩
  served := fun _ _ _ _ => rfl
  dependable := ⟨fun _ => show validComponent "host_fresh" = true by decide, fun _ => rfl⟩

/-- Erin's host has a binding that lives until 500: recovery finishes her claim. -/
theorem claimRecovery_succeeds_iff_erin :
    InterruptedClaim clockedEnvironment clockedSupervisor (erinTransition 500)
        (erinSupervisor 500 100) (erinSeated 500) (erinRecovers 500) (erinInfo 500) ∧
      RecoversClaim clockedEnvironment (erinRecovers 500) (erinTransition 500).record := by
  have interrupted := erin_interrupted 500 rfl rfl ⟨_, rfl⟩
  refine ⟨interrupted, (claimRecovery_succeeds_iff interrupted).mpr ⟨by decide, rfl,
    ⟨_, rfl, .inr ⟨by decide, by decide, by decide⟩⟩, by decide, .inr ⟨by decide, ?_⟩⟩⟩
  exact nofun

/-- The binding of Erin's host expired at 90, so her handler asks for a reclaim, and is
interrupted before it reaches the supervisor.  At 110 recovery asks for a claim, which is
refused and ends the pass, although the reclaim would be granted. -/
theorem reclaim_recovery_blocked :
    InterruptedClaim clockedEnvironment clockedSupervisor (erinTransition 90)
        (erinSupervisor 90 100) (erinSeated 90) (erinRecovers 90) (erinInfo 90) ∧
      ¬ RecoversClaim clockedEnvironment (erinRecovers 90) (erinTransition 90).record ∧
      ((recoverSidecarTransitions clockedEnvironment).run (erinRecovers 90)).1 =
        .error (.remote AppError.conflict
          "replay sidecar transition: ipc remote error -32602: supervisor binding expired") ∧
      ((dispatchChange clockedSupervisor (oldSupervisorBinding (erinTransition 90).record)
        (erinTransition 90).change (erinTransition 90).record.transitionId).run
          (erinSupervisor 90 110)).1 = .ok ⟨"e", "dev", "ws_default", "erin", "host_fresh", 2⟩ := by
  refine ⟨erin_interrupted 90 rfl rfl ⟨_, rfl⟩, ?_, rfl, rfl⟩
  rintro ⟨-, rounds⟩
  obtain ⟨d', ran⟩ := rounds 110
  exact absurd (congrArg Prod.fst ran) nofun

end Erin

end OwnMesh.Daemon
