import OwnMesh.Sessions.Standing

/-!
# Mutators that fail

A mutator of the session manager that is refused should leave the manager as it was.  Claiming
and giving the seat edit the observers before they find out that the generation has no
successor: what they leave then has that edit, and nothing else can go wrong
(`seat_atomic_iff`).
-/

namespace OwnMesh.Sessions

open Foundations Program Table

variable {α : Type} {m : SessionM α} {s : SessionManager} {id : String}

/-- A run from the manager that fails leaves the manager. -/
def AtomicAt (m : SessionM α) (s : SessionManager) : Prop :=
  ∀ e t, m.run s = (.error e, t) → t = s

theorem atomicAt_discard : AtomicAt (discard m) s ↔ AtomicAt m s := by
  rcases ran : m.run s with ⟨_ | a, t⟩
  · simp [AtomicAt, discard, run_bind_of_error ran, ran]
  · simp [AtomicAt, discard, run_bind_of_ok ran, ran]

theorem Edits.atomicAt {β : Type} {admits : SessionInfo → β → Prop} {idle : SessionInfo → Prop}
    {edit : β → SessionInfo → SessionInfo} (edits : Edits s id admits idle edit (m.run s)) :
    AtomicAt m s := by
  intro e t failed
  rw [failed] at edits
  cases edits
  rfl

theorem updateInfo_eq_self_iff {info : SessionInfo} {f : SessionInfo → SessionInfo}
    (found : s.get id = .ok info) : s.updateInfo id f = s ↔ f info = info := by
  constructor
  · intro same
    have looked := get_updateInfo s id f
    rw [same, found] at looked
    exact (Except.ok.inj looked).symm
  · intro same
    have kept : s.sessions.adjust id (fun session => { session with info := f session.info }) =
        s.sessions := by
      refine adjust_eq_self fun session looked => ?_
      simp only [SessionManager.get, looked, Except.ok.injEq] at found
      rw [found, same, ← found]
    rw [SessionManager.updateInfo, kept]

/-- An edit of the observers before the next generation stays when there is none. -/
theorem TakesUp.atomicAt_iff {m : SessionM ControllerLease} {principal : String}
    {admits : SessionInfo → Prop} {observers : List String → List String}
    {state : SessionState → SessionState}
    (takes : TakesUp s id principal admits observers state (m.run s)) :
    AtomicAt m s ↔ ∀ info, s.get id = .ok info → admits info →
      info.controllerEpoch + 1 < 2 ^ 64 ∨ observers info.observers = info.observers := by
  unfold AtomicAt
  generalize m.run s = r at takes ⊢
  cases takes with
  | refused e closed =>
    refine iff_of_true ?_ fun info found admitted => absurd admitted (closed info found)
    rintro _ _ ⟨⟩
    rfl
  | @exhausted info found admitted full =>
    have kept := updateInfo_eq_self_iff (f := fun info =>
      { info with observers := observers info.observers }) found
    constructor
    · intro atomic info' there _
      cases found.symm.trans there
      exact .inr (congrArg SessionInfo.observers (kept.mp (atomic _ _ rfl)))
    · rintro spares _ _ ⟨⟩
      refine kept.mpr ?_
      rw [(spares info found admitted).resolve_left full]
  | seated found _ room =>
    refine iff_of_true nofun fun info there _ => ?_
    cases found.symm.trans there
    exact .inl room

/-- A claim or a gift that comes to a generation without successor edits no observer. -/
def SeatOp.SparesObservers (s : SessionManager) : SeatOp → Prop
  | .claimController id principal now _ => ∀ info, s.get id = .ok info →
      info.state ≠ .closed ∧ info.activeController now = none → info.controllerEpoch + 1 < 2 ^ 64 ∨
          removeObserver info.observers principal = info.observers
  | .giveController id giver receiver now _ => ∀ info, s.get id = .ok info →
      (∃ lease, info.controller = some lease ∧ lease.principalId = giver ∧
        lease.isActive now = true) →
        info.controllerEpoch + 1 < 2 ^ 64 ∨
          removeObserver (addObserver info.observers giver) receiver = info.observers
  | _ => True

theorem seatOp_atomicAt_iff (op : SeatOp) : AtomicAt op.program s ↔ op.SparesObservers s := by
  cases op with
  | openWith request now freshSession freshLease =>
    refine iff_of_true (atomicAt_discard.mpr fun e t failed => ?_) trivial
    rcases openWith_standing request now freshSession freshLease s with
      ⟨_, ran⟩ | ⟨_, _, _, ran, -⟩
    · cases ran.symm.trans failed
      rfl
    · cases ran.symm.trans failed
  | claimController => exact atomicAt_discard.trans (claimController_takes ..).atomicAt_iff
  | giveController => exact atomicAt_discard.trans (giveController_takes ..).atomicAt_iff
  | attachObserver => exact iff_of_true (attachObserver_edits ..).atomicAt trivial
  | releaseController => exact iff_of_true (releaseController_edits ..).atomicAt trivial
  | detachControllerLease => exact iff_of_true (detachControllerLease_edits ..).atomicAt trivial
  | renewControllerLease =>
    exact iff_of_true (atomicAt_discard.mpr (renewControllerLease_edits ..).atomicAt) trivial
  | expireStaleLeases => exact iff_of_true nofun trivial
  | reconcileControllerFromTransition =>
    exact iff_of_true (reconcileControllerFromTransition_edits ..).atomicAt trivial
  | close => exact iff_of_true (setInfo_edits _).atomicAt trivial

/-- **When mutators are atomic.**  A mutator that fails leaves the manager exactly as it was,
except for a claim or a gift of a seat whose generation is exhausted. -/
theorem seat_atomic_iff (s : SessionManager) :
    (∀ op : SeatOp, AtomicAt op.program s ↔ op.SparesObservers s) ∧
      (∀ id seq digest channel, AtomicAt (reserveControllerSeq id seq digest channel) s) ∧
        ∀ id seq channel, AtomicAt (finalizeControllerSeq id seq channel) s := by
  refine ⟨seatOp_atomicAt_iff, fun id seq digest channel e t failed => ?_,
    fun id seq channel => (finalizeControllerSeq_edits seq channel).atomicAt⟩
  have reserves := reserveControllerSeq_cases s id seq digest channel
  rw [failed] at reserves
  cases reserves
  rfl

/-- An observer who claims the last generation of a seat is refused and observes no more. -/
theorem exhausted_claim_edits :
    let request : OpenRequest := ⟨.pty, "", "creator", none, none, none, none⟩
    let info := { request.info "ses" ⟨"creator", "lease", 2 ^ 64 - 1, 0⟩ with
      controllerEpoch := 2 ^ 64 - 1, observers := ["observer"] }
    let s := { SessionManager.new with sessions := AList.singleton "ses" ⟨info, [], 256, 0⟩ }
    let run := (claimController "ses" "observer" 1 "fresh").run s
    run.1 = .error (.invalid "controller epoch exhausted") ∧
      (run.2.get "ses").map (·.observers) = .ok [] ∧
        (s.get "ses").map (·.observers) = .ok ["observer"] := by
  decide +kernel

end OwnMesh.Sessions
