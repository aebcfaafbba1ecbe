import OwnMesh.Sessions.Manager

/-!
# What the operations on a session do

Every operation on one session leaves the others alone (`Elsewhere`).  One that
succeeds changes the description of its session by a function that depends on its
arguments only, so it is stated as a single `updateInfo`.
-/

namespace OwnMesh.Sessions

open Foundations Program Table

variable {m m' : SessionManager} {id : String} {R : SessionManager → SessionManager → Prop}

/-! ## Other sessions -/

/-- Every session other than `id` is as it was. -/
def Elsewhere (id : String) (m m' : SessionManager) : Prop :=
  ∀ other, other ≠ id → m'.sessions.lookup other = m.sessions.lookup other

instance (id : String) : Std.Refl (Elsewhere id) := ⟨fun _ _ _ => rfl⟩

instance (id : String) : IsTrans SessionManager (Elsewhere id) :=
  ⟨fun _ _ _ first second other different =>
    (second other different).trans (first other different)⟩

/-- Managers that agree with a third one away from `id` agree with each other there. -/
theorem elsewhere_comm {n : SessionManager} (same : Elsewhere id m n) :
    Elsewhere id m' n ↔ Elsewhere id m m' := by
  constructor
  · intro agree other different
    rw [← agree other different, same other different]
  · intro agree other different
    rw [agree other different, same other different]

theorem elsewhere_updateInfo (m : SessionManager) (id : String) (f : SessionInfo → SessionInfo) :
    Elsewhere id m (m.updateInfo id f) := by
  intro other different
  exact lookup_adjust_ne different _ _

theorem info_moves [Std.Refl R] (id : String) : Moves R (info id) :=
  fun m => refl_of R m

theorem updateInfo_moves (id : String) (f : SessionInfo → SessionInfo) :
    Moves (Elsewhere id) (updateInfo id f) :=
  .modify fun m => elsewhere_updateInfo m id f

/-- A change of the description that is not about input or output. -/
structure KeepsIo (f : SessionInfo → SessionInfo) : Prop where
  nextSeq : ∀ info, (f info).nextSeq = info.nextSeq
  receipt : ∀ info channel, (f info).receipt channel = info.receipt channel

variable {f : SessionInfo → SessionInfo}

theorem keepsIo (same : ∀ info, (f info).nextSeq = info.nextSeq ∧
      (f info).receipt .input = info.receipt .input ∧
      (f info).receipt .resize = info.receipt .resize := by exact fun _ => ⟨rfl, rfl, rfl⟩) :
    KeepsIo f where
  nextSeq := fun info => (same info).1
  receipt := fun info channel => by
    cases channel with
    | input => exact (same info).2.1
    | resize => exact (same info).2.2

/-! ## The session itself -/

@[simp]
theorem get_updateInfo (m : SessionManager) (id : String) (f : SessionInfo → SessionInfo) :
    (m.updateInfo id f).get id = (m.get id).map f := by
  unfold SessionManager.get SessionManager.updateInfo
  rw [lookup_adjust_self]
  cases m.sessions.lookup id <;> rfl

/-- Two updates of one session are one. -/
@[simp]
theorem updateInfo_updateInfo (m : SessionManager) (id : String) (f g : SessionInfo → SessionInfo) :
    (m.updateInfo id f).updateInfo id g = m.updateInfo id (g ∘ f) := by
  simp only [SessionManager.updateInfo, adjust_adjust]
  rfl

variable {info : SessionInfo}

theorem info_run (found : m.get id = .ok info) : (Sessions.info id).run m = (.ok info, m) := by
  simp only [Sessions.info, found]

theorem info_ok_iff : (Sessions.info id).run m = (.ok info, m') ↔ m.get id = .ok info ∧ m = m' := by
  simp only [Sessions.info, Prod.mk.injEq]

theorem forall_get_iff (found : m.get id = .ok info) {Q : SessionInfo → Prop} :
    (∀ info', m.get id = .ok info' → Q info') ↔ Q info := by
  simp [found]

theorem get_ok_iff :
    m.get id = .ok info ↔ ∃ session, m.sessions.lookup id = some session ∧ session.info = info := by
  unfold SessionManager.get
  cases m.sessions.lookup id <;> simp

theorem setInfo_run (found : m.get id = .ok info)
    (f : SessionInfo → SessionInfo) : (setInfo id f).run m = (.ok (), m.updateInfo id f) := by
  rw [setInfo, run_bind_of_ok (info_run found)]
  rfl

theorem setInfo_run_of_missing (missing : m.get id = .error .notFound)
    (f : SessionInfo → SessionInfo) : (setInfo id f).run m = (.error .notFound, m) := by
  have looked : (Sessions.info id).run m = (.error .notFound, m) := by
    simp only [Sessions.info, missing]
  rw [setInfo, run_bind_of_error looked]

theorem terminate_run (found : m.get id = .ok info) :
    ∃ m', (terminate id).run m = (.ok (), m') ∧ m'.get id = .error .notFound := by
  refine ⟨_, run_bind_of_ok (setInfo_run found _), ?_⟩
  unfold SessionManager.get
  rw [show AList.lookup id _ = none from AList.lookup_erase _ _]

/-! ## What an operation on the seat comes to -/

section Cases

variable {α : Type} {P : Except SessionError α × SessionManager → Prop}

/-- Reading a session moves nothing, and what is read is there. -/
theorem info_bind_cases {next : SessionInfo → SessionM α}
    (missing : ∀ e, m.get id = .error e → P (.error e, m))
    (there : ∀ info, m.get id = .ok info → P ((next info).run m)) :
    P ((Sessions.info id >>= next).run m) := by
  cases found : m.get id with
  | error e =>
    have run : (Sessions.info id).run m = (.error e, m) := by simp only [Sessions.info, found]
    rw [run_bind_of_error run]
    exact missing e found
  | ok info =>
    rw [run_bind_of_ok (info_run found)]
    exact there info found

theorem authorizeControllerLease_bind_cases {next : Unit → SessionM α}
    {principal leaseId : String} {epoch : Nat} {now : Int} (refused : ∀ e, P (.error e, m))
    (allowed : ∀ info, m.get id = .ok info → (info.activeController now).any (fun lease =>
        lease.principalId = principal && lease.leaseId = leaseId && lease.epoch = epoch) = true →
      P ((next ()).run m)) :
    P ((authorizeControllerLease id principal leaseId epoch now >>= next).run m) := by
  rw [authorizeControllerLease, bind_bind]
  exact info_bind_cases (fun e _ => refused e) fun info found =>
    run_require_bind_cases (fun _ => refused _) (allowed info found)

theorem nextEpoch_bind_cases {epoch : Nat} {next : Nat → SessionM α}
    (exhausted : ¬ epoch + 1 < 2 ^ 64 → P (.error (.invalid "controller epoch exhausted"), m))
    (answered : epoch + 1 < 2 ^ 64 → P ((next (epoch + 1)).run m)) :
    P ((nextEpoch epoch >>= next).run m) := by
  rw [nextEpoch, bind_bind]
  exact run_require_bind_cases exhausted answered

end Cases

/-- An operation about one session is refused, finds nothing to do, or edits the
description. -/
inductive Edits (m : SessionManager) (id : String) {β : Type} (admits : SessionInfo → β → Prop)
    (idle : SessionInfo → Prop) (edit : β → SessionInfo → SessionInfo) {α : Type} :
    Except SessionError α × SessionManager → Prop where
  | refused (e : SessionError) : Edits m id admits idle edit (.error e, m)
  | still {info : SessionInfo} (a : α) (found : m.get id = .ok info) (rests : idle info) :
      Edits m id admits idle edit (.ok a, m)
  | edited {info : SessionInfo} {b : β} (a : α) (found : m.get id = .ok info)
      (admitted : admits info b) : Edits m id admits idle edit (.ok a, m.updateInfo id (edit b))

theorem Edits.moves [Std.Refl R] {β : Type} {admits : SessionInfo → β → Prop}
    {idle : SessionInfo → Prop} {edit : β → SessionInfo → SessionInfo} {α : Type}
    {r : Except SessionError α × SessionManager} (edits : Edits m id admits idle edit r)
    (update : ∀ b, Moves R (updateInfo id (edit b))) : R m r.2 := by
  cases edits with
  | refused | still => exact refl_of R m
  | edited => exact update _ m

/-- Taking the seat is refused, runs out of generations when the observers are edited
already, or seats the principal in the next generation. -/
inductive TakesUp (m : SessionManager) (id principal : String) (admits : SessionInfo → Prop)
    (observers : List String → List String) (state : SessionState → SessionState) :
    Except SessionError ControllerLease × SessionManager → Prop where
  | refused (e : SessionError) (closed : ∀ info, m.get id = .ok info → ¬ admits info) :
      TakesUp m id principal admits observers state (.error e, m)
  | exhausted {info : SessionInfo} (found : m.get id = .ok info) (admitted : admits info)
      (full : ¬ info.controllerEpoch + 1 < 2 ^ 64) :
      TakesUp m id principal admits observers state
        (.error (.invalid "controller epoch exhausted"), m.updateInfo id fun info =>
          { info with observers := observers info.observers })
  | seated {info : SessionInfo} {lease : ControllerLease} (found : m.get id = .ok info)
      (admitted : admits info) (room : info.controllerEpoch + 1 < 2 ^ 64)
      (holder : lease.principalId = principal) (next : lease.epoch = info.controllerEpoch + 1) :
      TakesUp m id principal admits observers state (.ok lease, m.updateInfo id fun current =>
        { current with
          observers := observers current.observers
          controller := some lease
          controllerEpoch := info.controllerEpoch + 1
          state := state current.state })

section

variable {principal : String} {admits : SessionInfo → Prop}
  {observers : List String → List String} {state : SessionState → SessionState}
  {r : Except SessionError ControllerLease × SessionManager}

theorem TakesUp.refusedAt (found : m.get id = .ok info) (closed : ¬ admits info)
    (e : SessionError) :
    TakesUp m id principal admits observers state (.error e, m) := by
  refine .refused e fun info' there => ?_
  cases found.symm.trans there
  exact closed

theorem TakesUp.still (takes : TakesUp m id principal admits observers state r)
    (closed : ∀ info, m.get id = .ok info → ¬ admits info) : r.2 = m := by
  cases takes with
  | refused => rfl
  | exhausted found admitted | seated found admitted => exact absurd admitted (closed _ found)

theorem TakesUp.moves [Std.Refl R] (takes : TakesUp m id principal admits observers state r)
    (update : ∀ f, KeepsIo f → Moves R (updateInfo id f)) : R m r.2 := by
  cases takes with
  | refused => exact refl_of R m
  | exhausted | seated => exact update _ keepsIo m

end

/-- What restoring an interrupted seat makes of a session. -/
def SessionInfo.reconciled (info : SessionInfo) (principal leaseId : String) (epoch : Nat)
    (expiresUnix : Int) (attached : Bool) : SessionInfo :=
  if attached then
    { info with
      observers := removeObserver info.observers principal
      controller := some
        { principalId := principal, leaseId := leaseId, epoch := epoch,
          expiresUnix := expiresUnix }
      controllerEpoch := epoch
      state := .running }
  else
    { info with
      observers := addObserver info.observers principal
      controller := none
      state := .detached
      controllerEpoch := epoch }

section Seat

variable (principal leaseId : String) (epoch : Nat) (now : Int)

theorem renewControllerLease_edits (ttl : Int) :
    Edits m id (fun info lease => info.controller = some lease) (fun _ => False)
      (fun lease info => { info with controller := some { lease with expiresUnix := now + ttl } })
      ((renewControllerLease id principal leaseId epoch now ttl).run m) := by
  refine run_require_bind_cases (fun _ => .refused _) fun _ => ?_
  refine authorizeControllerLease_bind_cases .refused fun _ _ _ => ?_
  refine info_bind_cases (fun e _ => .refused e) fun info found => ?_
  cases held : info.controller with
  | none => exact .refused _
  | some =>
    exact run_require_bind_cases (fun _ => .refused _) fun _ => .edited _ found held

theorem releaseController_edits : Edits m id (fun info (lease : ControllerLease) =>
        info.controller = some lease ∧ lease.principalId = principal)
      (fun info => info.controller = none)
      (fun _ info => { info with
        observers := addObserver info.observers principal
        controller := none
        state := .detached })
      ((releaseController id principal now).run m) := by
  refine info_bind_cases (fun e _ => .refused e) fun info found => ?_
  cases held : info.controller with
  | none => exact .still () found held
  | some =>
    exact run_require_bind_cases (fun _ => .refused _) fun owned =>
      .edited () found ⟨held, owned.1⟩

theorem detachControllerLease_edits : Edits m id (fun info next => next = info.controllerEpoch + 1 ∧
        ∃ lease, info.controller = some lease ∧ lease.principalId = principal)
      (fun _ => False)
      (fun next info => { info with
        observers := addObserver info.observers principal
        controller := none
        state := .detached
        controllerEpoch := next })
      ((detachControllerLease id principal leaseId epoch now).run m) := by
  refine authorizeControllerLease_bind_cases .refused fun _ there allowed => ?_
  refine info_bind_cases (fun e _ => .refused e) fun info found => ?_
  cases there.symm.trans found
  refine nextEpoch_bind_cases (fun _ => .refused _) fun _ => ?_
  have released : Edits m id _ _ _ _ := releaseController_edits principal now
  refine run_bind_cases (fun e t ran => ?_) fun _ t ran => ?_ <;> rw [ran] at released
  · cases released
    exact .refused e
  · cases released with
    | still _ same rests =>
      cases found.symm.trans same
      rw [SessionInfo.activeController, rests] at allowed
      cases allowed
    | edited _ same admitted =>
      cases found.symm.trans same
      show Edits m id _ _ _ (.ok (), (m.updateInfo id _).updateInfo id _)
      rw [updateInfo_updateInfo]
      exact .edited () found ⟨rfl, _, admitted⟩

theorem claimController_takes (fresh : String) : TakesUp m id principal
      (fun info => info.state ≠ .closed ∧ info.activeController now = none)
      (removeObserver · principal) (fun _ => .running)
      ((claimController id principal now fresh).run m) := by
  refine info_bind_cases (fun e missing => .refused e fun info found => ?_) fun info found => ?_
  · cases missing.symm.trans found
  refine run_require_bind_cases (fun closed => .refusedAt found (fun open_ => closed open_.1) _)
    fun alive => ?_
  cases free : info.activeController now with
  | some => exact .refusedAt found (fun open_ => by cases free.symm.trans open_.2) _
  | none =>
    refine nextEpoch_bind_cases (fun full => .exhausted found ⟨alive, free⟩ full) fun room => ?_
    show TakesUp m id _ _ _ _ (.ok _, (m.updateInfo id _).updateInfo id _)
    rw [updateInfo_updateInfo]
    exact .seated found ⟨alive, free⟩ room rfl rfl

theorem giveController_takes (giver receiver fresh : String) : TakesUp m id receiver
      (fun info => ∃ lease, info.controller = some lease ∧ lease.principalId = giver ∧
        lease.isActive now = true)
      (fun observers => removeObserver (addObserver observers giver) receiver) (fun state => state)
      ((giveController id giver receiver now fresh).run m) := by
  refine info_bind_cases (fun e missing => .refused e fun info found => ?_) fun info found => ?_
  · cases missing.symm.trans found
  cases held : info.controller with
  | none =>
    refine .refusedAt found ?_ _
    rintro ⟨lease, same, -⟩
    cases held.symm.trans same
  | some lease =>
    refine run_require_bind_cases (fun other => .refusedAt found ?_ _) fun owned => ?_
    · rintro ⟨lease, same, owned, -⟩
      cases held.symm.trans same
      exact other owned
    refine run_require_bind_cases (fun expired => .refusedAt found ?_ _) fun active => ?_
    · rintro ⟨lease, same, -, active⟩
      cases held.symm.trans same
      exact expired active
    refine nextEpoch_bind_cases
      (fun full => .exhausted found ⟨lease, held, owned, active⟩ full) fun room => ?_
    show TakesUp m id _ _ _ _ (.ok _, (m.updateInfo id _).updateInfo id _)
    rw [updateInfo_updateInfo]
    exact .seated found ⟨lease, held, owned, active⟩ room rfl rfl

theorem reconcileControllerFromTransition_edits (expiresUnix : Int) (attached : Bool) :
    Edits m id (fun info (_ : Unit) => info.state ≠ .closed) (fun _ => False)
      (fun _ info => info.reconciled principal leaseId epoch expiresUnix attached)
      ((reconcileControllerFromTransition id principal leaseId epoch expiresUnix attached).run
        m) := by
  refine info_bind_cases (fun e _ => .refused e) fun info found => ?_
  refine run_require_bind_cases (fun _ => .refused _) fun alive => ?_
  cases attached with
  | true | false => exact .edited (b := ()) () found alive

theorem setInfo_edits (f : SessionInfo → SessionInfo) :
    Edits m id (fun _ (_ : Unit) => True) (fun _ => False) (fun _ => f) ((setInfo id f).run m) :=
  info_bind_cases (fun e _ => .refused e) fun _ found => .edited (b := ()) () found trivial

end Seat

/-! The operations on the seat move the manager along any relation that the changes of
the one description they are about move it along. -/

section Moves

variable [Std.Refl R]

theorem setInfo_moves (update : Moves R (updateInfo id f)) : Moves R (setInfo id f) :=
  fun _ => (setInfo_edits f).moves fun _ => update

variable (update : ∀ f, KeepsIo f → Moves R (updateInfo id f))
include update

theorem renewControllerLease_moves (principal leaseId : String) (epoch : Nat) (now ttl : Int) :
    Moves R (renewControllerLease id principal leaseId epoch now ttl) :=
  fun _ => (renewControllerLease_edits ..).moves fun _ => update _ keepsIo

theorem releaseController_moves
    (principal : String) (now : Int) : Moves R (releaseController id principal now) :=
  fun _ => (releaseController_edits ..).moves fun _ => update _ keepsIo

theorem detachControllerLease_moves (principal leaseId : String) (epoch : Nat) (now : Int) :
    Moves R (detachControllerLease id principal leaseId epoch now) :=
  fun _ => (detachControllerLease_edits ..).moves fun _ => update _ keepsIo

theorem claimController_moves (principal : String) (now : Int) (fresh : String) :
    Moves R (claimController id principal now fresh) :=
  fun _ => (claimController_takes ..).moves update

theorem giveController_moves (giver receiver : String) (now : Int) (fresh : String) :
    Moves R (giveController id giver receiver now fresh) :=
  fun _ => (giveController_takes ..).moves update

theorem reconcileControllerFromTransition_moves (principal leaseId : String)
    (epoch : Nat) (expiresUnix : Int) (attached : Bool) : Moves R
      (reconcileControllerFromTransition id principal leaseId epoch expiresUnix attached) :=
  fun _ => (reconcileControllerFromTransition_edits ..).moves fun _ => by
    cases attached with
    | true | false => exact update _ keepsIo

end Moves

section

variable {principal leaseId : String} {epoch : Nat} {expiresUnix : Int} {attached : Bool}
  (found : m.get id = .ok info)
include found

theorem reconcileControllerFromTransition_run (alive : info.state ≠ .closed) :
    (reconcileControllerFromTransition id principal leaseId epoch expiresUnix attached).run m =
      (.ok (), m.updateInfo id fun info =>
        info.reconciled principal leaseId epoch expiresUnix attached) := by
  rw [reconcileControllerFromTransition, run_bind_of_ok (info_run found),
    run_bind_of_ok (run_require_of_holds alive _ _)]
  cases attached <;> rfl

theorem reconcileControllerFromTransition_closed (closed : info.state = .closed) :
    (reconcileControllerFromTransition id principal leaseId epoch expiresUnix attached).run m =
      (.error .closed, m) := by
  rw [reconcileControllerFromTransition, run_bind_of_ok (info_run found),
    run_bind_of_error (run_require_of_not (not_not.mpr closed) _ _)]

end

/-! ## Loading -/

/-- What loading a session does to its description. -/
def SessionInfo.reloaded (info : SessionInfo) : SessionInfo :=
  if info.state = .closed then info
  else if info.hostPid.isSome || info.kind = .pty then
    { info with
      hostPid := none
      state := if info.state = .running then .detached else info.state
      nextSeq := followingSeq info.nextSeq }
  else info

theorem markHostDetached_info (session : Session) :
    session.markHostDetached.info = session.info.reloaded := by
  unfold Session.markHostDetached SessionInfo.reloaded
  split
  · rfl
  · split <;> rfl

end OwnMesh.Sessions
