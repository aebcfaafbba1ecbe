import OwnMesh.Sessions.Operations

/-!
# The controller seat over time

Whoever holds the seat of a session proves it with a lease: a principal, a lease
identifier and a generation.  This module follows the seats of all sessions through any
sequence of operations.

`SeatChange` says once what an operation can do to the seat of a session, and everything
else is read off it.  Generations only grow, as long as the recovery primitive
`reconcileControllerFromTransition` is not given one that is older than the session's
own; the manager does not check this, the recovery that calls it does.
-/

namespace OwnMesh.Sessions

open Foundations Program Option SessionManager

/-! ## Seats -/

/-- The lease of a seat, if it is held, and the generation of the session. -/
abbrev Seat : Type := Option ControllerLease × Nat

def SessionInfo.seat (info : SessionInfo) : Seat := (info.controller, info.controllerEpoch)

def SessionManager.seat (m : SessionManager) (id : String) : Option Seat :=
  (m.sessions.lookup id).map fun session => session.info.seat

/-- What the holder of a lease shows to be let in. -/
structure LeaseKey where
  (principal leaseId : String)
  epoch : Nat
deriving DecidableEq

def ControllerLease.key (lease : ControllerLease) : LeaseKey :=
  ⟨lease.principalId, lease.leaseId, lease.epoch⟩

/-- What an operation can do to the seat of one session. -/
inductive SeatChange (id : String) : SeatOp → Option Seat → Option Seat → Prop where
  | kept {op : SeatOp} {seat : Option Seat} : SeatChange id op seat seat
  | opened {request : OpenRequest} {now : Int} {freshSession freshLease : String}
      {seat : Option Seat} {lease : ControllerLease} (here : id = s!"ses_{freshSession}")
      (first : lease.epoch = 1) :
      SeatChange id (.openWith request now freshSession freshLease) seat (some (some lease, 1))
  | claimed {principal : String} {now : Int} {fresh : String} {holder : Option ControllerLease}
      {epoch : Nat} {lease : ControllerLease} (next : lease.epoch = epoch + 1) :
      SeatChange id (.claimController id principal now fresh) (some (holder, epoch))
        (some (some lease, epoch + 1))
  | given {giver receiver : String} {now : Int} {fresh : String}
      {holder : Option ControllerLease} {epoch : Nat} {lease : ControllerLease}
      (next : lease.epoch = epoch + 1) :
      SeatChange id (.giveController id giver receiver now fresh) (some (holder, epoch))
        (some (some lease, epoch + 1))
  | renewed {principal leaseId : String} {epoch : Nat} {now ttl : Int} {lease : ControllerLease}
      {current : Nat} (expiresUnix : Int) :
      SeatChange id (.renewControllerLease id principal leaseId epoch now ttl)
        (some (some lease, current))
        (some (some { lease with expiresUnix := expiresUnix }, current))
  | unseated {op : SeatOp} {holder : Option ControllerLease} {epoch : Nat} :
      SeatChange id op (some (holder, epoch)) (some (none, epoch))
  | detached {principal leaseId : String} {shown : Nat} {now : Int}
      {holder : Option ControllerLease} {epoch : Nat} :
      SeatChange id (.detachControllerLease id principal leaseId shown now) (some (holder, epoch))
        (some (none, epoch + 1))
  | reconciled {principal leaseId : String} {epoch : Nat} {expiresUnix : Int} {attached : Bool}
      {seat : Seat} :
      SeatChange id
        (.reconcileControllerFromTransition id principal leaseId epoch expiresUnix attached)
        (some seat)
        (some (if attached then some ⟨principal, leaseId, epoch, expiresUnix⟩ else none, epoch))

/-! ## What each operation does to a seat -/

section Operations

variable {m m' : SessionManager} {id : String}

theorem seat_of_get {info : SessionInfo} (found : m.get id = .ok info) :
    m.seat id = some info.seat := by
  obtain ⟨session, there, rfl⟩ := get_ok_iff.mp found
  rw [seat, there]
  rfl

theorem seat_updateInfo {info : SessionInfo} (found : m.get id = .ok info)
    (f : SessionInfo → SessionInfo) : (m.updateInfo id f).seat id = some (f info).seat := by
  apply seat_of_get
  rw [get_updateInfo, found]
  rfl

theorem seat_of_elsewhere {other : String} (same : Elsewhere id m m') (different : other ≠ id) :
    m'.seat other = m.seat other := by
  rw [seat, seat, same other different]

/-- An answered operation seats the next generation; a refused one leaves the seat
alone. -/
def Seats (id : String) (m : SessionManager)
    (r : Except SessionError ControllerLease × SessionManager) : Prop :=
  match r.1 with
  | .error _ => r.2.seat id = m.seat id
  | .ok lease => ∃ holder epoch, m.seat id = some (holder, epoch) ∧ lease.epoch = epoch + 1 ∧
      r.2.seat id = some (some lease, epoch + 1)

variable {principal : String} {admits : SessionInfo → Prop}
  {observers : List String → List String} {state : SessionState → SessionState}

variable {r : Except SessionError ControllerLease × SessionManager}

theorem TakesUp.seats (takes : TakesUp m id principal admits observers state r) : Seats id m r := by
  cases takes with
  | refused => exact rfl
  | exhausted found =>
    show (m.updateInfo id _).seat id = m.seat id
    rw [seat_updateInfo found, seat_of_get found]
    rfl
  | seated found _ _ _ next =>
    exact ⟨_, _, seat_of_get found, next, seat_updateInfo found _⟩

/-- An answered operation empties the seat and moves the generation on by `steps`; a
refused one leaves the seat alone. -/
def Unseats (id : String) (steps : Nat) (m : SessionManager)
    (r : Except SessionError Unit × SessionManager) : Prop :=
  match r.1 with
  | .error _ => r.2.seat id = m.seat id
  | .ok _ => ∃ holder epoch, m.seat id = some (holder, epoch) ∧
      r.2.seat id = some (none, epoch + steps)

variable {α β : Type} {accepts : SessionInfo → β → Prop} {idle : SessionInfo → Prop}
  {edit : β → SessionInfo → SessionInfo}

theorem Edits.unseats {r : Except SessionError Unit × SessionManager} {steps : Nat}
    (edits : Edits m id accepts idle edit r)
    (free : ∀ info, idle info → info.seat = (none, info.controllerEpoch + steps))
    (edited : ∀ info b, accepts info b →
      (edit b info).seat = (none, info.controllerEpoch + steps)) : Unseats id steps m r := by
  cases edits with
  | refused => exact rfl
  | still _ found rests =>
    exact ⟨_, _, seat_of_get found, (seat_of_get found).trans (by rw [free _ rests])⟩
  | edited _ found admitted =>
    exact ⟨_, _, seat_of_get found, (seat_updateInfo found _).trans (by rw [edited _ _ admitted])⟩

theorem expireStaleLeases_seat (m : SessionManager) (now : Int) (id : String) :
    (m.expireStaleLeases now).seat id =
      (m.sessions.lookup id).map fun session => (session.info.expireStaleLease now).seat := by
  simp only [seat, expireStaleLeases, Table.lookup_mapValues, map_map]
  rfl

theorem expireStaleLease_seat (info : SessionInfo) (now : Int) : (info.expireStaleLease now).seat =
      (info.controller.filter fun lease => lease.isActive now, info.controllerEpoch) := by
  unfold SessionInfo.expireStaleLease
  cases held : info.controller with
  | none => simp [SessionInfo.seat, held]
  | some lease =>
    by_cases active : lease.isActive now = true
    · simp [SessionInfo.seat, held, active, filter_some]
    · simp [SessionInfo.seat, active, filter_some]

theorem openWith_change (request : OpenRequest) (now : Int) (freshSession freshLease : String)
    (m : SessionManager) (id : String) :
    SeatChange id (.openWith request now freshSession freshLease) (m.seat id)
      (((openWith request now freshSession freshLease).run m).2.seat id) := by
  let Changes : Except SessionError SessionInfo × SessionManager → Prop := fun r =>
    SeatChange id (.openWith request now freshSession freshLease) (m.seat id) (r.2.seat id)
  refine run_require_bind_cases (P := Changes) (fun _ => .kept) fun _ => ?_
  let opened : Session :=
    { info := request.info s!"ses_{freshSession}"
        { principalId := request.creator
          leaseId := s!"lease_{freshLease}"
          epoch := 1
          expiresUnix := now + m.defaultLeaseTtlSecs }
      replay := []
      replayLimit := m.defaultReplayLimit
      replayBytes := 0 }
  show SeatChange id (.openWith request now freshSession freshLease) (m.seat id)
    ((AList.lookup id (m.sessions.insert s!"ses_{freshSession}" opened)).map
      fun session => session.info.seat)
  by_cases here : id = s!"ses_{freshSession}"
  · subst here
    rw [AList.lookup_insert]
    exact .opened rfl rfl
  · rw [AList.lookup_insert_ne here]
    exact .kept

theorem SeatChange.of_eq {op : SeatOp} {seat seat' : Option Seat} (same : seat' = seat) :
    SeatChange id op seat seat' := same ▸ .kept

/-- An operation on another session leaves the seat alone. -/
theorem TakesUp.change {op : SeatOp} {target : String}
    (takes : TakesUp m target principal admits observers state r)
    (seated : ∀ {holder epoch} {lease : ControllerLease}, id = target → lease.epoch = epoch + 1 →
      SeatChange id op (some (holder, epoch)) (some (some lease, epoch + 1))) :
    SeatChange id op (m.seat id) (r.2.seat id) := by
  by_cases here : id = target
  · subst here
    have seats := takes.seats
    obtain ⟨e | lease, t⟩ := r
    · exact .of_eq seats
    · obtain ⟨holder, epoch, before, next, after⟩ := seats
      rw [before, after]
      exact seated rfl next
  · have elsewhere : Elsewhere target m r.2 := takes.moves fun f _ => updateInfo_moves target f
    exact .of_eq (seat_of_elsewhere elsewhere here)

theorem Edits.change {op : SeatOp} {target : String} {r : Except SessionError α × SessionManager}
    (edits : Edits m target accepts idle edit r) (edited : ∀ info b, id = target → accepts info b →
      SeatChange id op (some info.seat) (some (edit b info).seat)) :
    SeatChange id op (m.seat id) (r.2.seat id) := by
  cases edits with
  | refused | still => exact .kept
  | edited _ found admitted =>
    by_cases here : id = target
    · subst here
      rw [seat_updateInfo found, seat_of_get found]
      exact edited _ _ rfl admitted
    · exact .of_eq (seat_of_elsewhere (elsewhere_updateInfo m target _) here)

theorem expireStaleLeases_change (now : Int) (m : SessionManager) (id : String) :
    SeatChange id (.expireStaleLeases now) (m.seat id) ((m.expireStaleLeases now).seat id) := by
  rw [expireStaleLeases_seat, seat]
  cases m.sessions.lookup id with
  | none => exact .kept
  | some session =>
    rw [map_some, map_some, expireStaleLease_seat, SessionInfo.seat]
    cases session.info.controller with
    | none => exact .kept
    | some =>
      rw [filter_some]
      split
      · exact .kept
      · exact .unseated

/-- **What an operation does to the seat of a session.** -/
theorem seatOp_change (op : SeatOp) (m : SessionManager) (id : String) :
    SeatChange id op (m.seat id) ((op.program.run m).2.seat id) := by
  cases op with
  | openWith request now freshSession freshLease =>
    rw [SeatOp.program, discard_run]
    exact openWith_change request now freshSession freshLease m id
  | attachObserver target principal now =>
    exact (attachObserver_edits principal now).change fun _ _ _ _ => .kept
  | claimController target principal now fresh =>
    rw [SeatOp.program, discard_run]
    refine (claimController_takes principal now fresh).change ?_
    rintro _ _ _ rfl next
    exact .claimed next
  | giveController target giver receiver now fresh =>
    rw [SeatOp.program, discard_run]
    refine (giveController_takes now giver receiver fresh).change ?_
    rintro _ _ _ rfl next
    exact .given next
  | releaseController target principal now =>
    exact (releaseController_edits principal now).change fun _ _ _ _ => .unseated
  | detachControllerLease target principal leaseId shown now =>
    refine (detachControllerLease_edits principal leaseId shown now).change ?_
    rintro info _ rfl ⟨rfl, -⟩
    exact .detached
  | renewControllerLease target principal leaseId shown now ttl =>
    rw [SeatOp.program, discard_run]
    refine (renewControllerLease_edits principal leaseId shown now ttl).change ?_
    rintro info lease rfl held
    rw [SessionInfo.seat, held]
    exact .renewed (now + ttl)
  | expireStaleLeases now => exact expireStaleLeases_change now m id
  | reconcileControllerFromTransition target principal leaseId epoch expiresUnix attached =>
    refine (reconcileControllerFromTransition_edits principal leaseId epoch expiresUnix
      attached).change ?_
    rintro info _ rfl -
    cases attached with
    | true | false => exact .reconciled
  | close target => exact (setInfo_edits _).change fun _ _ _ _ => .unseated

end Operations

/-! ## Generations -/

/-- The holder of a seat has the session's own generation. -/
def Current (seat : Option Seat) : Prop :=
  ∀ lease epoch, seat = some (some lease, epoch) → lease.epoch = epoch

/-- The session is still there, in the same generation or a later one. -/
def Grows (seat seat' : Option Seat) : Prop :=
  ∀ holder epoch, seat = some (holder, epoch) →
    ∃ holder' epoch', seat' = some (holder', epoch') ∧ epoch ≤ epoch'

theorem Grows.refl (seat : Option Seat) : Grows seat seat :=
  fun holder epoch there => ⟨holder, epoch, there, le_refl epoch⟩

theorem Grows.trans {a b c : Option Seat} (first : Grows a b) (second : Grows b c) : Grows a c := by
  intro holder epoch there
  obtain ⟨holder', epoch', there', le⟩ := first holder epoch there
  obtain ⟨holder'', epoch'', there'', le'⟩ := second holder' epoch' there'
  exact ⟨holder'', epoch'', there'', le_trans le le'⟩

/-- What the callers of the manager promise: a drawn session identifier is new, and
recovery does not take a session back to an older generation. -/
def SeatOp.Fenced (m : SessionManager) : SeatOp → Prop
  | .openWith _ _ freshSession _ => m.seat s!"ses_{freshSession}" = none
  | .reconcileControllerFromTransition id _ _ epoch _ _ =>
    ∀ holder current, m.seat id = some (holder, current) → current ≤ epoch
  | _ => True

/-- One operation, answered or refused, of callers that keep the promise. -/
def FencedStep (m : SessionManager) (op : SeatOp) (m' : SessionManager) : Prop :=
  op.Fenced m ∧ (op.program.run m).2 = m'

theorem FencedStep.functional (m : SessionManager) (op : SeatOp) (a b : SessionManager)
    (left : FencedStep m op a) (right : FencedStep m op b) : a = b :=
  left.2.symm.trans right.2

section Generations

variable {id : String} {m m' : SessionManager} {op : SeatOp}

theorem SeatChange.current {seat seat' : Option Seat} (change : SeatChange id op seat seat')
    (current : Current seat) : Current seat' := by
  intro lease epoch there
  cases change with
  | kept => exact current lease epoch there
  | opened _ next | claimed next | given next =>
    cases there
    exact next
  | renewed =>
    cases there
    have before := current _ _ rfl
    exact before
  | unseated | detached => cases there
  | @reconciled principal leaseId recorded expiresUnix attached =>
    cases attached with
    | true =>
      cases there
      rfl
    | false => cases there

theorem FencedStep.current (step : FencedStep m op m') (current : Current (m.seat id)) :
    Current (m'.seat id) := by
  obtain ⟨-, rfl⟩ := step
  exact (seatOp_change op m id).current current

theorem FencedStep.grows (step : FencedStep m op m') : Grows (m.seat id) (m'.seat id) := by
  obtain ⟨fenced, rfl⟩ := step
  have change := seatOp_change op m id
  intro holder epoch there
  rw [there] at change
  generalize after : (op.program.run m).2.seat id = seat' at change
  cases change with
  | kept | renewed | unseated => exact ⟨_, epoch, rfl, le_refl epoch⟩
  | opened here =>
    -- the identifier was new, so there was no session
    subst here
    have absent : m.seat _ = none := fenced
    rw [absent] at there
    cases there
  | claimed | given | detached => exact ⟨_, epoch + 1, rfl, Nat.le_succ epoch⟩
  | @reconciled principal leaseId recorded =>
    exact ⟨_, recorded, rfl, fenced holder epoch there⟩

variable {ops : List SeatOp}

theorem run_grows (run : Run FencedStep m ops m') : Grows (m.seat id) (m'.seat id) := by
  induction run with
  | done m => exact Grows.refl (m.seat id)
  | next head _ ih => exact head.grows.trans ih

end Generations

/-! ## Leases that are let in -/

/-- The manager lets the holder of the key in. -/
def Accepts (m : SessionManager) (id : String) (key : LeaseKey) (now : Int) : Prop :=
  (authorizeControllerLease id key.principal key.leaseId key.epoch now).run m = (.ok (), m)

variable {m : SessionManager} {id : String}

theorem Accepts.seated {key : LeaseKey} {now : Int} (accepts : Accepts m id key now) :
    ∃ lease epoch, m.seat id = some (some lease, epoch) ∧ lease.key = key := by
  obtain ⟨info, t, looked, checked⟩ := bind_ok_iff.mp accepts
  obtain ⟨found, rfl⟩ := info_ok_iff.mp looked
  obtain ⟨matching, -⟩ := require_ok_iff.mp checked
  cases held : info.controller with
  | none =>
    rw [SessionInfo.activeController, held] at matching
    cases matching
  | some lease =>
    rw [SessionInfo.activeController, held, filter_some] at matching
    split at matching
    · simp only [any_some, Bool.and_eq_true, decide_eq_true_eq] at matching
      obtain ⟨⟨principal, leaseId⟩, epoch⟩ := matching
      refine ⟨lease, info.controllerEpoch, ?_, ?_⟩
      · rw [seat_of_get found, SessionInfo.seat, held]
      · rw [ControllerLease.key, principal, leaseId, epoch]
    · cases matching

/-- A claim or a gift of the seat that is answered with a lease. -/
def Grants (m : SessionManager) (id : String) (lease : ControllerLease) : Prop :=
  (∃ principal now fresh m', (claimController id principal now fresh).run m = (.ok lease, m')) ∨
    ∃ giver receiver now fresh m',
      (giveController id giver receiver now fresh).run m = (.ok lease, m')

theorem Grants.next {lease : ControllerLease} (grants : Grants m id lease) :
    ∃ holder epoch, m.seat id = some (holder, epoch) ∧ lease.epoch = epoch + 1 := by
  rcases grants with ⟨principal, now, fresh, m', ran⟩ | ⟨giver, receiver, now, fresh, m', ran⟩
  · have seats : Seats id m _ := (claimController_takes principal now fresh).seats
    rw [ran] at seats
    obtain ⟨holder, epoch, before, next, -⟩ := seats
    exact ⟨holder, epoch, before, next⟩
  · have seats : Seats id m _ := (giveController_takes now giver receiver fresh).seats
    rw [ran] at seats
    obtain ⟨holder, epoch, before, next, -⟩ := seats
    exact ⟨holder, epoch, before, next⟩

/-- The operation takes the seat of the session away from whoever held it. -/
def SeatOp.Ends (m : SessionManager) (id : String) : SeatOp → Prop
  | .claimController target principal now fresh =>
    target = id ∧
      ∃ lease m', (Sessions.claimController id principal now fresh).run m = (.ok lease, m')
  | .giveController target giver receiver now fresh =>
    target = id ∧
      ∃ lease m', (Sessions.giveController id giver receiver now fresh).run m = (.ok lease, m')
  | .detachControllerLease target principal leaseId epoch now =>
    target = id ∧
      ∃ m', (Sessions.detachControllerLease id principal leaseId epoch now).run m = (.ok (), m')
  | .releaseController target principal now =>
    target = id ∧ ∃ m', (Sessions.releaseController id principal now).run m = (.ok (), m')
  | .expireStaleLeases now =>
    ∃ lease epoch, m.seat id = some (some lease, epoch) ∧ lease.isActive now = false
  | _ => False

/-- Release and expiry leave the session in its generation. -/
def SeatOp.Demotes : SeatOp → Prop
  | .releaseController _ _ _ | .expireStaleLeases _ => True
  | _ => False

theorem Seats.ends {id : String} {m m' : SessionManager} {op : SeatOp} {lease : ControllerLease}
    {r : Except SessionError ControllerLease × SessionManager} (seats : Seats id m r)
    (ran : r = (.ok lease, m')) :
    ∃ holder epoch holder' epoch', m.seat id = some (holder, epoch) ∧
      m'.seat id = some (holder', epoch') ∧ (epoch < epoch' ∨ op.Demotes ∧ holder' = none) := by
  rw [ran] at seats
  obtain ⟨holder, epoch, before, -, after⟩ := seats
  exact ⟨holder, epoch, some lease, epoch + 1, before, after, .inl (Nat.lt_succ_self epoch)⟩

/-- An operation that takes the seat away starts a new generation, or is a release or an
expiry that leaves the seat empty. -/
theorem SeatOp.Ends.effect {op : SeatOp} (ends : op.Ends m id) :
    ∃ holder epoch holder' epoch', m.seat id = some (holder, epoch) ∧
      (op.program.run m).2.seat id = some (holder', epoch') ∧
      (epoch < epoch' ∨ op.Demotes ∧ holder' = none) := by
  cases op with
  | claimController target principal now fresh =>
    obtain ⟨rfl, lease, m', ran⟩ := ends
    rw [SeatOp.program, discard_run, ran]
    exact (claimController_takes principal now fresh).seats.ends ran
  | giveController target giver receiver now fresh =>
    obtain ⟨rfl, lease, m', ran⟩ := ends
    rw [SeatOp.program, discard_run, ran]
    exact (giveController_takes now giver receiver fresh).seats.ends ran
  | detachControllerLease target principal leaseId shown now =>
    obtain ⟨rfl, m', ran⟩ := ends
    have unseats : Unseats target 1 m _ :=
      (detachControllerLease_edits principal leaseId shown now).unseats (fun _ => False.elim)
        fun info _ admitted => by rw [SessionInfo.seat, admitted.1]
    rw [SeatOp.program]
    rw [ran] at unseats ⊢
    obtain ⟨holder, epoch, before, after⟩ := unseats
    exact ⟨holder, epoch, none, epoch + 1, before, after, .inl (Nat.lt_succ_self epoch)⟩
  | releaseController target principal now =>
    obtain ⟨rfl, m', ran⟩ := ends
    have unseats : Unseats target 0 m _ := (releaseController_edits principal now).unseats
      (fun info free => by rw [SessionInfo.seat, free, Nat.add_zero]) fun _ _ _ => rfl
    rw [SeatOp.program]
    rw [ran] at unseats ⊢
    obtain ⟨holder, epoch, before, after⟩ := unseats
    exact ⟨holder, epoch, none, epoch, before, after, .inr ⟨trivial, rfl⟩⟩
  | expireStaleLeases now =>
    obtain ⟨lease, epoch, before, expired⟩ := ends
    refine ⟨some lease, epoch, none, epoch, before, ?_, .inr ⟨trivial, rfl⟩⟩
    show (m.expireStaleLeases now).seat id = _
    rw [expireStaleLeases_seat]
    obtain ⟨session, there, seat⟩ := map_eq_some_iff.mp before
    simp only [SessionInfo.seat, Prod.mk.injEq] at seat
    rw [there, map_some, expireStaleLease_seat, seat.1, seat.2, filter_some, expired]
    rfl
  | openWith | attachObserver | renewControllerLease | reconcileControllerFromTransition =>
    exact ends.elim
  | close => exact ends.elim

/-- The key was that of the seat at some moment of the run. -/
def SeatedDuring (start : SessionManager) (ops : List SeatOp) (id : String) (key : LeaseKey) :
    Prop :=
  ∃ mid lease epoch, Run.Visits FencedStep start ops mid ∧
    mid.seat id = some (some lease, epoch) ∧ lease.key = key

/-- Recovery installs the key again. -/
def Reinstates (id : String) (key : LeaseKey) (op : SeatOp) : Prop :=
  ∃ expiresUnix, op = .reconcileControllerFromTransition id key.principal key.leaseId key.epoch
    expiresUnix true

/-- No lease in the seat has the key, and its generation is not in the future. -/
structure Barred (id : String) (key : LeaseKey) (m : SessionManager) : Prop where
  absent : ∀ lease epoch, m.seat id = some (some lease, epoch) → lease.key ≠ key
  past : ∃ holder epoch, m.seat id = some (holder, epoch) ∧ key.epoch ≤ epoch

/-- A key that is out stays out, unless recovery installs it again. -/
theorem Barred.step {key : LeaseKey} {m' : SessionManager} {op : SeatOp}
    (barred : Barred id key m) (step : FencedStep m op m') :
    Barred id key m' ∨ Reinstates id key op := by
  obtain ⟨holder, epoch, there, past⟩ := barred.past
  obtain ⟨holder', epoch', there', later⟩ := step.grows holder epoch there
  have stillPast : ∃ holder epoch, m'.seat id = some (holder, epoch) ∧ key.epoch ≤ epoch :=
    ⟨holder', epoch', there', le_trans past later⟩
  obtain ⟨fenced, rfl⟩ := step
  have change := seatOp_change op m id
  rw [there] at change
  generalize after : (op.program.run m).2.seat id = seat' at change
  -- a lease of a later generation has another key
  have fresher : ∀ {lease : ControllerLease}, lease.epoch = epoch + 1 → lease.key ≠ key := by
    intro lease next same
    have epochs : lease.epoch = key.epoch := congrArg LeaseKey.epoch same
    omega
  have out (absent : ∀ lease e, seat' = some (some lease, e) → lease.key ≠ key) :
      Barred id key (op.program.run m).2 ∨ Reinstates id key op :=
    .inl ⟨fun lease e seated => absent lease e (after.symm.trans seated), stillPast⟩
  cases change with
  | kept => exact out fun lease e seated => barred.absent lease e (there.trans seated)
  | opened here =>
    subst here
    have absent : m.seat _ = none := fenced
    rw [absent] at there
    cases there
  | claimed next | given next =>
    refine out fun lease e seated => ?_
    cases seated
    exact fresher next
  | renewed =>
    refine out fun lease e seated => ?_
    cases seated
    have other := barred.absent _ _ there
    exact other
  | unseated | detached => exact out nofun
  | @reconciled principal leaseId recorded expiresUnix attached =>
    cases attached with
    | false => exact out nofun
    | true =>
      by_cases same : key = ⟨principal, leaseId, recorded⟩
      · subst same
        exact .inr ⟨expiresUnix, rfl⟩
      · refine out fun lease e seated => ?_
        cases seated
        exact Ne.symm same

/-- **The controller seat is fenced.**  A manager starts without sessions and is operated
in any way, by callers whose recovery does not go back to an older generation.  Then the
generation of a session never decreases; a lease that a claim or a gift seats is of a
later generation than every lease of the session before it; at most one key is let in;
and a key that was seated before a claim, a gift, a detach, a release or an expiry is
not let in afterwards, except that recovery may install it again after a release or an
expiry. -/
theorem controller_fencing {start last : SessionManager} {ops : List SeatOp}
    (empty : start.sessions = ∅) (run : Run FencedStep start ops last) :
    (∀ mid id, Run.Visits FencedStep start ops mid → Grows (mid.seat id) (last.seat id)) ∧
      (∀ id key lease, SeatedDuring start ops id key → Grants last id lease →
        key.epoch < lease.epoch) ∧
      (∀ id key key' now now', Accepts last id key now → Accepts last id key' now' → key = key') ∧
      ∀ before op after mid id key now, ops = before ++ op :: after →
        Run FencedStep start before mid → op.Ends mid id → SeatedDuring start before id key →
        Accepts last id key now → op.Demotes ∧ ∃ again ∈ after, Reinstates id key again := by
  have current : ∀ {before mid}, Run FencedStep start before mid → ∀ id, Current (mid.seat id) := by
    intro before mid reached id
    refine Run.invariant (I := fun m => Current (m.seat id))
      (fun current step => step.current current) ?_ reached
    intro lease epoch there
    rw [seat, empty] at there
    cases there
  -- the generation of a key that was seated is one the session has had
  have reachedEpoch : ∀ {ops mid id key}, Run FencedStep start ops mid →
      SeatedDuring start ops id key →
      ∃ holder epoch, mid.seat id = some (holder, epoch) ∧ key.epoch ≤ epoch := by
    rintro ops mid id key reached ⟨earlier, lease, epoch, ⟨before, after, rfl, visited⟩, there, rfl⟩
    obtain ⟨a, again, rest⟩ := reached.split
    obtain rfl := Run.deterministic FencedStep.functional visited again
    obtain ⟨holder, epoch', there', later⟩ := run_grows rest _ _ there
    exact ⟨holder, epoch', there', le_trans (le_of_eq (current visited id lease epoch there)) later⟩
  refine ⟨?_, ?_, ?_, ?_⟩
  · rintro mid id ⟨before, after, rfl, visited⟩
    obtain ⟨a, again, rest⟩ := run.split
    obtain rfl := Run.deterministic FencedStep.functional visited again
    exact run_grows rest
  · intro id key lease seated grants
    obtain ⟨holder, epoch, there, past⟩ := reachedEpoch run seated
    obtain ⟨holder', epoch', there', next⟩ := grants.next
    rw [there] at there'
    cases there'
    omega
  · intro id key key' now now' accepts accepts'
    obtain ⟨lease, epoch, there, rfl⟩ := accepts.seated
    obtain ⟨lease', epoch', there', rfl⟩ := accepts'.seated
    rw [there] at there'
    cases there'
    rfl
  · rintro before op after mid id key now rfl reached ends seated accepts
    obtain ⟨a, next, again, step, rest⟩ := run.split_at
    obtain rfl := Run.deterministic FencedStep.functional reached again
    obtain ⟨holder, epoch, there, past⟩ := reachedEpoch reached seated
    obtain ⟨h, e, h', e', there', ended, effect⟩ := ends.effect
    rw [there] at there'
    cases there'
    rw [step.2] at ended
    obtain ⟨lease, lastEpoch, seat, rfl⟩ := accepts.seated
    rcases effect with later | ⟨demotes, rfl⟩
    · -- a new generation has begun, and the lease let in is of the last one
      obtain ⟨_, _, there', later'⟩ := run_grows rest _ _ ended
      rw [seat] at there'
      cases there'
      have sameEpoch : lease.epoch = lastEpoch := current run id lease lastEpoch seat
      have pastEpoch : lease.epoch ≤ epoch := past
      omega
    · refine ⟨demotes, ?_⟩
      have out : Barred id lease.key next := by
        refine ⟨fun other e seated => ?_, ⟨none, e', ended, ?_⟩⟩
        · rw [ended] at seated
          cases seated
        · obtain ⟨_, _, there', later⟩ := step.grows _ _ there
          rw [ended] at there'
          cases there'
          exact le_trans past later
      rcases Run.lasts_or_breaks
          (fun barred step => barred.step step) out rest with
        barred | ⟨p, again, q, _, _, split, -, -, reinstates, -⟩
      · exact absurd rfl (barred.absent lease lastEpoch seat)
      · refine ⟨again, ?_, reinstates⟩
        rw [split]
        simp

def agentRequest : OpenRequest where
  kind := .pty
  title := "agent"
  creator := "erin"
  command := none
  cwd := none
  size := none
  workspaceId := none

/-- The session of an agent that hands the seat to a human. -/
def handedOver : SessionManager :=
  ((discard (giveController "ses_a" "erin" "frank" 200 "c")).run
    ((discard (openWith agentRequest 100 "a" "b")).run .new).2).2

theorem controller_fencing_handedOver :
    handedOver.seat "ses_a" = some (some ⟨"frank", "lease_c", 2, 3800⟩, 2) ∧
      ¬ Accepts handedOver "ses_a" ⟨"erin", "lease_b", 1⟩ 300 := by
  refine ⟨rfl, ?_⟩
  intro accepts
  let gift : SeatOp := .giveController "ses_a" "erin" "frank" 200 "c"
  let opened := ((discard (openWith agentRequest 100 "a" "b")).run .new).2
  have first : FencedStep .new (.openWith agentRequest 100 "a" "b") opened := ⟨rfl, rfl⟩
  have second : FencedStep opened gift handedOver := ⟨trivial, rfl⟩
  have seated : SeatedDuring .new [.openWith agentRequest 100 "a" "b"] "ses_a"
      ⟨"erin", "lease_b", 1⟩ :=
    ⟨opened, _, _, ⟨_, [], rfl, .next first (.done _)⟩, rfl, rfl⟩
  obtain ⟨-, -, -, fence⟩ := controller_fencing rfl (.next first (.next second (.done _)))
  obtain ⟨demotes, -⟩ := fence [.openWith agentRequest 100 "a" "b"] gift [] opened "ses_a"
    ⟨"erin", "lease_b", 1⟩ 300 rfl (.next first (.done _)) ⟨rfl, _, _, rfl⟩ seated accepts
  exact demotes

/-- The same session after its first seat was installed again. -/
def takenBack : SessionManager :=
  ((reconcileControllerFromTransition "ses_a" "erin" "lease_b" 1 3700 true).run handedOver).2

/-- The manager itself takes a session back to an older generation when it is told to,
and then lets the key of that generation in. -/
theorem reconcile_goes_back :
    handedOver.seat "ses_a" = some (some ⟨"frank", "lease_c", 2, 3800⟩, 2) ∧
      takenBack.seat "ses_a" = some (some ⟨"erin", "lease_b", 1, 3700⟩, 1) ∧
      Accepts takenBack "ses_a" ⟨"erin", "lease_b", 1⟩ 300 :=
  ⟨rfl, rfl, rfl⟩

end OwnMesh.Sessions
