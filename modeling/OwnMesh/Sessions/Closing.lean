import OwnMesh.Sessions.Standing

/-!
# A closed session

No operation of the manager opens a closed session again or seats anybody in it, apart
from setting its state outright and from opening another session under its identifier:
`SessionOp.closedIn_iff`.  The four operations by which the seat changes hands are refused
on a closed session, so the copy of the manager on which one of them was accepted has the
same closed sessions as the manager it was made from.
-/

namespace OwnMesh.Sessions

open Foundations Program

/-- The session is closed and its seat is empty, as long as it is there. -/
def ClosedIn (id : String) (m : SessionManager) : Prop :=
  ∀ info, m.get id = .ok info → info.state = .closed ∧ info.controller = none

/-- The operation neither sets the state of the session to another one nor opens a
session under its identifier. -/
def SessionOp.KeepsClosed (id : String) (m : SessionManager) : SessionOp → Prop
  | .setState target state => target = id → ∀ info, m.get id = .ok info → state = .closed
  | .seat (.openWith request now freshSession freshLease) =>
    ∀ info m', (Sessions.openWith request now freshSession freshLease).run m = (.ok info, m') →
      info.id ≠ id
  | _ => True

/-! ## Operations on a closed session -/

section Operations

variable {m m' : SessionManager} {id : String}

theorem closedIn_iff : ClosedIn id m ↔
    ∀ s, m.standing id = some s → s.state = .closed ∧ s.controller = none := by
  constructor
  · intro closed s found
    obtain ⟨info, there, rfl⟩ := get_of_standing found
    exact closed info there
  · intro closed info there
    exact closed info.standing (standing_of_get there)

section

variable (closed : ClosedIn id m)
include closed

theorem ClosedIn.shift (shift : Shift (m.standing id) (m'.standing id)) : ClosedIn id m' := by
  have before := closedIn_iff.mp closed
  generalize m.standing id = old at shift before
  rw [closedIn_iff]
  intro s found
  rw [found] at shift
  cases shift with
  | same => exact before s rfl
  | observed alive => exact absurd (before _ rfl).1 alive
  | unseated held | renewed held =>
    rw [(before _ rfl).2] at held
    cases held
  | closed => exact ⟨rfl, rfl⟩
  | marked running =>
    rw [(before _ rfl).1] at running
    cases running

/-- An operation on the seat of one session keeps another closed if it keeps its own. -/
theorem ClosedIn.elsewhere {target : String}
    (elsewhere : Elsewhere target m m') (here : id = target → m' = m) : ClosedIn id m' := by
  by_cases same : id = target
  · rw [here same]
    exact closed
  · rw [closedIn_iff, (standing_of_elsewhere elsewhere same)]
    exact closedIn_iff.mp closed

theorem reconcile_still (principal leaseId : String) (epoch : Nat)
    (expiresUnix : Int) (attached : Bool) :
    ((reconcileControllerFromTransition id principal leaseId epoch expiresUnix
      attached).run m).2 = m := by
  cases found : m.get id with
  | error =>
    exact info_bind_of_missing (fun info there => by cases found.symm.trans there) _
  | ok info => rw [reconcileControllerFromTransition_closed found (closed info found).1]

theorem setState_closedIn_iff (target : String) (state : SessionState) :
    ClosedIn id ((setState target state).run m).2 ↔
      (SessionOp.setState target state).KeepsClosed id m := by
  by_cases here : target = id
  · subst here
    cases found : m.get target with
    | error =>
      have still : ((setState target state).run m).2 = m :=
        info_bind_of_missing (fun info there => by cases found.symm.trans there) _
      rw [still]
      refine iff_of_true closed fun _ info there => ?_
      cases found.symm.trans there
    | ok info =>
      rw [closedIn_iff, setState_standing found]
      constructor
      · exact fun after _ _ _ => (after _ rfl).1
      · rintro kept _ ⟨⟩
        exact ⟨kept rfl info found, (closed info found).2⟩
  · refine iff_of_true ?_ fun same => absurd same here
    exact closed.elsewhere (setInfo_moves (updateInfo_moves target _) m)
      fun same => absurd same.symm here

theorem openWith_closedIn_iff (request : OpenRequest) (now : Int)
    (freshSession freshLease : String) :
    ClosedIn id ((openWith request now freshSession freshLease).run m).2 ↔
      (SessionOp.seat (.openWith request now freshSession freshLease)).KeepsClosed id m := by
  rcases openWith_standing request now freshSession freshLease m with
    ⟨e, refused⟩ | ⟨info, lease, m', opened, -, seated, elsewhere⟩
  · rw [refused]
    refine iff_of_true closed fun info m' opened => ?_
    cases refused.symm.trans opened
  · rw [opened]
    constructor
    · rintro after info' m'' opened' rfl
      cases opened.symm.trans opened'
      cases (closedIn_iff.mp after _ seated).1
    · intro other
      exact closed.elsewhere elsewhere fun same => absurd same.symm (other info m' opened)

/-- An operation keeps a closed session closed exactly when it does neither. -/
theorem SessionOp.closedIn_iff (op : SessionOp) :
    ClosedIn id (op.program.run m).2 ↔ op.KeepsClosed id m := by
  have update : ∀ other f, KeepsIo f → Moves (Elsewhere other) (updateInfo other f) :=
    fun other f _ => updateInfo_moves other f
  by_cases plain : op.Plain
  · refine iff_of_true (closed.shift (op.shift plain m id)) ?_
    cases op with
    | seat op => cases op <;> trivial
    | _ => trivial
  · cases op with
    | setState target state => exact setState_closedIn_iff closed target state
    | seat op =>
      cases op with
      | openWith request now freshSession freshLease =>
        rw [SessionOp.program, SeatOp.program, discard_run]
        exact openWith_closedIn_iff closed request now freshSession freshLease
      | claimController target principal now fresh =>
        refine iff_of_true ?_ trivial
        rw [SessionOp.program, SeatOp.program, discard_run]
        refine closed.elsewhere (claimController_moves (update target) _ _ _ m) ?_
        rintro rfl
        exact (claimController_takes ..).still fun info found admitted =>
          admitted.1 (closed info found).1
      | giveController target giver receiver now fresh =>
        refine iff_of_true ?_ trivial
        rw [SessionOp.program, SeatOp.program, discard_run]
        refine closed.elsewhere (giveController_moves (update target) _ _ _ _ m) ?_
        rintro rfl
        refine (giveController_takes ..).still ?_
        rintro info found ⟨lease, held, -⟩
        rw [(closed info found).2] at held
        cases held
      | reconcileControllerFromTransition target principal leaseId epoch expiresUnix attached =>
        refine iff_of_true ?_ trivial
        refine closed.elsewhere
          (reconcileControllerFromTransition_moves (update target) _ _ _ _ _ m) ?_
        rintro rfl
        exact reconcile_still closed principal leaseId epoch expiresUnix attached
      | _ => exact absurd trivial plain
    | _ => exact absurd trivial plain

end

theorem closedIn_of_close (closes : (close id).run m = (.ok (), m')) : ClosedIn id m' := by
  intro info found
  obtain ⟨old, t, ran, set⟩ := bind_ok_iff.mp closes
  obtain ⟨there, rfl⟩ := info_ok_iff.mp ran
  rw [updateInfo, run_modify, Prod.mk.injEq] at set
  rw [← set.2, get_updateInfo, there] at found
  cases found
  exact ⟨rfl, rfl⟩

/-! ## Accepted changes of the seat -/

theorem ClosedIn.congr (keeps : KeepsStanding m m') : ClosedIn id m' ↔ ClosedIn id m := by
  rw [closedIn_iff, closedIn_iff, keeps id]

/-- An edit of a session that is open before and after leaves the same sessions closed. -/
theorem closedIn_updateInfo {target : String} {info : SessionInfo} {f : SessionInfo → SessionInfo}
    (found : m.get target = .ok info)
    (before : info.state = .closed → info.controller ≠ none)
    (after : (f info).state = .closed → (f info).controller ≠ none) :
    ClosedIn id (m.updateInfo target f) ↔ ClosedIn id m := by
  by_cases here : id = target
  · subst here
    refine iff_of_false (fun closed => ?_) fun closed => ?_
    · obtain ⟨state, controller⟩ := closedIn_iff.mp closed _ (standing_updateInfo found f)
      exact after state controller
    · exact before (closed info found).1 (closed info found).2
  · rw [closedIn_iff, standing_of_elsewhere (elsewhere_updateInfo m target f) here, ← closedIn_iff]

variable {target principal leaseId fresh : String} {epoch : Nat} {now : Int}
  {lease : ControllerLease}

theorem claimed_closedIn_iff
    (claimed : (claimController target principal now fresh).run m = (.ok lease, m')) :
    ClosedIn id m' ↔ ClosedIn id m := by
  have takes : TakesUp m target _ _ _ _ _ := claimController_takes principal now fresh
  rw [claimed] at takes
  cases takes with
  | seated found admitted => exact closedIn_updateInfo found (absurd · admitted.1) fun _ => nofun

theorem given_closedIn_iff {receiver : String}
    (given : (giveController target principal receiver now fresh).run m = (.ok lease, m')) :
    ClosedIn id m' ↔ ClosedIn id m := by
  have takes : TakesUp m target _ _ _ _ _ := giveController_takes now principal receiver fresh
  rw [given] at takes
  cases takes with
  | seated found admitted =>
    obtain ⟨held, there, -⟩ := admitted
    exact closedIn_updateInfo found (fun _ => there ▸ nofun) fun _ => nofun

theorem renewed_closedIn_iff {ttl : Int}
    (renewed : (renewControllerLease target principal leaseId epoch now ttl).run m =
      (.ok lease, m')) : ClosedIn id m' ↔ ClosedIn id m := by
  have edits : Edits m target _ _ _ _ :=
    renewControllerLease_edits principal leaseId epoch now ttl
  rw [renewed] at edits
  cases edits with
  | still _ _ rests => exact rests.elim
  | edited _ found held =>
    exact closedIn_updateInfo found (fun _ => held ▸ nofun) fun _ => nofun

theorem detached_closedIn_iff
    (detached : (detachControllerLease target principal leaseId epoch now).run m = (.ok (), m')) :
    ClosedIn id m' ↔ ClosedIn id m := by
  have edits : Edits m target _ _ _ _ :=
    detachControllerLease_edits principal leaseId epoch now
  rw [detached] at edits
  cases edits with
  | still _ _ rests => exact rests.elim
  | edited _ found held =>
    obtain ⟨-, seated, there, -⟩ := held
    exact closedIn_updateInfo found (fun _ => there ▸ nofun) nofun

end Operations

end OwnMesh.Sessions
