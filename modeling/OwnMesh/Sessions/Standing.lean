import OwnMesh.Sessions.Fencing

/-!
# Who stands where in a session

The standing of a session is its state, the holder of its seat and its observers.
`Shift` says what most operations can do to it: nothing, remove the session, add an
observer, unseat the holder and make an observer of them, renew a lease, close the
session, or note that its host was lost.  The five operations that can do more, opening,
claiming, giving, reconciling and setting the state, are described one by one, together
with what they checked before.
-/

namespace OwnMesh.Sessions

open Foundations Program AList Table SessionManager

/-- The state of a session, the holder of its seat and its observers. -/
structure Standing where
  state : SessionState
  controller : Option ControllerLease
  observers : List String

def SessionInfo.standing (info : SessionInfo) : Standing :=
  ⟨info.state, info.controller, info.observers⟩

def SessionManager.standing (m : SessionManager) (id : String) : Option Standing :=
  (m.sessions.lookup id).map fun session => session.info.standing

/-- What most operations can do to the standing of one session. -/
inductive Shift : Option Standing → Option Standing → Prop where
  | same (standing : Option Standing) : Shift standing standing
  | removed (standing : Option Standing) : Shift standing none
  | observed {s : Standing} {principal : String} (alive : s.state ≠ .closed)
      (new : principal ∉ s.observers)
      (unseated : ∀ lease, s.controller = some lease → lease.principalId ≠ principal) :
      Shift (some s) (some { s with observers := s.observers ++ [principal] })
  | unseated {s : Standing} {lease : ControllerLease} (held : s.controller = some lease) :
      Shift (some s) (some ⟨.detached, none, addObserver s.observers lease.principalId⟩)
  | renewed {s : Standing} {lease : ControllerLease} (held : s.controller = some lease)
      (expiresUnix : Int) :
      Shift (some s) (some { s with controller := some { lease with expiresUnix := expiresUnix } })
  | closed (s : Standing) : Shift (some s) (some { s with state := .closed, controller := none })
  | marked {s : Standing} (running : s.state = .running) :
      Shift (some s) (some { s with state := .detached })

/-! ## Standings and updates -/

section Operations

variable {m m' : SessionManager} {id : String} {α : Type}

theorem standing_of_get {info : SessionInfo} (found : m.get id = .ok info) :
    m.standing id = some info.standing := by
  obtain ⟨session, there, rfl⟩ := get_ok_iff.mp found
  rw [standing, there]
  rfl

theorem get_of_standing {s : Standing} (found : m.standing id = some s) :
    ∃ info, m.get id = .ok info ∧ info.standing = s := by
  obtain ⟨session, there, same⟩ := Option.map_eq_some_iff.mp found
  exact ⟨session.info, get_ok_iff.mpr ⟨session, there, rfl⟩, same⟩

theorem standing_updateInfo {info : SessionInfo} (found : m.get id = .ok info)
    (f : SessionInfo → SessionInfo) : (m.updateInfo id f).standing id = some (f info).standing := by
  apply standing_of_get
  rw [get_updateInfo, found]
  rfl

theorem standing_of_elsewhere {other : String} (same : Elsewhere id m m')
    (different : other ≠ id) : m'.standing other = m.standing other := by
  rw [standing, standing, same other different]

theorem standing_mapValues (f : String → Session → Session) (id : String) :
    standing { m with sessions := m.sessions.mapValues f } id =
      (m.sessions.lookup id).map fun session => (f id session).info.standing := by
  simp only [standing, lookup_mapValues, Option.map_map]
  rfl

/-- A change that is about something else. -/
def KeepsStanding (m m' : SessionManager) : Prop := ∀ id, m'.standing id = m.standing id

instance : Std.Refl KeepsStanding := ⟨fun _ _ => rfl⟩

instance : IsTrans SessionManager KeepsStanding :=
  ⟨fun _ _ _ first second id => (second id).trans (first id)⟩

theorem keepsStanding_adjust {f : Session → Session}
    (same : ∀ session, (f session).info.standing = session.info.standing) (m : SessionManager)
    (id : String) : KeepsStanding m { m with sessions := m.sessions.adjust id f } := by
  intro other
  rw [Table.adjust, standing_mapValues, standing]
  congr 1
  funext session
  by_cases here : other = id
  · rw [if_pos here, same]
  · rw [if_neg here]

variable {f : SessionInfo → SessionInfo}

theorem updateInfo_keepsStanding (same : ∀ info, (f info).standing = info.standing) (id : String) :
    Moves KeepsStanding (updateInfo id f) :=
  .modify fun m => keepsStanding_adjust (fun session => same session.info) m id

/-! ## The operations that shift standings -/

/-- An operation about one session shifts all standings if its edit shifts that one. -/
theorem Edits.shift {β : Type} {admits : SessionInfo → β → Prop} {idle : SessionInfo → Prop}
    {edit : β → SessionInfo → SessionInfo} {r : Except SessionError α × SessionManager}
    (edits : Edits m id admits idle edit r)
    (shifts : ∀ info b, admits info b → Shift (some info.standing) (some (edit b info).standing))
    (other : String) : Shift (m.standing other) (r.2.standing other) := by
  cases edits with
  | refused | still => exact .same _
  | edited _ found admitted =>
    by_cases here : other = id
    · rw [here, standing_updateInfo found, standing_of_get found]
      exact shifts _ _ admitted
    · rw [standing_of_elsewhere (elsewhere_updateInfo m id _) here]
      exact .same _

/-- A holder that is unseated becomes an observer. -/
theorem unseated_shift {info after : SessionInfo} {lease : ControllerLease} {principal : String}
    (held : info.controller = some lease) (owned : lease.principalId = principal)
    (result : after.standing = ⟨.detached, none, addObserver info.observers principal⟩) :
    Shift (some info.standing) (some after.standing) := by
  rw [result, ← owned]
  exact .unseated held

theorem setControllerExpiresUnix_edits (id : String) (expiresUnix : Int) :
    Edits m id (fun info lease => info.controller = some lease) (fun _ => False)
      (fun lease info => { info with controller := some { lease with expiresUnix := expiresUnix } })
      ((setControllerExpiresUnix id expiresUnix).run m) := by
  refine info_bind_cases (fun e _ => .refused e) fun info found => ?_
  cases held : info.controller with
  | none => exact .refused _
  | some => exact .edited () found held

theorem close_shift (target : String) (m : SessionManager) (id : String) :
    Shift (m.standing id) (((close target).run m).2.standing id) := by
  refine (setInfo_edits _).shift (fun info _ _ => ?_) id
  exact .closed info.standing

section

variable (m : SessionManager)

theorem expireStaleLeases_shift (now : Int) (id : String) :
    Shift (m.standing id) ((m.expireStaleLeases now).standing id) := by
  rw [expireStaleLeases, standing_mapValues, standing]
  cases m.sessions.lookup id with
  | none => exact .same _
  | some session =>
    simp only [Option.map_some, SessionInfo.expireStaleLease]
    cases held : session.info.controller with
    | none => exact .same _
    | some lease =>
      dsimp only
      cases lives : lease.isActive now with
      | true => exact .same _
      | false => exact .unseated held

theorem markHostsDetachedAfterRestart_shift (id : String) :
    Shift (m.standing id) (m.markHostsDetachedAfterRestart.standing id) := by
  rw [markHostsDetachedAfterRestart, standing_mapValues, standing]
  cases m.sessions.lookup id with
  | none => exact .same _
  | some session =>
    simp only [Option.map_some, markHostDetached_info, SessionInfo.reloaded]
    split
    · exact .same _
    · split
      · by_cases running : session.info.state = .running
        · simp only [running, if_true]
          exact .marked running
        · simp only [running, if_false]
          exact .same _
      · exact .same _

theorem enforceLoadedBudgets_shift (id : String) :
    Shift (m.standing id) (m.enforceLoadedBudgets.standing id) := by
  simp only [standing, enforceLoadedBudgets, lookup_mapValues, lookup_retain]
  cases m.sessions.lookup id with
  | none => exact .same _
  | some =>
    rw [Option.filter_some]
    split
    · exact .same _
    · exact .removed _

end

/-! ## The operations that leave standings alone -/

theorem setReceipt_keepsStanding (id : String) (channel : SeqChannel)
    (f : SessionInfo → SeqReceipt) :
    Moves KeepsStanding (updateInfo id fun info => info.setReceipt (f info) channel) := by
  refine updateInfo_keepsStanding (fun info => ?_) id
  cases channel <;> rfl

theorem setInfo_keepsStanding (id : String)
    (same : ∀ info, (f info).standing = info.standing) : Moves KeepsStanding (setInfo id f) :=
  setInfo_moves (updateInfo_keepsStanding same id)

/-! ## The operations that can do more -/

def Opens (m : SessionManager) (creator : String)
    (r : Except SessionError SessionInfo × SessionManager) : Prop :=
  (∃ e, r = (.error e, m)) ∨ ∃ info lease m', r = (.ok info, m') ∧ lease.principalId = creator ∧
    m'.standing info.id = some ⟨.running, some lease, []⟩ ∧ Elsewhere info.id m m'

/-- A new session is refused, or its creator is seated alone. -/
theorem openWith_standing (request : OpenRequest) (now : Int) (freshSession freshLease : String)
    (m : SessionManager) :
    Opens m request.creator ((openWith request now freshSession freshLease).run m) := by
  refine run_require_bind_cases (fun _ => .inl ⟨_, rfl⟩) fun _ => ?_
  let lease : ControllerLease :=
    { principalId := request.creator
      leaseId := s!"lease_{freshLease}"
      epoch := 1
      expiresUnix := now + m.defaultLeaseTtlSecs }
  refine .inr ⟨request.info s!"ses_{freshSession}" lease, lease, _, rfl, rfl, ?_, ?_⟩
  · show Option.map _ (lookup s!"ses_{freshSession}" (insert _ _ m.sessions)) = _
    rw [lookup_insert]
    rfl
  · intro other different
    exact lookup_insert_ne different

theorem setState_standing {info : SessionInfo} (found : m.get id = .ok info)
    (state : SessionState) :
    ((setState id state).run m).2.standing id = some { info.standing with state := state } := by
  rw [setState, setInfo_run found, standing_updateInfo found]
  rfl

/-- An operation on a session that is not there does nothing. -/
theorem info_bind_of_missing (missing : ∀ info, m.get id ≠ .ok info)
    (next : SessionInfo → SessionM α) : ((info id >>= next).run m).2 = m :=
  info_bind_cases (P := fun r => r.2 = m) (fun _ _ => rfl) fun info there =>
    absurd there (missing info)

/-! ## All operations -/

/-- The operations that shift standings. -/
def SessionOp.Plain : SessionOp → Prop
  | .seat (.openWith ..) | .seat (.claimController ..) | .seat (.giveController ..)
  | .seat (.reconcileControllerFromTransition ..) | .setState .. => False
  | _ => True

theorem SeatOp.shift (op : SeatOp) (plain : (SessionOp.seat op).Plain) (m : SessionManager)
    (id : String) : Shift (m.standing id) ((op.program.run m).2.standing id) := by
  cases op with
  | openWith | claimController | giveController => exact plain.elim
  | reconcileControllerFromTransition =>
    exact plain.elim
  | attachObserver target principal now =>
    exact (attachObserver_edits principal now).shift
      (fun _ _ joins => .observed joins.1 joins.2.1 joins.2.2) id
  | releaseController target principal now =>
    exact (releaseController_edits principal now).shift
      (fun _ _ seated => unseated_shift seated.1 seated.2 rfl) id
  | detachControllerLease target principal leaseId epoch now =>
    refine (detachControllerLease_edits principal leaseId epoch now).shift ?_ id
    rintro info next ⟨-, lease, held, owned⟩
    exact unseated_shift held owned rfl
  | renewControllerLease target principal leaseId epoch now ttl =>
    rw [SeatOp.program, discard_run]
    exact (renewControllerLease_edits principal leaseId epoch now ttl).shift
      (fun _ _ held => .renewed held (now + ttl)) id
  | expireStaleLeases now => exact expireStaleLeases_shift m now id
  | close target => exact close_shift target m id

/-- What is about something else shifts nothing. -/
theorem shift_of_keepsStanding {program : SessionM Unit}
    (keeps : Moves KeepsStanding program) (m : SessionManager) (id : String) :
    Shift (m.standing id) ((program.run m).2.standing id) := by
  rw [keeps m id]
  exact .same _

theorem terminate_shift (target : String) (m : SessionManager) (id : String) :
    Shift (m.standing id) (((terminate target).run m).2.standing id) := by
  have closed := close_shift target m id
  let Shifts : Except SessionError Unit × SessionManager → Prop :=
    fun r => Shift (m.standing id) (r.2.standing id)
  refine run_bind_cases (P := Shifts) (fun e t ran => ?_) fun _ t ran => ?_
  · rwa [ran] at closed
  · rw [ran] at closed
    show Shift _ (Option.map _ (lookup id (erase target t.sessions)))
    by_cases here : id = target
    · rw [here, lookup_erase]
      exact .removed _
    · rw [lookup_erase_ne here]
      exact closed

/-- **What a plain operation does to the standing of a session.** -/
theorem SessionOp.shift (op : SessionOp) (plain : op.Plain) (m : SessionManager) (id : String) :
    Shift (m.standing id) ((op.program.run m).2.standing id) := by
  cases op with
  | setState => exact plain.elim
  | seat op => exact op.shift plain m id
  | pushOutput =>
    refine shift_of_keepsStanding (discard_moves (pushOutput_moves (fun m chunk =>
      keepsStanding_adjust (fun session => ?_) m _) _ _)) m id
    rfl
  | reserveControllerSeq =>
    refine shift_of_keepsStanding (discard_moves ?_) m id
    exact reserveControllerSeq_moves (setReceipt_keepsStanding _ _) _ _
  | finalizeControllerSeq =>
    refine shift_of_keepsStanding ?_ m id
    exact finalizeControllerSeq_moves (setReceipt_keepsStanding _ _) _
  | advanceSeq =>
    refine shift_of_keepsStanding (discard_moves ?_) m id
    exact advanceSeq_moves (setReceipt_keepsStanding _ _) _
  | resize target | setViewMode target =>
    refine shift_of_keepsStanding ?_ m id
    exact .bind (by exact .bind (info_moves id) fun _ => .require) fun _ =>
      setInfo_keepsStanding target fun _ => rfl
  | setHostPid target | setSidecarHostBinding target =>
    refine shift_of_keepsStanding ?_ m id
    exact setInfo_keepsStanding target fun _ => rfl
  | setControllerExpiresUnix target expiresUnix =>
    exact (setControllerExpiresUnix_edits target expiresUnix).shift
      (fun _ _ held => .renewed held expiresUnix) id
  | terminate target => exact terminate_shift target m id
  | terminateAll => exact .removed _
  | reload => exact enforceLoadedBudgets_shift m id
  | markHostsDetachedAfterRestart => exact markHostsDetachedAfterRestart_shift m id

/-- **Nobody is seated by the way.**  In every run of plain operations, whoever holds a seat at the
end has held it from the beginning, under the same lease and generation. -/
theorem seat_held_before {ops : List SessionOp}
    (run : Run (fun m op m' => (op.program.run m).2 = m') m ops m') (plain : ∀ op ∈ ops, op.Plain)
    {after : Standing} (there : m'.standing id = some after) {lease : ControllerLease}
    (held : after.controller = some lease) :
    ∃ before lease', m.standing id = some before ∧ before.controller = some lease' ∧
      { lease' with expiresUnix := lease.expiresUnix } = lease := by
  induction run with
  | done => exact ⟨after, lease, there, held, rfl⟩
  | @next m _ _ op _ first _ ih =>
    obtain ⟨isPlain, later⟩ := List.forall_mem_cons.mp plain
    obtain ⟨middle, lease', found, holds, same⟩ := ih later there
    have shift := op.shift isPlain m id
    rw [first, found] at shift
    generalize m.standing id = before at shift ⊢
    cases shift with
    | same => exact ⟨middle, lease', rfl, holds, same⟩
    | observed | marked => exact ⟨_, lease', rfl, holds, same⟩
    | renewed before =>
      cases holds
      exact ⟨_, _, rfl, before, same⟩
    | unseated | closed => cases holds

theorem seat_held_before_handedOver : ∃ before lease, handedOver.standing "ses_a" = some before ∧
    before.controller = some lease ∧ { lease with expiresUnix := 9 } = ⟨"frank", "lease_c", 2, 9⟩ :=
  have run : Run (fun m (op : SessionOp) m' => (op.program.run m).2 = m') handedOver
      [.setControllerExpiresUnix "ses_a" 9] _ := .next rfl (.done _)
  seat_held_before run (by simp [SessionOp.Plain]) (show standing _ "ses_a" = some _ from rfl) rfl

end Operations

end OwnMesh.Sessions
