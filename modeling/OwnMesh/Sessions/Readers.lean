import OwnMesh.Sessions.Standing

/-!
# Controllers, observers and readers

Whoever has held the seat of a session should stay one of its readers until it is closed
or removed, and the holder of the seat should not be listed among the observers.  A
history is a manager with a record of who has held each seat since the session was
opened.

Every operation edits the observers in its own way.  Three of them can get it wrong.  A
claim of a seat whose lease has expired, and a reconciled transition, put a new holder in
the place of the old one without making an observer of the old one.  A claim or a gift
that finds the generation exhausted has changed the observers before it fails.
`readers_kept_iff` says that nothing else goes wrong: a run keeps the seats in order
exactly when none of its steps does one of these.
-/

namespace OwnMesh.Sessions

open Foundations Program List

/-! ## Histories -/

/-- The holder of the seat. -/
def Standing.seated (s : Standing) : List String :=
  (s.controller.map ControllerLease.principalId).toList

def Standing.readers (s : Standing) : List String := s.observers ++ s.seated

/-- A manager, and who has held the seat of each session since it was opened. -/
structure History where
  manager : SessionManager
  held : String → List String

/-- Who has held a seat, given who had before; of a session that is closed or gone it is
no longer of interest. -/
def heldIn (standing : Option Standing) (before : List String) : List String :=
  match standing with
  | none => []
  | some s => if s.state = .closed then [] else s.seated ++ before

def History.of (m : SessionManager) : History where
  manager := m
  held := fun id => heldIn (m.standing id) []

/-- The operation opens a session under this identifier. -/
def SessionOp.opens (m : SessionManager) (id : String) : SessionOp → Bool
  | .seat (.openWith request now freshSession freshLease) =>
    match ((Sessions.openWith request now freshSession freshLease).run m).1 with
    | .ok info => info.id = id
    | .error _ => false
  | _ => false

def History.after (h : History) (op : SessionOp) : History :=
  let m := (op.program.run h.manager).2
  { manager := m
    held := fun id =>
      heldIn (m.standing id) (if op.opens h.manager id then [] else h.held id) }

def HistoryStep (h : History) (op : SessionOp) (h' : History) : Prop := h.after op = h'

/-- Observers are distinct, the holder of a seat is not one of them, and whoever has held
the seat may read. -/
def SeatsInOrder (h : History) : Prop :=
  ∀ id info, h.manager.get id = .ok info → info.observers.Nodup ∧
    (∀ lease, info.controller = some lease → lease.principalId ∉ info.observers) ∧
    ∀ principal ∈ h.held id, (authorizeReader id principal).run h.manager = (.ok (), h.manager)

/-- The operation does none of the things that go wrong. -/
def SessionOp.KeepsReaders (h : History) : SessionOp → Prop
  | .seat (.claimController id principal now _) =>
    ∀ info, h.manager.get id = .ok info → info.state ≠ .closed → info.activeController now = none →
      (info.controllerEpoch + 1 < 2 ^ 64 →
        ∀ lease, info.controller = some lease → lease.principalId = principal) ∧
      (¬ info.controllerEpoch + 1 < 2 ^ 64 → principal ∈ h.held id →
        ∃ lease, info.controller = some lease ∧ lease.principalId = principal)
  | .seat (.giveController id giver receiver now _) =>
    ∀ info lease, h.manager.get id = .ok info → info.controller = some lease →
      lease.principalId = giver → lease.isActive now = true →
      ¬ info.controllerEpoch + 1 < 2 ^ 64 → giver = receiver
  | .seat (.reconcileControllerFromTransition id principal _ _ _ _) =>
    ∀ info lease, h.manager.get id = .ok info → info.state ≠ .closed →
      info.controller = some lease → lease.principalId = principal
  | _ => True

/-! ## One session -/

/-- The seats of one session are in order. -/
structure InOrder (s : Standing) (held : List String) : Prop where
  distinct : s.observers.Nodup
  apart : ∀ lease, s.controller = some lease → lease.principalId ∉ s.observers
  readers : ∀ principal ∈ held, principal ∈ s.readers

variable {principal : String}

theorem authorizeReader_ok_iff {m : SessionManager} {id : String} {info : SessionInfo}
    (found : m.get id = .ok info) :
    (authorizeReader id principal).run m = (.ok (), m) ↔ principal ∈ info.standing.readers := by
  rw [authorizeReader, run_bind_of_ok (info_run found), require_ok_iff]
  exact and_iff_left rfl

theorem seatsInOrder_iff {h : History} :
    SeatsInOrder h ↔ ∀ id s, h.manager.standing id = some s → InOrder s (h.held id) := by
  constructor
  · intro order id s found
    obtain ⟨info, there, rfl⟩ := get_of_standing found
    obtain ⟨distinct, apart, readers⟩ := order id info there
    exact ⟨distinct, apart, fun principal former =>
      (authorizeReader_ok_iff there).mp (readers principal former)⟩
  · intro order id info there
    obtain ⟨distinct, apart, readers⟩ := order id info.standing (standing_of_get there)
    exact ⟨distinct, apart, fun principal former =>
      (authorizeReader_ok_iff there).mpr (readers principal former)⟩

variable {s : Standing}

theorem mem_seated :
    principal ∈ s.seated ↔ ∃ lease, s.controller = some lease ∧ lease.principalId = principal := by
  cases held : s.controller with
  | none => simp [Standing.seated, held]
  | some => simp [Standing.seated, held, eq_comm]

theorem mem_readers : principal ∈ s.readers ↔ principal ∈ s.observers ∨
      ∃ lease, s.controller = some lease ∧ lease.principalId = principal := by
  rw [← mem_seated]
  exact mem_append

variable {observers : List String}

theorem mem_addObserver {other : String} :
    other ∈ addObserver observers principal ↔ other ∈ observers ∨ other = principal := by
  unfold addObserver
  split
  · exact ⟨.inl, fun either => either.elim (fun old => old) fun same => same ▸ ‹_›⟩
  · simp

theorem mem_removeObserver {other : String} :
    other ∈ removeObserver observers principal ↔ other ∈ observers ∧ other ≠ principal := by
  simp [removeObserver]

theorem nodup_joined (distinct : observers.Nodup)
    (new : principal ∉ observers) : (observers ++ [principal]).Nodup := by
  rw [← concat_eq_append]
  exact distinct.concat new

theorem nodup_addObserver (distinct : observers.Nodup)
    (principal : String) : (addObserver observers principal).Nodup := by
  unfold addObserver
  split
  · exact distinct
  · exact nodup_joined distinct ‹_›

theorem nodup_removeObserver (distinct : observers.Nodup)
    (principal : String) : (removeObserver observers principal).Nodup :=
  distinct.filter _

variable {held : List String}

/-- The holder of the seat reads in any case. -/
theorem inOrder_heldIn_iff : InOrder s (heldIn (some s) held) ↔ s.observers.Nodup ∧
      (∀ lease, s.controller = some lease → lease.principalId ∉ s.observers) ∧
      (s.state ≠ .closed → ∀ principal ∈ held, principal ∈ s.readers) := by
  by_cases closed : s.state = .closed
  · rw [heldIn, if_pos closed]
    exact ⟨fun order => ⟨order.distinct, order.apart, fun alive => absurd closed alive⟩,
      fun order => ⟨order.1, order.2.1, nofun⟩⟩
  · rw [heldIn, if_neg closed]
    constructor
    · exact fun order => ⟨order.distinct, order.apart, fun _ principal former =>
        order.readers principal (mem_append_right _ former)⟩
    · rintro ⟨distinct, apart, readers⟩
      refine ⟨distinct, apart, fun principal member => ?_⟩
      rcases mem_append.mp member with now | former
      · exact mem_append_right _ now
      · exact readers closed principal former

/-- It is enough that whoever could read still can. -/
theorem InOrder.kept {s' : Standing} (order : InOrder s held) (distinct : s'.observers.Nodup)
    (apart : ∀ lease, s'.controller = some lease → lease.principalId ∉ s'.observers)
    (readers : ∀ other ∈ s.readers, other ∈ s'.readers) : InOrder s' (heldIn (some s') held) :=
  inOrder_heldIn_iff.mpr ⟨distinct, apart, fun _ other former =>
    readers other (order.readers other former)⟩

/-- A shift keeps a session in order. -/
theorem InOrder.shift {s' : Standing} (order : InOrder s held)
    (shift : Shift (some s) (some s')) : InOrder s' (heldIn (some s') held) := by
  cases shift with
  | same | marked => exact order.kept order.distinct order.apart fun _ => id
  | @observed principal _ alive new unseated =>
    refine order.kept (nodup_joined order.distinct new) (fun lease seated member => ?_)
      fun other reads => ?_
    · rcases mem_append.mp member with old | added
      · exact order.apart lease seated old
      · exact unseated lease seated (mem_singleton.mp added)
    · exact mem_readers.mpr ((mem_readers.mp reads).imp_left (mem_append_left _))
  | @unseated _ lease seated =>
    refine order.kept (nodup_addObserver order.distinct _) nofun fun other reads => ?_
    refine mem_readers.mpr (.inl (mem_addObserver.mpr ((mem_readers.mp reads).imp_right ?_)))
    rintro ⟨lease', same, rfl⟩
    cases seated.symm.trans same
    rfl
  | @renewed _ lease seated =>
    refine order.kept order.distinct ?_ fun other reads => ?_
    · rintro _ ⟨⟩
      exact order.apart lease seated
    · refine mem_readers.mpr ((mem_readers.mp reads).imp_right ?_)
      rintro ⟨lease', same, rfl⟩
      cases seated.symm.trans same
      exact ⟨_, rfl, rfl⟩
  | closed => exact inOrder_heldIn_iff.mpr ⟨order.distinct, nofun, fun alive => absurd rfl alive⟩

/-! ## The operations that can go wrong -/

section Wrong

variable {s : Standing} {held : List String} {principal : String}

section

variable (order : InOrder s held)
include order

/-- Where the named principal reads in place of the old holder, that holder must not be
somebody else. -/
theorem InOrder.replaced_iff {s' : Standing} (recorded : ∀ other ∈ s.seated, other ∈ held)
    (alive : s'.state ≠ .closed) (distinct : s'.observers.Nodup)
    (apart : ∀ lease, s'.controller = some lease → lease.principalId ∉ s'.observers)
    (readers : ∀ other, other ∈ s'.readers ↔ other ∈ s.observers ∨ other = principal) :
    InOrder s' (heldIn (some s') held) ↔
      ∀ old, s.controller = some old → old.principalId = principal := by
  constructor
  · intro after old seated
    have former : old.principalId ∈ held := recorded _ (mem_seated.mpr ⟨old, seated, rfl⟩)
    have reads := (inOrder_heldIn_iff.mp after).2.2 alive _ former
    exact ((readers _).mp reads).resolve_left (order.apart old seated)
  · intro alone
    refine order.kept distinct apart fun other reads => (readers other).mpr ?_
    refine (mem_readers.mp reads).imp_right ?_
    rintro ⟨old, seated, rfl⟩
    exact alone old seated

/-- A new holder leaves the observers. -/
theorem InOrder.seat_iff {lease : ControllerLease}
    (holder : lease.principalId = principal) (recorded : ∀ other ∈ s.seated, other ∈ held) :
    InOrder ⟨.running, some lease, removeObserver s.observers principal⟩
        (heldIn (some ⟨.running, some lease, removeObserver s.observers principal⟩) held) ↔
      ∀ old, s.controller = some old → old.principalId = principal := by
  refine order.replaced_iff recorded nofun (nodup_removeObserver order.distinct _) ?_
    fun other => ?_
  · rintro _ ⟨⟩ member
    exact (mem_removeObserver.mp member).2 holder
  · rw [mem_readers, mem_removeObserver]
    by_cases same : other = principal
    · exact iff_of_true (.inr ⟨lease, rfl, holder.trans same.symm⟩) (.inr same)
    · simp [same, holder, Ne.symm same]

/-- A claim that fails has removed the claimant from the observers. -/
theorem InOrder.exhaustedClaim_iff (alive : s.state ≠ .closed) :
    InOrder { s with observers := removeObserver s.observers principal }
        (heldIn (some { s with observers := removeObserver s.observers principal }) held) ↔
      (principal ∈ held → ∃ lease, s.controller = some lease ∧ lease.principalId = principal) := by
  rw [inOrder_heldIn_iff]
  constructor
  · rintro ⟨-, -, readers⟩ former
    refine (mem_readers.mp (readers alive _ former)).resolve_left fun observes => ?_
    exact (mem_removeObserver.mp observes).2 rfl
  · intro seatedThen
    refine ⟨nodup_removeObserver order.distinct _, fun lease seated member => ?_,
      fun _ other former => ?_⟩
    · exact order.apart lease seated (mem_removeObserver.mp member).1
    · rcases mem_readers.mp (order.readers other former) with observes | now
      · by_cases same : other = principal
        · subst same
          exact mem_readers.mpr (.inr (seatedThen former))
        · exact mem_readers.mpr (.inl (mem_removeObserver.mpr ⟨observes, same⟩))
      · exact mem_readers.mpr (.inr now)

/-- A gift that fails has made an observer of the giver, who is still seated. -/
theorem InOrder.exhaustedGift_iff {lease : ControllerLease}
    (seated : s.controller = some lease) (receiver : String) : InOrder
        { s with
          observers := removeObserver (addObserver s.observers lease.principalId) receiver }
        (heldIn (some
          { s with
            observers := removeObserver (addObserver s.observers lease.principalId) receiver })
          held) ↔
      lease.principalId = receiver := by
  rw [inOrder_heldIn_iff]
  constructor
  · rintro ⟨-, apart, -⟩
    by_contra different
    exact apart lease seated (mem_removeObserver.mpr ⟨mem_addObserver.mpr (.inr rfl), different⟩)
  · rintro rfl
    refine ⟨nodup_removeObserver (nodup_addObserver order.distinct _) _, ?_,
      fun _ other former => ?_⟩
    · intro lease' same member
      cases seated.symm.trans same
      exact (mem_removeObserver.mp member).2 rfl
    · refine mem_readers.mpr ((mem_readers.mp (order.readers other former)).imp_left ?_)
      refine fun observes => mem_removeObserver.mpr ⟨mem_addObserver.mpr (.inl observes), ?_⟩
      rintro rfl
      exact order.apart lease seated observes

/-- A gift that is made keeps the session in order. -/
theorem InOrder.gift {lease given : ControllerLease}
    (seated : s.controller = some lease) {receiver : String} (holder : given.principalId = receiver)
    (state : SessionState) : InOrder
      ⟨state, some given, removeObserver (addObserver s.observers lease.principalId) receiver⟩
      (heldIn (some
        ⟨state, some given, removeObserver (addObserver s.observers lease.principalId) receiver⟩)
        held) := by
  refine order.kept (nodup_removeObserver (nodup_addObserver order.distinct _) _) ?_
    fun other reads => mem_readers.mpr ?_
  · rintro _ ⟨⟩ member
    exact (mem_removeObserver.mp member).2 holder
  · by_cases same : other = receiver
    · exact .inr ⟨given, rfl, holder.trans same.symm⟩
    · refine .inl (mem_removeObserver.mpr ⟨mem_addObserver.mpr ?_, same⟩)
      refine (mem_readers.mp reads).imp_right ?_
      rintro ⟨old, there, rfl⟩
      cases seated.symm.trans there
      rfl

end

end Wrong

/-! ## Steps -/

section Steps

variable {h : History} {op : SessionOp} {target : String}

/-- The holder of a seat is on record. -/
def Recorded (h : History) : Prop :=
  ∀ id s, h.manager.standing id = some s → s.state ≠ .closed → ∀ other ∈ s.seated, other ∈ h.held id

theorem recorded_heldIn (alive : s.state ≠ .closed) :
    ∀ other ∈ s.seated, other ∈ heldIn (some s) held := by
  intro other seated
  rw [heldIn, if_neg alive]
  exact mem_append_left _ seated

theorem recorded_of (m : SessionManager) : Recorded (History.of m) := by
  intro id s found alive
  show ∀ other ∈ s.seated, other ∈ heldIn (m.standing id) []
  rw [show m.standing id = some s from found]
  exact recorded_heldIn alive

/-- Every step records who is seated. -/
theorem recorded_after (h : History) (op : SessionOp) : Recorded (h.after op) := by
  intro id s found alive
  show ∀ other ∈ s.seated, other ∈ heldIn ((op.program.run h.manager).2.standing id) _
  rw [show (op.program.run h.manager).2.standing id = some s from found]
  exact recorded_heldIn alive

theorem InOrder.forget (order : InOrder s held) (b : Bool) :
    InOrder s (if b then [] else held) := by
  cases b with
  | false => exact order
  | true => exact ⟨order.distinct, order.apart, nofun⟩

/-- A session that is shifted stays in order. -/
theorem inOrder_of_shift (order : SeatsInOrder h) {id : String}
    (shift : Shift (h.manager.standing id) (some s)) (b : Bool) :
    InOrder s (heldIn (some s) (if b then [] else h.held id)) := by
  cases before : h.manager.standing id with rw [before] at shift
  | none =>
    cases shift
  | some old =>
    exact ((seatsInOrder_iff.mp order id old before).forget b).shift shift

theorem SeatsInOrder.after_plain (order : SeatsInOrder h) (plain : op.Plain) :
    SeatsInOrder (h.after op) := by
  refine seatsInOrder_iff.mpr fun id s found => ?_
  have shift := op.shift plain h.manager id
  have after : (op.program.run h.manager).2.standing id = some s := found
  rw [after] at shift
  show InOrder s (heldIn ((op.program.run h.manager).2.standing id) _)
  rw [after]
  exact inOrder_of_shift order shift _

/-- After an operation on one session, all are in order if that one is. -/
theorem SeatsInOrder.after_iff (order : SeatsInOrder h)
    (unopened : ∀ id, op.opens h.manager id = false)
    (elsewhere : Elsewhere target h.manager (op.program.run h.manager).2)
    (after : (op.program.run h.manager).2.standing target = some s) :
    SeatsInOrder (h.after op) ↔ InOrder s (heldIn (some s) (h.held target)) := by
  have held : ∀ id, (h.after op).held id =
      heldIn ((op.program.run h.manager).2.standing id) (h.held id) := by
    intro id
    show heldIn _ (if op.opens h.manager id then [] else h.held id) = _
    rw [unopened id]
    rfl
  rw [seatsInOrder_iff]
  constructor
  · intro all
    have here := all target s after
    rwa [held, after] at here
  · intro here id s' found
    have found' : (op.program.run h.manager).2.standing id = some s' := found
    rw [held, found']
    by_cases same : id = target
    · rw [same, after] at found'
      cases found'
      rw [same]
      exact here
    · rw [standing_of_elsewhere elsewhere same] at found'
      refine inOrder_of_shift order ?_ false
      rw [found']
      exact .same _

theorem SeatsInOrder.after_still (order : SeatsInOrder h)
    (still : (op.program.run h.manager).2 = h.manager) : SeatsInOrder (h.after op) := by
  refine seatsInOrder_iff.mpr fun id s found => ?_
  have after : (op.program.run h.manager).2.standing id = some s := found
  show InOrder s (heldIn ((op.program.run h.manager).2.standing id) _)
  rw [after]
  rw [still] at after
  refine inOrder_of_shift order ?_ _
  rw [after]
  exact .same _

section

variable (order : SeatsInOrder h)
include order

theorem SeatsInOrder.edited_iff {info : SessionInfo} {f : SessionInfo → SessionInfo}
    (unopened : ∀ id, op.opens h.manager id = false) (found : h.manager.get target = .ok info)
    (result : (op.program.run h.manager).2 = h.manager.updateInfo target f) :
    SeatsInOrder (h.after op) ↔
      InOrder (f info).standing (heldIn (some (f info).standing) (h.held target)) := by
  refine order.after_iff unopened ?_ ?_
  · rw [result]
    exact elsewhere_updateInfo h.manager target f
  · rw [result, standing_updateInfo found]

theorem claim_inOrder_iff (recorded : Recorded h) (id principal : String)
    (now : Int) (fresh : String) :
    SeatsInOrder (h.after (.seat (.claimController id principal now fresh))) ↔
      (SessionOp.seat (.claimController id principal now fresh)).KeepsReaders h := by
  have result : ((SessionOp.seat (.claimController id principal now fresh)).program.run
      h.manager).2 = _ := discard_run _ _
  have takes : TakesUp h.manager id _ _ _ _ _ := claimController_takes principal now fresh
  generalize (claimController id principal now fresh).run h.manager = r at takes result
  cases takes with
  | refused _ closed =>
    exact iff_of_true (order.after_still result) fun info found alive free =>
      absurd ⟨alive, free⟩ (closed info found)
  | exhausted found admitted full =>
    have here := seatsInOrder_iff.mp order id _ (standing_of_get found)
    dsimp only at result
    have exactly := order.edited_iff (fun _ => rfl) found result
    refine exactly.trans ((here.exhaustedClaim_iff admitted.1).trans
      (Iff.trans ?_ (forall_get_iff found).symm))
    exact ⟨fun kept _ _ => ⟨fun room => absurd room full, fun _ => kept⟩,
      fun kept => (kept admitted.1 admitted.2).2 full⟩
  | seated found admitted room holder =>
    have here := seatsInOrder_iff.mp order id _ (standing_of_get found)
    have seen := recorded id _ (standing_of_get found) admitted.1
    dsimp only at result
    have exactly := order.edited_iff (fun _ => rfl) found result
    refine exactly.trans ((here.seat_iff holder seen).trans
      (Iff.trans ?_ (forall_get_iff found).symm))
    exact ⟨fun kept _ _ => ⟨fun _ => kept, fun full => absurd room full⟩,
      fun kept => (kept admitted.1 admitted.2).1 room⟩

theorem give_inOrder_iff (id giver receiver : String) (now : Int) (fresh : String) :
    SeatsInOrder (h.after (.seat (.giveController id giver receiver now fresh))) ↔
      (SessionOp.seat (.giveController id giver receiver now fresh)).KeepsReaders h := by
  have result : ((SessionOp.seat (.giveController id giver receiver now fresh)).program.run
      h.manager).2 = _ := discard_run _ _
  have takes : TakesUp h.manager id _ _ _ _ _ := giveController_takes now giver receiver fresh
  generalize (giveController id giver receiver now fresh).run h.manager = r at takes result
  cases takes with
  | refused _ closed =>
    exact iff_of_true (order.after_still result) fun info lease found seated owned active =>
      absurd ⟨lease, seated, owned, active⟩ (closed info found)
  | @exhausted info found admitted full =>
    obtain ⟨lease, seated, rfl, active⟩ := admitted
    have here := seatsInOrder_iff.mp order id _ (standing_of_get found)
    dsimp only at result
    have exactly := order.edited_iff (fun _ => rfl) found result
    exact exactly.trans ((here.exhaustedGift_iff seated receiver).trans
      ⟨fun same _ _ _ _ _ _ _ => same, fun kept => kept info lease found seated rfl active full⟩)
  | seated found admitted room holder =>
    obtain ⟨lease, seated, rfl, active⟩ := admitted
    have here := seatsInOrder_iff.mp order id _ (standing_of_get found)
    dsimp only at result
    have exactly := order.edited_iff (fun _ => rfl) found result
    refine exactly.trans (iff_of_true (here.gift seated holder _) ?_)
    intro info' lease' there _ _ _ full
    cases found.symm.trans there
    exact absurd room full

theorem reconcile_inOrder_iff (recorded : Recorded h)
    (id principal leaseId : String) (epoch : Nat) (expiresUnix : Int) (attached : Bool) :
    SeatsInOrder (h.after (.seat (.reconcileControllerFromTransition id principal leaseId epoch
        expiresUnix attached))) ↔
      (SessionOp.seat (.reconcileControllerFromTransition id principal leaseId epoch expiresUnix
        attached)).KeepsReaders h := by
  let op := SessionOp.seat
    (.reconcileControllerFromTransition id principal leaseId epoch expiresUnix attached)
  cases found : h.manager.get id with
  | error =>
    refine iff_of_true (order.after_still ?_) fun info lease there => ?_
    · exact info_bind_of_missing (fun info there => by cases found.symm.trans there) _
    · cases found.symm.trans there
  | ok info =>
    by_cases closed : info.state = .closed
    · refine iff_of_true (order.after_still ?_) fun info' lease there alive => ?_
      · exact congrArg Prod.snd (reconcileControllerFromTransition_closed found closed)
      · cases found.symm.trans there
        exact absurd closed alive
    · have here := seatsInOrder_iff.mp order id info.standing (standing_of_get found)
      have seen := recorded id info.standing (standing_of_get found) closed
      have ran : (reconcileControllerFromTransition id principal leaseId epoch expiresUnix
          attached).run h.manager = _ := reconcileControllerFromTransition_run found closed
      have result : (op.program.run h.manager).2 = _ := congrArg Prod.snd ran
      dsimp only at result
      have exactly := order.edited_iff (fun _ => rfl) found result
      refine exactly.trans ?_
      have same : (∀ old, info.standing.controller = some old → old.principalId = principal) ↔
          op.KeepsReaders h := by
        refine ⟨fun kept info' lease there _ seated => ?_, fun kept old seated =>
          kept info old found closed seated⟩
        cases found.symm.trans there
        exact kept lease seated
      refine Iff.trans ?_ same
      cases attached with
      | true => exact here.seat_iff rfl seen
      | false =>
        refine here.replaced_iff seen nofun (nodup_addObserver here.distinct _) nofun
          fun other => ?_
        rw [mem_readers, ← mem_addObserver]
        exact or_iff_left nofun

theorem SeatsInOrder.after_openWith (request : OpenRequest) (now : Int)
    (freshSession freshLease : String) :
    SeatsInOrder (h.after (.seat (.openWith request now freshSession freshLease))) := by
  let op := SessionOp.seat (.openWith request now freshSession freshLease)
  have result : (op.program.run h.manager).2 =
      ((openWith request now freshSession freshLease).run h.manager).2 := discard_run _ _
  rcases openWith_standing request now freshSession freshLease h.manager with
    ⟨e, refused⟩ | ⟨info, lease, m', opened, creator, alone, elsewhere⟩
  · exact order.after_still (by rw [result, refused])
  · refine seatsInOrder_iff.mpr fun id s found => ?_
    have after : (op.program.run h.manager).2.standing id = some s := found
    show InOrder s (heldIn ((op.program.run h.manager).2.standing id)
      (if op.opens h.manager id then [] else h.held id))
    rw [after]
    rw [result, opened] at after
    by_cases here : id = info.id
    · have opens : op.opens h.manager id = true := by
        show (match ((openWith request now freshSession freshLease).run h.manager).1 with
          | .ok info => decide (info.id = id)
          | .error _ => false) = true
        rw [opened]
        exact decide_eq_true here.symm
      cases (here ▸ alone).symm.trans after
      rw [opens]
      exact inOrder_heldIn_iff.mpr ⟨nodup_nil, nofun, fun _ => nofun⟩
    · refine inOrder_of_shift order ?_ _
      rw [← standing_of_elsewhere elsewhere here, after]
      exact .same _

theorem SeatsInOrder.after_setState (id : String)
    (state : SessionState) : SeatsInOrder (h.after (.setState id state)) := by
  cases found : h.manager.get id with
  | error =>
    exact order.after_still (info_bind_of_missing (fun info there => by
      cases found.symm.trans there) _)
  | ok info =>
    have here := seatsInOrder_iff.mp order id info.standing (standing_of_get found)
    have exactly : SeatsInOrder (h.after (.setState id state)) ↔ _ :=
      order.after_iff (fun _ => rfl) (setInfo_moves (updateInfo_moves id _) h.manager)
        (setState_standing found state)
    exact exactly.mpr (here.kept here.distinct here.apart fun _ reads => reads)

end

/-- A step keeps the seats in order exactly when it does none of the things that go
wrong. -/
theorem SeatsInOrder.step_iff (order : SeatsInOrder h) (recorded : Recorded h) (op : SessionOp) :
    SeatsInOrder (h.after op) ↔ op.KeepsReaders h := by
  by_cases plain : op.Plain
  · refine iff_of_true (order.after_plain plain) ?_
    cases op with
    | seat op => cases op <;> trivial
    | _ => trivial
  · cases op with
    | setState id state => exact iff_of_true (order.after_setState id state) trivial
    | seat op =>
      cases op with
      | openWith request now freshSession freshLease =>
        exact iff_of_true (order.after_openWith request now freshSession freshLease) trivial
      | claimController id principal now fresh =>
        exact claim_inOrder_iff order recorded id principal now fresh
      | giveController id giver receiver now fresh =>
        exact give_inOrder_iff order id giver receiver now fresh
      | reconcileControllerFromTransition id principal leaseId epoch expiresUnix attached =>
        exact reconcile_inOrder_iff order recorded id principal leaseId epoch expiresUnix attached
      | _ => exact absurd trivial plain
    | _ => exact absurd trivial plain

end Steps

/-! ## Runs -/

/-- **When controllers and observers stay apart and readers are kept.**  In every state
of a run from an empty manager, the observers of each session are distinct, its holder is
not one of them, and whoever has held its seat since it was opened may read it until it is
closed or removed, if and only if no claim or reconciled transition puts another holder in
the place of one who is still seated, no claim of a former holder and no gift to somebody
else finds the generation exhausted. -/
theorem readers_kept_iff {ops : List SessionOp} {last : History}
    (run : Run HistoryStep (History.of SessionManager.new) ops last) :
    (∀ mid, Run.Visits HistoryStep (History.of SessionManager.new) ops mid → SeatsInOrder mid) ↔
      ∀ mid op, Run.Takes HistoryStep (History.of SessionManager.new) ops mid op →
        op.KeepsReaders mid := by
  have start : SeatsInOrder (History.of SessionManager.new) := by
    intro id info found
    cases found
  refine (run.throughout_iff (J := Recorded) (fun _ _ _ _ left right => left.symm.trans right)
    ?_ ?_ (recorded_of _)).trans (and_iff_right start)
  · rintro a op b - rfl
    exact recorded_after a op
  · rintro a op b recorded order rfl
    exact order.step_iff recorded op

def opening : SessionOp := .seat (.openWith agentRequest 100 "a" "b")

def handing : SessionOp := .seat (.giveController "ses_a" "erin" "frank" 200 "c")

/-- The session of an agent that hands the seat to a human. -/
def handedHistory : History := ((History.of .new).after opening).after handing

/-- The agent that handed the seat on still reads. -/
theorem readers_kept_iff_handedHistory : "erin" ∈ handedHistory.held "ses_a" ∧
      (authorizeReader "ses_a" "erin").run handedHistory.manager =
        (.ok (), handedHistory.manager) := by
  have run : Run HistoryStep (History.of .new) [opening, handing] handedHistory :=
    .next rfl (.next rfl (.done _))
  have former : "erin" ∈ handedHistory.held "ses_a" := by decide
  refine ⟨former, ?_⟩
  have order : SeatsInOrder handedHistory := by
    refine (readers_kept_iff run).mpr ?_ handedHistory ⟨_, [], rfl, run⟩
    rintro mid op ⟨_ | ⟨first, _ | ⟨second, before⟩⟩, after, split, reached⟩
    · cases split
      trivial
    · cases split
      cases reached with
      | next taken rest =>
        cases taken
        cases rest
        intro info lease found _ _ _ full
        cases found
        exact absurd (by decide) full
    · have lengths := congrArg List.length split
      simp only [length_cons, length_append, length_nil] at lengths
      omega
  exact (order "ses_a" _ rfl).2.2 "erin" former

/-- Two ways to lose a reader: the lease of the agent expires and a human claims the seat
before the expired leases are collected; and a transition to the human is reconciled. -/
theorem former_holder_cannot_read : (∃ h, Run HistoryStep (History.of .new)
        [opening, .seat (.claimController "ses_a" "frank" 5000 "c")] h ∧
      "erin" ∈ h.held "ses_a" ∧
      (authorizeReader "ses_a" "erin").run h.manager = (.error .notReader, h.manager)) ∧
    ∃ h, Run HistoryStep (History.of .new)
        [opening, .seat (.reconcileControllerFromTransition "ses_a" "frank" "lease_c" 2 4000 true)]
        h ∧
      "erin" ∈ h.held "ses_a" ∧
      (authorizeReader "ses_a" "erin").run h.manager = (.error .notReader, h.manager) :=
  ⟨⟨_, .next rfl (.next rfl (.done _)), by decide, rfl⟩,
    ⟨_, .next rfl (.next rfl (.done _)), by decide, rfl⟩⟩

end OwnMesh.Sessions
