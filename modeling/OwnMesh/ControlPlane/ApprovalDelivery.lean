import OwnMesh.ControlPlane.ApprovalOutbox
import OwnMesh.Foundations.Rows

/-!
# Delivery of approval decisions

What holds of the outbox over every interleaving of the statements of any number of calls.

Unconditionally, an operation has at most one outbox row, the row keeps its decision, a
delivered row never changes again, a claim raises the claim version by one, and a release or a
finalize call whose token the row no longer carries changes nothing.

That no two claims are answered with one token is not unconditional.  A claim updates the row
and reads it back in a second statement; if the lease runs out between the two and another
worker claims the row, the first worker reads the second worker's token.  With random tokens, the
claims of a run are answered with distinct tokens exactly when the row is taken again between any
two of their readings that find it claimed (`approval_outbox_delivery`); `claims_share_token` is a
run of two workers in which it is not.
-/

namespace OwnMesh.ControlPlane

open Foundations List OutboxCall OutboxState ApprovalDatabase

/-! ## What a statement does to the outbox -/

/-- The primary key of the outbox and its unique column. -/
structure OneRow (db : ApprovalDatabase) : Prop where
  ids : Keyed OutboxRow.id db.outbox
  operations : Keyed OutboxRow.operationId db.outbox

/-- What later forms of an outbox row keep of it. -/
structure Carries (old new : OutboxRow) : Prop where
  id : new.id = old.id
  operationId : new.operationId = old.operationId
  decision : new.decision = old.decision
  claimVersion : old.claimVersion ≤ new.claimVersion
  delivered : old.deliveryStatus = .delivered → new = old

theorem Carries.refl (row : OutboxRow) : Carries row row :=
  ⟨rfl, rfl, rfl, Nat.le_refl _, fun _ => rfl⟩

/-- The row that the next statement of a call takes for a claim, and the token it leaves there:
the row is pending, or the lease of its claim has run out. -/
def OutboxCall.takes (fault : Bool) (db : ApprovalDatabase) (phase : OutboxPhase) :
    OutboxCall → Option (String × String)
  | .claim id claimToken nowMs =>
    match phase with
    | .start =>
      if !fault && db.outbox.any (claimableAt id nowMs) then some (id, claimToken) else none
    | _ => none
  | _ => none

/-- What a statement makes of a row; only the one that takes it leaves a new token on it. -/
structure Edits (taken : Option (String × String)) (old new : OutboxRow) : Prop
    extends Carries old new where
  token : new.claimToken = old.claimToken ∨ new.claimToken = none ∨
    ∃ token, taken = some (old.id, token) ∧ new.claimToken = some token

variable {taken : Option (String × String)}

/-- The ways in which one statement changes the outbox. -/
inductive OutboxChange (taken : Option (String × String)) (before after : List OutboxRow) :
    Prop where
  | same (unchanged : after = before)
  | edits (edit : OutboxRow → OutboxRow) (edits : ∀ row, Edits taken row (edit row))
      (edited : after = before.map edit)
  | inserts (row : OutboxRow) (new : unclaimedBy before row.id row.operationId = true)
      (unclaimed : row.claimToken = none) (inserted : after = before ++ [row])

theorem updateOutbox_change (db : ApprovalDatabase) (selects : OutboxRow → Bool)
    (set : OutboxRow → OutboxRow)
    (edits : ∀ row, selects row = true → Edits taken row (set row)) :
    OutboxChange taken db.outbox (db.updateOutbox selects set).outbox := by
  refine .edits (fun row => if selects row then set row else row) ?_ rfl
  intro row
  split
  next selected => exact edits row selected
  next => exact ⟨Carries.refl row, .inl rfl⟩

variable {claimToken : String} {row : OutboxRow} {id : String}

theorem heldBy_undelivered {claimVersion : Nat}
    (held : heldBy id claimToken claimVersion row = true) : row.deliveryStatus ≠ .delivered := by
  simp only [heldBy, Bool.and_eq_true, decide_eq_true_eq] at held
  simp [held.1.1.2]

theorem insertOutbox_change (id csrfHash principalId : String) (decision : HumanDecision)
    (nowMs : Int) (db : ApprovalDatabase) :
    OutboxChange taken db.outbox
      (insertOutbox id csrfHash principalId decision nowMs db).outbox := by
  rw [insertOutbox]
  split
  next tx found =>
    have selected := List.find?_some found
    simp only [insertable, Bool.and_eq_true] at selected
    exact .inserts (insertedRow id decision nowMs tx) selected.2 rfl rfl
  next => exact .same rfl

/-! ## What a statement does -/

section

variable (fault : Bool) (db : ApprovalDatabase) (phase : OutboxPhase)

theorem advance_change (call : OutboxCall) : OutboxChange (call.takes fault db phase) db.outbox
    (call.advance fault db phase).1.outbox := by
  cases call with
  | begin_ id csrfHash principalId decision nowMs =>
    cases phase with
    | beginBatch =>
      have change : OutboxChange none _ _ := insertOutbox_change id csrfHash principalId decision
        nowMs (consumeTransaction id csrfHash principalId decision nowMs db)
      rw [OutboxCall.advance, advanceBegin]
      split
      · exact .same rfl
      · dsimp only
        split <;> exact change
    | _ =>
      refine .same ?_
      simp only [OutboxCall.advance, advanceBegin]
      repeat' split
      all_goals rfl
  | claim id claimToken nowMs =>
    cases phase with
    | start =>
      rw [OutboxCall.advance, advanceClaim]
      split
      · exact .same rfl
      next sound =>
        split
        next claimable =>
          refine updateOutbox_change db _ _ fun row selected =>
            ⟨⟨rfl, rfl, rfl, Nat.le_succ _, fun delivered => ?_⟩, .inr (.inr ⟨claimToken, ?_, rfl⟩)⟩
          · simp [claimableAt, delivered] at selected
          · simp only [claimableAt, Bool.and_eq_true, decide_eq_true_eq] at selected
            simp [OutboxCall.takes, sound, claimable, selected.1]
        next => exact .same rfl
    | _ => exact .same rfl
  | release =>
    cases phase with
    | start =>
      rw [OutboxCall.advance, advanceRelease]
      split
      · exact .same rfl
      · split
        · exact .same rfl
        · exact updateOutbox_change db _ _ fun _ held => ⟨⟨rfl, rfl, rfl, Nat.le_refl _,
            fun delivered => absurd delivered (heldBy_undelivered held)⟩, .inr (.inl rfl)⟩
    | _ => exact .same rfl
  | recordAttempt =>
    cases phase with
    | start =>
      rw [OutboxCall.advance, advanceAttempt]
      split
      · exact .same rfl
      · refine updateOutbox_change db _ _ fun row selected =>
          ⟨⟨rfl, rfl, rfl, Nat.le_refl _, fun delivered => ?_⟩, .inl rfl⟩
        simp [delivered] at selected
    | _ => exact .same rfl
  | finalize id claimToken claimVersion nowMs =>
    cases phase with
    | finalizeBatch outbox op =>
      have change : OutboxChange none _ _ := updateOutbox_change db
        (heldBy id claimToken claimVersion) (deliverRow nowMs)
        fun row held => ⟨⟨rfl, rfl, rfl, Nat.le_refl _,
          fun delivered => absurd delivered (heldBy_undelivered held)⟩, .inl rfl⟩
      rw [OutboxCall.advance, advanceFinalize]
      split
      · exact .same rfl
      · split <;> exact change
    | _ =>
      refine .same ?_
      simp only [OutboxCall.advance, advanceFinalize]
      repeat' split
      all_goals rfl

end

/-! ## Rows over one statement -/

theorem OneRow.change {before after : ApprovalDatabase} (one : OneRow before)
    (change : OutboxChange taken before.outbox after.outbox) : OneRow after := by
  cases change with
  | same unchanged =>
    exact { ids := unchanged ▸ one.ids, operations := unchanged ▸ one.operations }
  | edits edit edits edited =>
    constructor
    · rw [edited]
      exact one.ids.map fun row => (edits row).id
    · rw [edited]
      exact one.operations.map fun row => (edits row).operationId
  | inserts row new _ inserted =>
    simp only [unclaimedBy, all_eq_true, Bool.and_eq_true, decide_eq_true_eq] at new
    constructor
    · rw [inserted]
      exact one.ids.concat fun other stored => (new other stored).1
    · rw [inserted]
      exact one.operations.concat fun other stored => (new other stored).2

theorem OutboxChange.carries {before after : ApprovalDatabase}
    (change : OutboxChange taken before.outbox after.outbox) {old : OutboxRow}
    (found : before.getMcpApprovalOutbox id = some old) :
    ∃ new, after.getMcpApprovalOutbox id = some new ∧ Carries old new := by
  rw [getMcpApprovalOutbox] at found
  simp only [getMcpApprovalOutbox]
  cases change with
  | same unchanged => exact ⟨old, by rw [unchanged, found], Carries.refl old⟩
  | edits edit edits edited =>
    refine ⟨edit old, ?_, (edits old).toCarries⟩
    rw [edited, find?_key_map fun row => (edits row).id, found]
    rfl
  | inserts row new _ inserted =>
    refine ⟨old, ?_, Carries.refl old⟩
    rw [inserted, List.find?_append, found]
    rfl

/-- The token on the row. -/
def ApprovalDatabase.tokenOf (db : ApprovalDatabase) (id : String) : Option String :=
  (db.getMcpApprovalOutbox id).bind OutboxRow.claimToken

theorem OutboxChange.token {before after : ApprovalDatabase}
    (change : OutboxChange taken before.outbox after.outbox) (id : String) :
    after.tokenOf id = before.tokenOf id ∨ after.tokenOf id = none ∨
      ∃ token, taken = some (id, token) ∧ after.tokenOf id = some token := by
  simp only [tokenOf, getMcpApprovalOutbox]
  cases change with
  | same unchanged => exact .inl (by rw [unchanged])
  | edits edit edits edited =>
    rw [edited, find?_key_map fun row => (edits row).id]
    cases found : before.outbox.find? fun row => row.id = id with
    | none => exact .inl rfl
    | some old =>
      have isId : old.id = id := by simpa using find?_some found
      exact isId ▸ (edits old).token
  | inserts row new unclaimed inserted =>
    rw [inserted, List.find?_append]
    cases before.outbox.find? fun row => row.id = id with
    | some old => exact .inl rfl
    | none =>
      refine .inl ?_
      rw [Option.none_or, find?_cons, find?_nil]
      split
      · exact unclaimed
      · rfl

/-! ## Superseded claims -/

/-- The outbox row a call answers for, and the claim token it carries. -/
def OutboxCall.owner : OutboxCall → Option (String × String)
  | .release id claimToken _ _ => some (id, claimToken)
  | .finalize id claimToken _ _ => some (id, claimToken)
  | _ => none

/-- No row with the id carries the token any more. -/
def Superseded (db : ApprovalDatabase) (id claimToken : String) : Prop :=
  ∀ row ∈ db.outbox, row.id = id → row.claimToken ≠ some claimToken

variable {db : ApprovalDatabase}

theorem Superseded.not_held (superseded : Superseded db id claimToken) (claimVersion : Nat)
    (stored : row ∈ db.outbox) : heldBy id claimToken claimVersion row = false := by
  rw [← Bool.not_eq_true]
  intro held
  simp only [heldBy, Bool.and_eq_true, decide_eq_true_eq] at held
  exact superseded row stored held.1.1.1 held.1.2

theorem updateOutbox_idle {selects : OutboxRow → Bool} (set : OutboxRow → OutboxRow)
    (idle : ∀ row ∈ db.outbox, selects row = false) : db.updateOutbox selects set = db := by
  have unchanged : (db.outbox.map fun row => if selects row then set row else row) = db.outbox := by
    refine (map_congr_left ?_).trans (map_id _)
    intro row stored
    rw [idle row stored]
    rfl
  rw [updateOutbox, unchanged]

theorem Superseded.deliverBatch_idle (superseded : Superseded db id claimToken)
    (claimVersion : Nat) (nowMs : Int) (outbox : OutboxRow) (op : Operation) :
    deliverBatch id claimToken claimVersion nowMs outbox op db = db := by
  have unheld : db.outbox.any (heldBy id claimToken claimVersion) = false := by
    rw [any_eq_false]
    intro row stored
    rw [superseded.not_held claimVersion stored]
    exact Bool.false_ne_true
  simp only [deliverBatch, unheld, Bool.and_false, Bool.false_eq_true, if_false, map_id']
  exact updateOutbox_idle _ fun row stored => superseded.not_held claimVersion stored

/-- A release or finalize call changes nothing once its token is superseded. -/
theorem Superseded.advance_idle {call : OutboxCall}
    (superseded : Superseded db id claimToken) (owner : call.owner = some (id, claimToken))
    (fault : Bool) (phase : OutboxPhase) : (call.advance fault db phase).1 = db := by
  cases call with
  | begin_ | claim | recordAttempt => simp [OutboxCall.owner] at owner
  | release ownId ownToken claimVersion =>
    obtain ⟨rfl, rfl⟩ := owner
    simp only [OutboxCall.advance]
    cases phase with
    | start =>
      rw [advanceRelease]
      split
      · rfl
      · split
        · rfl
        · exact updateOutbox_idle _ fun row stored => superseded.not_held claimVersion stored
    | _ => rfl
  | finalize ownId ownToken claimVersion nowMs =>
    obtain ⟨rfl, rfl⟩ := owner
    simp only [OutboxCall.advance]
    cases phase with
    | finalizeBatch outbox op =>
      have idle := superseded.deliverBatch_idle claimVersion nowMs outbox op
      rw [advanceFinalize]
      split
      · rfl
      · split <;> exact idle
    | _ =>
      simp only [advanceFinalize]
      repeat' split
      all_goals rfl

/-! ## Claims -/

/-- A claim that takes the row raises its version by one and leaves its own token on it. -/
theorem OneRow.claim_raises (one : OneRow db) {nowMs : Int} {fault : Bool}
    (taken : (advanceClaim id claimToken nowMs fault db .start).2 = .claimRead) :
    ∃ old new, db.getMcpApprovalOutbox id = some old ∧
      (advanceClaim id claimToken nowMs fault db .start).1.getMcpApprovalOutbox id = some new ∧
      new.claimVersion = old.claimVersion + 1 ∧ new.claimToken = some claimToken := by
  rw [advanceClaim] at taken ⊢
  split at taken
  · simp at taken
  next sound =>
    split at taken
    next claimable =>
      obtain ⟨row, stored, selected⟩ := any_eq_true.mp claimable
      have isRow : row.id = id := by
        simp only [claimableAt, Bool.and_eq_true, decide_eq_true_eq] at selected
        exact selected.1
      have found : db.getMcpApprovalOutbox id = some row :=
        one.ids.find?_eq_some_iff.mpr ⟨stored, isRow⟩
      refine ⟨row, claimRow claimToken nowMs row, found, ?_, rfl, rfl⟩
      rw [if_neg sound, if_pos claimable]
      rw [getMcpApprovalOutbox] at found ⊢
      simp only [updateOutbox]
      rw [find?_key_map ?_, found, Option.map_some, if_pos selected]
      intro other
      split <;> rfl
    · simp at taken

/-! ## Steps -/

variable {ι : Type} [DecidableEq ι] {calls : ι → OutboxCall} {s t : OutboxState ι}
  {turn : OutboxTurn ι}

/-- What one statement of any call leaves in force. -/
structure SafeStep (calls : ι → OutboxCall) (s : OutboxState ι) (turn : OutboxTurn ι)
    (t : OutboxState ι) : Prop where
  /-- A row stays, with its decision; once delivered it stays as it is. -/
  rows : ∀ id old, s.db.getMcpApprovalOutbox id = some old →
    ∃ new, t.db.getMcpApprovalOutbox id = some new ∧ Carries old new
  /-- A claim that takes the row raises its version. -/
  claims : ∀ id claimToken nowMs, calls turn.call = .claim id claimToken nowMs →
    s.phase turn.call = .start → t.phase turn.call = .claimRead →
    ∃ old new, s.db.getMcpApprovalOutbox id = some old ∧ t.db.getMcpApprovalOutbox id = some new ∧
      new.claimVersion = old.claimVersion + 1 ∧ new.claimToken = some claimToken
  /-- A release or finalize call with a superseded token changes nothing. -/
  superseded : ∀ id claimToken, (calls turn.call).owner = some (id, claimToken) →
    Superseded s.db id claimToken → t.db = s.db

theorem OutboxState.after_phase_self (calls : ι → OutboxCall) (s : OutboxState ι)
    (turn : OutboxTurn ι) : (s.after calls turn).phase turn.call =
      ((calls turn.call).advance turn.fault s.db (s.phase turn.call)).2 :=
  Function.update_self _ _ _

theorem OutboxState.after_phase_other (calls : ι → OutboxCall) (s : OutboxState ι)
    {j : ι} (other : j ≠ turn.call) : (s.after calls turn).phase j = s.phase j :=
  Function.update_of_ne other _ _

theorem OneRow.after (one : OneRow s.db) (turn : OutboxTurn ι) : OneRow (s.after calls turn).db :=
  one.change (advance_change _ _ _ _)

theorem OneRow.safeStep (one : OneRow s.db) (turn : OutboxTurn ι) :
    SafeStep calls s turn (s.after calls turn) where
  rows := by
    intro id old found
    have change := advance_change turn.fault s.db (s.phase turn.call) (calls turn.call)
    exact change.carries found
  claims := by
    intro id claimToken nowMs isClaim start taken
    rw [after_phase_self, isClaim, start] at taken
    have raised := one.claim_raises taken
    simp only [OutboxState.after, isClaim, start]
    exact raised
  superseded := by
    intro id claimToken owner superseded
    exact superseded.advance_idle owner turn.fault (s.phase turn.call)

/-! ## Tokens answered -/

/-- A claim call has been answered with the token. -/
def Returned (s : OutboxState ι) (i : ι) (token : String) : Prop :=
  ∃ row, s.phase i = .done (.claimed (some row)) ∧ row.claimToken = some token

/-- No two claim calls have been answered with one token. -/
def TokensDistinct (s : OutboxState ι) : Prop :=
  ∀ i j token, Returned s i token → Returned s j token → i = j

/-- The turn is the reading of a claim call of the row, and finds the token on it. -/
def ReadsBack (calls : ι → OutboxCall) (s : OutboxState ι) (turn : OutboxTurn ι)
    (id token : String) : Prop :=
  ∃ own nowMs row, calls turn.call = .claim id own nowMs ∧
    s.phase turn.call = .claimRead ∧ readOutbox turn.fault s.db id = some row ∧
    row.claimToken = some token

/-- The turn takes the row for a claim, with the token. -/
def TakesRow (calls : ι → OutboxCall) (s : OutboxState ι) (turn : OutboxTurn ι)
    (id token : String) : Prop :=
  (calls turn.call).takes turn.fault s.db (s.phase turn.call) = some (id, token)

/-- Only the reading of a claim call is answered with a row of the outbox. -/
theorem advance_claimed {call : OutboxCall} {fault : Bool} {phase : OutboxPhase}
    (answered : (call.advance fault db phase).2 = .done (.claimed (some row))) :
    phase = .done (.claimed (some row)) ∨
      ∃ id own nowMs, call = .claim id own nowMs ∧ phase = .claimRead ∧
        readOutbox fault db id = some row := by
  cases call with
  | claim id own nowMs =>
    simp only [OutboxCall.advance] at answered
    cases phase with
    | claimRead =>
      simp only [advanceClaim, OutboxPhase.done.injEq, OutboxAnswer.claimed.injEq] at answered
      exact .inr ⟨id, own, nowMs, rfl, rfl, answered⟩
    | start =>
      rw [advanceClaim] at answered
      repeat' split at answered
      all_goals simp at answered
    | _ => exact .inl answered
  | _ =>
    left
    simp only [OutboxCall.advance] at answered
    cases phase <;> simp only [advanceBegin, advanceRelease, advanceAttempt, advanceFinalize]
      at answered
    case done => exact answered
    all_goals repeat' split at answered
    all_goals simp at answered

/-- The answers after a turn are those before it and the one the turn reads back. -/
theorem returned_after_iff (turn : OutboxTurn ι) (j : ι) (token : String) :
    Returned (s.after calls turn) j token ↔
      Returned s j token ∨ (j = turn.call ∧ ∃ id, ReadsBack calls s turn id token) := by
  constructor
  · rintro ⟨row, answered, carried⟩
    by_cases own : j = turn.call
    · subst own
      rw [after_phase_self] at answered
      rcases advance_claimed answered with earlier | ⟨id, mine, nowMs, isClaim, reading, found⟩
      · exact .inl ⟨row, earlier, carried⟩
      · exact .inr ⟨rfl, id, mine, nowMs, row, isClaim, reading, found, carried⟩
    · rw [after_phase_other calls s own] at answered
      exact .inl ⟨row, answered, carried⟩
  · rintro (⟨row, answered, carried⟩ | ⟨rfl, reads⟩)
    · refine ⟨row, ?_, carried⟩
      by_cases own : j = turn.call
      · subst own
        rw [after_phase_self, answered]
        cases calls turn.call <;> rfl
      · rw [after_phase_other calls s own, answered]
    · obtain ⟨id, mine, nowMs, row, isClaim, reading, found, carried⟩ := reads
      refine ⟨row, ?_, carried⟩
      rw [after_phase_self, isClaim, reading]
      simp only [OutboxCall.advance, advanceClaim, found]

omit [DecidableEq ι] in
theorem ReadsBack.not_returned {token other : String}
    (reads : ReadsBack calls s turn id token) : ¬ Returned s turn.call other := by
  rintro ⟨row, answered, -⟩
  obtain ⟨own, nowMs, found, -, reading, -⟩ := reads
  rw [reading] at answered
  cases answered

omit [DecidableEq ι] in
theorem ReadsBack.tokenOf {token : String} (reads : ReadsBack calls s turn id token) :
    s.db.tokenOf id = some token := by
  obtain ⟨own, nowMs, row, -, -, found, carried⟩ := reads
  rw [readOutbox] at found
  split at found
  · cases found
  · rw [ApprovalDatabase.tokenOf, found]
    exact carried

theorem ReadsBack.after_db {token : String} (reads : ReadsBack calls s turn id token) :
    (s.after calls turn).db = s.db := by
  obtain ⟨own, nowMs, row, isClaim, reading, -⟩ := reads
  simp only [OutboxState.after, isClaim, reading]
  rfl

/-! ## Taking a row -/

theorem token_after (turn : OutboxTurn ι) (id : String) :
    (s.after calls turn).db.tokenOf id = s.db.tokenOf id ∨
      (s.after calls turn).db.tokenOf id = none ∨
      ∃ token, TakesRow calls s turn id token ∧
        (s.after calls turn).db.tokenOf id = some token :=
  (advance_change turn.fault s.db (s.phase turn.call) (calls turn.call)).token id

theorem TakesRow.isClaim {token : String} (takes : TakesRow calls s turn id token) :
    ∃ nowMs, calls turn.call = .claim id token nowMs ∧ s.phase turn.call = .start ∧
      (s.after calls turn).phase turn.call = .claimRead := by
  rw [TakesRow] at takes
  cases isCall : calls turn.call with
  | claim id' token' nowMs =>
    rw [isCall] at takes
    cases phase : s.phase turn.call with
    | start =>
      rw [phase, OutboxCall.takes] at takes
      split at takes
      next taking =>
        obtain ⟨rfl, rfl⟩ := Prod.mk.inj (Option.some.inj takes)
        simp only [Bool.and_eq_true, Bool.not_eq_true'] at taking
        refine ⟨nowMs, rfl, rfl, ?_⟩
        rw [after_phase_self, isCall, phase, OutboxCall.advance, advanceClaim, taking.1,
          if_neg Bool.false_ne_true, if_pos taking.2]
      next => cases takes
    | _ =>
      rw [phase] at takes
      cases takes
  | _ =>
    rw [isCall] at takes
    cases takes

theorem TakesRow.tokenOf {token : String} (one : OneRow s.db)
    (takes : TakesRow calls s turn id token) :
    (s.after calls turn).db.tokenOf id = some token := by
  obtain ⟨nowMs, isClaim, start, taken⟩ := takes.isClaim
  obtain ⟨_, new, -, found, -, carried⟩ :=
    (one.safeStep turn).claims id token nowMs isClaim start taken
  rw [ApprovalDatabase.tokenOf, found]
  exact carried

/-- A call that is about to read has just taken its row. -/
theorem takesRow_of_claimRead {own : String} {nowMs : Int}
    (isClaim : calls turn.call = .claim id own nowMs)
    (reading : (s.after calls turn).phase turn.call = .claimRead) :
    TakesRow calls s turn id own := by
  rw [after_phase_self, isClaim] at reading
  rw [TakesRow, isClaim]
  cases phase : s.phase turn.call with
  | start =>
    rw [phase, OutboxCall.advance, advanceClaim] at reading
    split at reading
    · cases reading
    next sound =>
      split at reading
      next claimable => simp [OutboxCall.takes, sound, claimable]
      next => cases reading
  | claimRead =>
    rw [phase] at reading
    cases reading
  | _ =>
    rw [phase] at reading
    cases reading

/-- A claim call that has begun does not begin again. -/
theorem started_after {k : ι} {token : String} {nowMs : Int}
    (isClaim : calls k = .claim id token nowMs) (started : s.phase k ≠ .start)
    (turn : OutboxTurn ι) : (s.after calls turn).phase k ≠ .start := by
  by_cases own : k = turn.call
  · subst own
    rw [after_phase_self, isClaim, OutboxCall.advance]
    cases phase : s.phase turn.call with
    | start => exact absurd phase started
    | _ => exact fun same => nomatch same
  · rwa [after_phase_other calls s own]

/-- The token on a row that a call is about to read was drawn by a claim that has begun. -/
def Drawn (calls : ι → OutboxCall) (s : OutboxState ι) : Prop :=
  ∀ i id own nowMs token, calls i = .claim id own nowMs → s.phase i = .claimRead →
    s.db.tokenOf id = some token → ∃ k nowMs', calls k = .claim id token nowMs' ∧ s.phase k ≠ .start

theorem Drawn.after (drawn : Drawn calls s) (one : OneRow s.db) (turn : OutboxTurn ι) :
    Drawn calls (s.after calls turn) := by
  intro i id own nowMs token isClaim reading carried
  rcases token_after turn id with same | gone | ⟨token', takes, left⟩
  · by_cases mine : i = turn.call
    · subst mine
      have takes := takesRow_of_claimRead isClaim reading
      obtain rfl := Option.some.inj ((takes.tokenOf one).symm.trans carried)
      exact ⟨turn.call, nowMs, isClaim, by rw [reading]; exact fun same => nomatch same⟩
    · rw [after_phase_other calls s mine] at reading
      obtain ⟨k, nowMs', isDrawer, started⟩ :=
        drawn i id own nowMs token isClaim reading (same.symm.trans carried)
      exact ⟨k, nowMs', isDrawer, started_after isDrawer started turn⟩
  · cases gone.symm.trans carried
  · obtain rfl := Option.some.inj (left.symm.trans carried)
    obtain ⟨nowMs', isDrawer, -, reads⟩ := takes.isClaim
    exact ⟨turn.call, nowMs', isDrawer, by rw [reads]; exact fun same => nomatch same⟩

/-- The random tokens of the claim calls are distinct. -/
def FreshTokens (calls : ι → OutboxCall) : Prop :=
  ∀ i j id nowMs id' nowMs' token, calls i = .claim id token nowMs →
    calls j = .claim id' token nowMs' → i = j

/-- While no claim takes the row, its token stays or is cleared. -/
theorem token_of_untaken {turns : List (OutboxTurn ι)} {token : String}
    (run : Run (OutboxStep calls) s turns t) (carried : s.db.tokenOf id = some token)
    (untaken : ∀ mid turn token', Run.Takes (OutboxStep calls) s turns mid turn →
      ¬ TakesRow calls mid turn id token') :
    t.db.tokenOf id = some token ∨ t.db.tokenOf id = none := by
  refine run.invariant_where (I := fun mid => mid.db.tokenOf id = some token ∨
    mid.db.tokenOf id = none) (C := fun mid turn => ∀ token', ¬ TakesRow calls mid turn id token')
    ?_ (.inl carried) fun mid turn takes token' => untaken mid turn token' takes
  rintro a turn b held each rfl
  rcases token_after turn id with same | gone | ⟨token', takes, -⟩
  · rwa [same]
  · exact .inr gone
  · exact absurd takes (each token')

/-- Once another claim has taken the row, the token of a claim that has begun is gone for good. -/
theorem token_of_retaken {turns : List (OutboxTurn ι)} {k : ι} {token : String} {nowMs : Int}
    (fresh : FreshTokens calls) (one : OneRow s.db) (isDrawer : calls k = .claim id token nowMs)
    (started : s.phase k ≠ .start) {token' : String} (takes : TakesRow calls s turn id token')
    (run : Run (OutboxStep calls) (s.after calls turn) turns t) :
    t.db.tokenOf id ≠ some token := by
  have other : ∀ {a : OutboxState ι} {turn token'}, a.phase k ≠ .start →
      TakesRow calls a turn id token' → token' ≠ token := by
    rintro a turn token' begun takes rfl
    obtain ⟨nowMs', isTaker, fromStart, -⟩ := takes.isClaim
    obtain rfl := fresh _ _ _ _ _ _ _ isTaker isDrawer
    exact begun fromStart
  have start : (s.after calls turn).db.tokenOf id ≠ some token := by
    rw [takes.tokenOf one]
    exact fun same => other started takes (Option.some.inj same)
  refine (run.invariant (I := fun mid => mid.db.tokenOf id ≠ some token ∧ mid.phase k ≠ .start) ?_
    ⟨start, started_after isDrawer started turn⟩).1
  rintro a turn b ⟨absent, begun⟩ rfl
  refine ⟨?_, started_after isDrawer begun turn⟩
  rcases token_after turn id with same | gone | ⟨token', taken, left⟩
  · rwa [same]
  · rw [gone]
    exact fun same => nomatch same
  · rw [left]
    exact fun same => other begun taken (Option.some.inj same)

/-! ## Runs -/

/-- In the run, the turn `first` is taken in `a` and, after the turns `between`, `second` in
`b`. -/
def InOrder (calls : ι → OutboxCall) (s : OutboxState ι) (turns : List (OutboxTurn ι))
    (a : OutboxState ι) (first : OutboxTurn ι) (between : List (OutboxTurn ι)) (b : OutboxState ι)
    (second : OutboxTurn ι) : Prop :=
  ∃ before after, turns = before ++ first :: (between ++ second :: after) ∧
    Run (OutboxStep calls) s before a ∧ Run (OutboxStep calls) (a.after calls first) between b

/-- A claim takes the row in the run. -/
def Retaken (calls : ι → OutboxCall) (s : OutboxState ι) (turns : List (OutboxTurn ι))
    (id : String) : Prop :=
  ∃ mid turn token, Run.Takes (OutboxStep calls) s turns mid turn ∧ TakesRow calls mid turn id token

/-- The token that a call has been answered with was read back in the run. -/
theorem reading_of_returned {turns : List (OutboxTurn ι)} {i : ι} {token : String}
    (run : Run (OutboxStep calls) s turns t) (silent : ¬ Returned s i token)
    (returned : Returned t i token) :
    ∃ before turn after a, turns = before ++ turn :: after ∧ Run (OutboxStep calls) s before a ∧
      turn.call = i ∧ (∃ id, ReadsBack calls a turn id token) ∧
      Run (OutboxStep calls) (a.after calls turn) after t := by
  have broken := run.lasts_or_breaks (I := fun mid => ¬ Returned mid i token)
    (B := fun a turn _ => turn.call = i ∧ ∃ id, ReadsBack calls a turn id token) ?_ silent
  · rcases broken with never | ⟨before, turn, after, a, _, split, reached, rfl, ⟨own, reads⟩, rest⟩
    · exact absurd returned never
    · exact ⟨before, turn, after, a, split, reached, own, reads, rest⟩
  · rintro a turn _ unanswered rfl
    by_cases answered : Returned (a.after calls turn) i token
    · rcases (returned_after_iff turn i token).mp answered with earlier | ⟨rfl, reads⟩
      · exact absurd earlier unanswered
      · exact .inr ⟨rfl, reads⟩
    · exact .inl answered

/-- The rows are keyed and the tokens drawn, from start to end. -/
theorem kept_of_run {turns : List (OutboxTurn ι)} (one : OneRow s.db) (drawn : Drawn calls s)
    (run : Run (OutboxStep calls) s turns t) : OneRow t.db ∧ Drawn calls t := by
  refine run.invariant (I := fun mid => OneRow mid.db ∧ Drawn calls mid) ?_ ⟨one, drawn⟩
  rintro a turn _ ⟨one, drawn⟩ rfl
  exact ⟨one.after turn, drawn.after one turn⟩

/-- Two readings of one token are of one row, and no claim takes it between them. -/
theorem not_retaken {between : List (OutboxTurn ι)} {a b : OutboxState ι}
    {first second : OutboxTurn ι} {id' token : String} (fresh : FreshTokens calls)
    (one : OneRow a.db) (drawn : Drawn calls a) (reads : ReadsBack calls a first id token)
    (run : Run (OutboxStep calls) (a.after calls first) between b)
    (again : ReadsBack calls b second id' token) :
    id' = id ∧ ¬ Retaken calls (a.after calls first) between id := by
  have one' : OneRow (a.after calls first).db := one.after first
  have drawn' := drawn.after one first
  have ⟨own, nowMs, _, isClaim, reading, _⟩ := reads
  obtain ⟨k, drawnAt, isDrawer, started⟩ := drawn _ _ _ _ _ isClaim reading reads.tokenOf
  have ⟨own', nowMs', _, isClaim', reading', _⟩ := again
  obtain ⟨k', drawnAt', isDrawer', -⟩ :=
    (kept_of_run one' drawn' run).2 _ _ _ _ _ isClaim' reading' again.tokenOf
  obtain rfl := fresh _ _ _ _ _ _ _ isDrawer isDrawer'
  obtain ⟨rfl, -⟩ := claim.inj (isDrawer.symm.trans isDrawer')
  refine ⟨rfl, ?_⟩
  rintro ⟨mid, turn, token', ⟨before, after, rfl, reached⟩, takes⟩
  obtain ⟨mid', _, reached', rfl, rest⟩ := run.split_at
  obtain rfl := reached.deterministic (fun _ _ _ _ left right => left.trans right.symm) reached'
  have begun : mid.phase k ≠ .start := by
    refine reached.invariant (I := fun m => m.phase k ≠ .start) ?_
      (started_after isDrawer started first)
    rintro m turn _ begun rfl
    exact started_after isDrawer begun turn
  exact token_of_retaken fresh (kept_of_run one' drawn' reached).1 isDrawer begun takes rest
    again.tokenOf

section Throughout

variable {turns : List (OutboxTurn ι)} (fresh : FreshTokens calls) (one : OneRow s.db)
  (start : ∀ i, s.phase i = .start) (run : Run (OutboxStep calls) s turns t)

include start in
omit [DecidableEq ι] in
theorem not_returned_start (i : ι) (token : String) : ¬ Returned s i token := by
  rintro ⟨row, answered, -⟩
  rw [start i] at answered
  cases answered

include start in
omit [DecidableEq ι] in
theorem drawn_start : Drawn calls s := by
  intro i _ _ _ _ _ reading
  rw [start i] at reading
  cases reading

include run in
/-- With distinct answers throughout, the row is taken between two readings. -/
theorem retaken_of_distinct {a b : OutboxState ι} {first second : OutboxTurn ι}
    {between : List (OutboxTurn ι)} {token token' : String}
    (distinct : ∀ mid, Run.Visits (OutboxStep calls) s turns mid → TokensDistinct mid)
    (order : InOrder calls s turns a first between b second)
    (reads : ReadsBack calls a first id token) (again : ReadsBack calls b second id token') :
    Retaken calls (a.after calls first) between id := by
  obtain ⟨before, after, rfl, reached, middle⟩ := order
  by_contra untaken
  have carried : (a.after calls first).db.tokenOf id = some token := by
    rw [reads.after_db]
    exact reads.tokenOf
  have kept := token_of_untaken middle carried fun mid turn token' takes takesRow =>
    untaken ⟨mid, turn, token', takes, takesRow⟩
  rw [again.tokenOf] at kept
  obtain rfl := Option.some.inj (kept.resolve_right (fun none => nomatch none))
  have mine : Returned b first.call token' := by
    refine middle.invariant (I := fun mid => Returned mid first.call token') ?_
      ((returned_after_iff first _ _).mpr (.inr ⟨rfl, id, reads⟩))
    rintro m turn _ held rfl
    exact (returned_after_iff turn _ _).mpr (.inl held)
  have last := distinct (b.after calls second) ⟨before ++ first :: (between ++ [second]), after,
    by simp, reached.append (.next rfl (middle.append (.next rfl (.done _))))⟩
  have same := last _ _ token' ((returned_after_iff second _ _).mpr (.inl mine))
    ((returned_after_iff second second.call _).mpr (.inr ⟨rfl, id, again⟩))
  exact again.not_returned (same ▸ mine)

include fresh one start run

/-- Where the row is taken between any two readings of it, answers are distinct. -/
theorem distinct_of_retaken
    (each : ∀ a first between b second id token token',
      InOrder calls s turns a first between b second → ReadsBack calls a first id token →
      ReadsBack calls b second id token' → Retaken calls (a.after calls first) between id)
    {mid : OutboxState ι} (visits : Run.Visits (OutboxStep calls) s turns mid) :
    TokensDistinct mid := by
  obtain ⟨upTo, later, rfl, reached⟩ := visits
  -- two readings of one token, in order, contradict each other
  have apart (after : List (OutboxTurn ι)) {before between : List (OutboxTurn ι)}
      {a b : OutboxState ι} {first second : OutboxTurn ι} {id id' token : String}
      (split : upTo = before ++ first :: (between ++ second :: after))
      (toFirst : Run (OutboxStep calls) s before a) (reads : ReadsBack calls a first id token)
      (middle : Run (OutboxStep calls) (a.after calls first) between b)
      (again : ReadsBack calls b second id' token) : False := by
    obtain ⟨oneA, drawnA⟩ := kept_of_run one (drawn_start start) toFirst
    obtain ⟨rfl, untaken⟩ := not_retaken fresh oneA drawnA reads middle again
    refine untaken (each a first between b second _ token token
      ⟨before, after ++ later, ?_, toFirst, middle⟩ reads again)
    rw [split]
    simp
  intro i j token left right
  by_contra differ
  obtain ⟨before, turn, after, a, split, toA, rfl, ⟨id, reads⟩, rest⟩ :=
    reading_of_returned reached (not_returned_start start i token) left
  by_cases already : Returned (a.after calls turn) j token
  · -- the other call has read before
    have earlier : Returned a j token :=
      ((returned_after_iff turn j token).mp already).resolve_right
        fun own => differ own.1.symm
    obtain ⟨before', turn', between, a', split', toA', rfl, ⟨id', reads'⟩, middle⟩ :=
      reading_of_returned toA (not_returned_start start j token) earlier
    refine apart after ?_ toA' reads' middle reads
    rw [split, split']
    simp
  · obtain ⟨between, turn', after', b, split', middle, rfl, ⟨id', again⟩, -⟩ :=
      reading_of_returned rest already right
    refine apart after' ?_ toA reads middle again
    rw [split, split']

/-- Where no other claim takes the row between the update of a claim and its reading, answers
are distinct. -/
theorem distinct_of_undisturbed
    (each : ∀ a first between b second id own token,
      InOrder calls s turns a first between b second → first.call = second.call →
      TakesRow calls a first id own → ReadsBack calls b second id token →
      ¬ Retaken calls (a.after calls first) between id)
    {mid : OutboxState ι} (visits : Run.Visits (OutboxStep calls) s turns mid) :
    TokensDistinct mid := by
  obtain ⟨upTo, later, rfl, reached⟩ := visits
  -- a claim call is answered with the token it has drawn
  have own {i : ι} {token : String} (returned : Returned mid i token) :
      ∃ id nowMs, calls i = .claim id token nowMs := by
    obtain ⟨toRead, turn, after, b, split, toB, rfl, ⟨id, reads⟩, -⟩ :=
      reading_of_returned reached (not_returned_start start i token) returned
    have ⟨mine, nowMs, _, isClaim, reading, _⟩ := reads
    have broken := toB.lasts_or_breaks (I := fun m => m.phase turn.call ≠ .claimRead)
      (B := fun a first _ => first.call = turn.call ∧ TakesRow calls a first id mine) ?_
      (by rw [start]; exact fun same => nomatch same)
    · rcases broken with
        never | ⟨before, first, between, a, _, split', toA, rfl, ⟨same, takes⟩, rest⟩
      · exact absurd reading never
      · obtain ⟨oneA, -⟩ := kept_of_run one (drawn_start start) toA
        have untaken := each a first between b turn id mine token ⟨before, after ++ later, by
          rw [split, split']; simp, toA, rest⟩ same takes reads
        have kept := token_of_untaken rest (takes.tokenOf oneA) fun m turn token' taken takesRow =>
          untaken ⟨m, turn, token', taken, takesRow⟩
        rw [reads.tokenOf] at kept
        obtain rfl := Option.some.inj (kept.resolve_right (fun none => nomatch none))
        exact ⟨id, nowMs, isClaim⟩
    · rintro m first _ unread rfl
      by_cases now : (m.after calls first).phase turn.call = .claimRead
      · by_cases same : turn.call = first.call
        · rw [same] at now isClaim
          exact .inr ⟨same.symm, takesRow_of_claimRead isClaim now⟩
        · rw [after_phase_other calls m same] at now
          exact absurd now unread
      · exact .inl now
  intro i j token left right
  obtain ⟨id, nowMs, isClaim⟩ := own left
  obtain ⟨id', nowMs', isClaim'⟩ := own right
  exact fresh i j id nowMs id' nowMs' token isClaim isClaim'

end Throughout

/-- **Approval outbox delivery.**  In every run of the statements of any number of calls on an
outbox with its unique columns: an operation has at most one row; and each statement leaves the
rows, their decisions and the delivered ones in force, raises the version of a row it claims,
and does nothing for a superseded claim.  With random tokens, the claim calls are answered with
distinct tokens throughout exactly when, between any two readings that find a row claimed, a claim
takes that row.  It suffices that no other claim takes the row, its lease having run out, between
the update of a claim and its reading. -/
theorem approval_outbox_delivery (calls : ι → OutboxCall) {s t : OutboxState ι}
    {turns : List (OutboxTurn ι)} (one : OneRow s.db) (start : ∀ i, s.phase i = .start)
    (run : Run (OutboxStep calls) s turns t) :
    (∀ mid, Run.Visits (OutboxStep calls) s turns mid → OneRow mid.db) ∧
    (∀ mid turn, Run.Takes (OutboxStep calls) s turns mid turn →
      SafeStep calls mid turn (mid.after calls turn)) ∧
    (FreshTokens calls →
      ((∀ mid, Run.Visits (OutboxStep calls) s turns mid → TokensDistinct mid) ↔
        ∀ a first between b second id token token',
          InOrder calls s turns a first between b second → ReadsBack calls a first id token →
          ReadsBack calls b second id token' → Retaken calls (a.after calls first) between id) ∧
      ((∀ a first between b second id own token,
          InOrder calls s turns a first between b second → first.call = second.call →
          TakesRow calls a first id own → ReadsBack calls b second id token →
          ¬ Retaken calls (a.after calls first) between id) →
        ∀ mid, Run.Visits (OutboxStep calls) s turns mid → TokensDistinct mid)) := by
  have keyed : ∀ mid, Run.Visits (OutboxStep calls) s turns mid → OneRow mid.db := by
    intro mid visits
    refine visits.invariant (I := fun state => OneRow state.db) ?_ one
    rintro a turn b held rfl
    exact held.after turn
  refine ⟨keyed, fun mid turn takes => (keyed mid takes.visits).safeStep turn,
    fun fresh => ⟨?_, ?_⟩⟩
  · constructor
    · intro distinct a first between b second id token token' order reads again
      exact retaken_of_distinct run distinct order reads again
    · exact fun each mid visits => distinct_of_retaken fresh one start run each visits
  · exact fun each mid visits => distinct_of_undisturbed fresh one start run each visits

/-! ## Two workers -/

/-- A pending decision. -/
def pendingRow : OutboxRow where
  id := "apr_1"
  operationId := "op_1"
  principalId := "prn_1"
  tenantId := "ten_1"
  deviceId := none
  decision := .approve
  correlationId := "cor_apr_1"
  deliveryStatus := .pending
  attempts := 0
  lastError := none
  createdAt := 0
  deliveredAt := none
  claimedAt := none
  claimToken := none
  claimVersion := 0

/-- Two workers claim the row, the second one when the lease of the first has run out. -/
def twoWorkers : Bool → OutboxCall
  | false => .claim "apr_1" "clm_a" 0
  | true => .claim "apr_1" "clm_b" 30000

def onePending : OutboxState Bool where
  db := { transactions := [], outbox := [pendingRow], operations := [] }
  phase := fun _ => .start

/-- Both workers claim, then both read. -/
def claimTwiceThenRead : List (OutboxTurn Bool) :=
  [⟨false, false⟩, ⟨true, false⟩, ⟨false, false⟩, ⟨true, false⟩]

theorem onePending_oneRow : OneRow onePending.db :=
  { ids := pairwise_singleton _ _, operations := pairwise_singleton _ _ }

theorem twoWorkers_fresh : FreshTokens twoWorkers := by
  intro i j id nowMs id' nowMs' token left right
  cases i <;> cases j
  case false.false | true.true => rfl
  all_goals
    obtain ⟨-, rfl, -⟩ := claim.inj left
    exact absurd (claim.inj right).2.1 (by decide)

/-- Two claim calls with their own random tokens are answered with one token. -/
theorem claims_share_token : FreshTokens twoWorkers ∧
      ∃ t, Run (OutboxStep twoWorkers) onePending claimTwiceThenRead t ∧
        Returned t false "clm_b" ∧ Returned t true "clm_b" := by
  have run := Run.played (after twoWorkers) claimTwiceThenRead onePending
  refine ⟨twoWorkers_fresh, _, run, ?_, ?_⟩
  · exact ⟨claimRow "clm_b" 30000 (claimRow "clm_a" 0 pendingRow), rfl, rfl⟩
  · exact ⟨claimRow "clm_b" 30000 (claimRow "clm_a" 0 pendingRow), rfl, rfl⟩

/-- Between the readings of the two workers no claim takes the row. -/
theorem approval_outbox_delivery_two_workers :
    ¬ ∀ a first between b second id token token',
      InOrder twoWorkers onePending claimTwiceThenRead a first between b second →
      ReadsBack twoWorkers a first id token → ReadsBack twoWorkers b second id token' →
        Retaken twoWorkers (a.after twoWorkers first) between id := by
  have run := Run.played (after twoWorkers) claimTwiceThenRead onePending
  intro each
  have distinct := ((approval_outbox_delivery twoWorkers onePending_oneRow (fun _ => rfl)
    run).2.2 twoWorkers_fresh).1.mpr each _ ⟨claimTwiceThenRead, [], rfl, run⟩
  have same := distinct false true "clm_b"
    ⟨claimRow "clm_b" 30000 (claimRow "clm_a" 0 pendingRow), rfl, rfl⟩
    ⟨claimRow "clm_b" 30000 (claimRow "clm_a" 0 pendingRow), rfl, rfl⟩
  exact Bool.false_ne_true same

end OwnMesh.ControlPlane
