import OwnMesh.ControlPlane.ApprovalOutbox

/-!
# Refused approval requests

The handler of an approval request first consumes the transaction and writes the outbox row of
the decision, in one batch, and only then compares tenant, approver, authority, operation and
status.  So a refusal leaves no decision exactly when the batch found the transaction closed
(`refused_post_iff`); `mismatched_post_decides` is a request that is refused because it names
another operation, and approves its own.
-/

namespace OwnMesh.ControlPlane

open List

/-- An approval request: the authenticated human, and what was posted. -/
structure ApprovalPost where
  (principalId tenantId : String)
  decision : HumanDecision
  (transactionId csrfHash : String)
  expectedOperationId : Option String := none
  allowedOperationIds : Option (List String) := none

/-- A refusal; for a delivered decision it shows the row and the status of the operation. -/
structure PostRefusal where
  status : Nat
  (error description : String)
  authoritative : Option (OutboxRow × Option OperationStatus) := none

section Handler

/- `authorize` is what the handler asks about the approver: `authorizeMcpApprover` and whether the
approver's authority is available.  Both only read the principals. -/
variable (authorize : Operation → Option PostRefusal) (post : ApprovalPost) (nowMs : Int)
  (db : ApprovalDatabase)

def ApprovalPost.consume : ApprovalDatabase :=
  consumeTransaction post.transactionId post.csrfHash post.principalId post.decision nowMs db

/-- The batch of the begin call. -/
def ApprovalPost.batch : ApprovalDatabase :=
  insertOutbox post.transactionId post.csrfHash post.principalId post.decision nowMs
    (post.consume nowMs db)

/-- The begin call of the request, without interruption or failure. -/
def ApprovalPost.beginMcpApprovalOutbox : ApprovalDatabase × Option BeginResult :=
  match db.getMcpApprovalOutbox post.transactionId with
  | some outbox =>
    (db, resumeBegin post.csrfHash post.principalId post.decision outbox
      (db.getTransaction post.transactionId))
  | none =>
    let written := post.batch nowMs db
    (written, do
      let outbox ← written.getMcpApprovalOutbox post.transactionId
      if db.transactions.any (consumable post.transactionId post.csrfHash post.principalId nowMs
          db.outbox) && (post.consume nowMs db).transactions.any (insertable post.transactionId
            post.csrfHash post.principalId post.decision db.outbox) then
        let tx ← written.getTransaction post.transactionId
        some (.created outbox { tx with decision := some post.decision })
      else
        resumePeer post.csrfHash post.principalId post.decision outbox
          (written.getTransaction post.transactionId))

/-- The checks between the begin call and the claim. -/
def checkStarted (outbox : OutboxRow) (tx : ApprovalTransaction) (created : Bool) :
    Except PostRefusal OutboxRow :=
  if tx.tenantId ≠ post.tenantId || outbox.tenantId ≠ post.tenantId then
    .error { status := 403, error := "forbidden", description := "tenant mismatch" }
  else if tx.principalId ≠ post.principalId || outbox.principalId ≠ post.principalId then
    .error { status := 403, error := "forbidden", description := "approver mismatch" }
  else
    match db.getMcpOperation outbox.operationId with
    | none => .error { status := 404, error := "not_found", description := "operation not found" }
    | some op =>
      match authorize op with
      | some denied => .error denied
      | none =>
        if (post.expectedOperationId.any fun id => id ≠ "" && id ≠ op.operationId) ||
            post.allowedOperationIds.any fun ids => !ids.contains op.operationId then
          .error
            { status := 400, error := "invalid_request", description := "operation_id mismatch" }
        else if op.status ≠ .approvalRequired && created then
          .error { status := 409, error := "conflict", description := "operation already decided" }
        else .ok outbox

/-- What the handler makes of the answer to its begin call: a refusal, or the row to claim. -/
def answerStarted : Option BeginResult → Except PostRefusal OutboxRow
  | some (.created outbox tx) => checkStarted authorize post db outbox tx true
  | some (.pendingRetry outbox tx) => checkStarted authorize post db outbox tx false
  | started => .error
      { status := 400
        error := "invalid_request"
        description := "invalid, expired, or already used approval transaction"
        authoritative := match started with
          | some (.alreadyDelivered outbox) =>
            some (outbox, (db.getMcpOperation outbox.operationId).map (·.status))
          | _ => none }

/-- The handler up to the claim of the delivery. -/
def completeApprovalPost : ApprovalDatabase × Except PostRefusal OutboxRow :=
  let (db, started) := post.beginMcpApprovalOutbox nowMs db
  (db, answerStarted authorize post db started)

/-- The transaction of the request may be consumed, or was and lacks its outbox row. -/
def ApprovalPost.Opens : Prop :=
  ∃ tx ∈ db.transactions,
    consumable post.transactionId post.csrfHash post.principalId nowMs db.outbox tx ∨
      insertable post.transactionId post.csrfHash post.principalId post.decision db.outbox tx

/-- The transaction is consumed, and the decision on its operation has a row. -/
def ApprovalPost.Decides (after : ApprovalDatabase) : Prop :=
  ∃ row, after.outbox = db.outbox ++ [row] ∧ row.decision = post.decision ∧
    ∃ tx ∈ after.transactions, tx.id = post.transactionId ∧ tx.consumed ∧
      tx.operationId = row.operationId

end Handler

variable {post : ApprovalPost} {nowMs : Int} {db : ApprovalDatabase}

theorem batch_of_closed (closed : ¬ post.Opens nowMs db) : post.batch nowMs db = db := by
  have unconsumed : post.consume nowMs db = db := by
    rw [ApprovalPost.consume, consumeTransaction, map_congr_left fun tx stored =>
      if_neg fun open_ => closed ⟨tx, stored, .inl open_⟩, map_id']
  rw [ApprovalPost.batch, unconsumed, insertOutbox, find?_eq_none.mpr]
  intro tx stored lacking
  exact closed ⟨tx, stored, .inr lacking⟩

theorem batch_of_open (opens : post.Opens nowMs db) : post.Decides db (post.batch nowMs db) := by
  have lacking : ∃ tx ∈ (post.consume nowMs db).transactions, insertable post.transactionId
      post.csrfHash post.principalId post.decision db.outbox tx := by
    obtain ⟨tx, stored, either⟩ := opens
    refine ⟨_, mem_map_of_mem stored, ?_⟩
    split
    next open_ =>
      simp only [consumable, Bool.and_eq_true, decide_eq_true_eq] at open_
      obtain ⟨⟨⟨⟨⟨own, hash⟩, principal⟩, -⟩, -⟩, free⟩ := open_
      rw [own] at free
      simp [insertable, own, hash, principal, free]
    next shut => exact either.resolve_left shut
  obtain ⟨tx, found⟩ := Option.isSome_iff_exists.mp (find?_isSome.mpr lacking)
  have accepted := find?_some found
  simp only [insertable, Bool.and_eq_true, decide_eq_true_eq] at accepted
  have inserted : post.batch nowMs db = { post.consume nowMs db with
      outbox := db.outbox ++ [insertedRow post.transactionId post.decision nowMs tx] } := by
    have outbox : (post.consume nowMs db).outbox = db.outbox := rfl
    rw [ApprovalPost.batch, insertOutbox, outbox, found]
  rw [inserted]
  exact ⟨_, rfl, rfl, tx, mem_of_find?_eq_some found, accepted.1.1.1.1.1, accepted.1.1.2, rfl⟩

/-- An outbox row with the id of the transaction closes it. -/
theorem closed_of_row {outbox : OutboxRow}
    (found : db.getMcpApprovalOutbox post.transactionId = some outbox) : ¬ post.Opens nowMs db := by
  have stored := mem_of_find?_eq_some found
  have own : outbox.id = post.transactionId := by simpa using find?_some found
  rintro ⟨tx, -, open_ | lacking⟩
  · simp only [consumable, unclaimedBy, Bool.and_eq_true, decide_eq_true_eq, all_eq_true] at open_
    exact (open_.2 outbox stored).1 (own.trans open_.1.1.1.1.1.symm)
  · simp only [insertable, unclaimedBy, Bool.and_eq_true, decide_eq_true_eq, all_eq_true] at lacking
    exact (lacking.2 outbox stored).1 own

theorem begin_writes : (post.beginMcpApprovalOutbox nowMs db).1 = post.batch nowMs db := by
  rw [ApprovalPost.beginMcpApprovalOutbox]
  split
  next outbox found => exact (batch_of_closed (closed_of_row found)).symm
  next => rfl

/-- **When a refused request leaves no decision.**  A refused request leaves the store as it was
exactly when its transaction is closed.  If it is open, the request consumes it and puts the
decision on its operation into the outbox, whatever is answered. -/
theorem refused_post_iff (authorize : Operation → Option PostRefusal) (post : ApprovalPost)
    (nowMs : Int) (db : ApprovalDatabase) :
    let posted := completeApprovalPost authorize post nowMs db
    ((∀ refusal, posted.2 = .error refusal → posted.1 = db) ↔
        ∀ refusal, posted.2 = .error refusal → ¬ post.Opens nowMs db) ∧
      (post.Opens nowMs db → post.Decides db posted.1) := by
  intro posted
  have writes : posted.1 = post.batch nowMs db := begin_writes
  have unchanged : posted.1 = db ↔ ¬ post.Opens nowMs db := by
    rw [writes]
    refine ⟨fun same opens => ?_, batch_of_closed⟩
    obtain ⟨row, inserted, -⟩ := batch_of_open opens
    simp [same] at inserted
  refine ⟨forall₂_congr fun _ _ => unchanged, fun opens => ?_⟩
  rw [writes]
  exact batch_of_open opens

/-- The transaction of `op_1`, posted with the name of another operation. -/
def mismatchedPost : ApprovalPost where
  principalId := "user_1"
  tenantId := "tenant_1"
  decision := .approve
  transactionId := "apr_1"
  csrfHash := "hash"
  expectedOperationId := some "op_2"

def awaitingDatabase : ApprovalDatabase where
  transactions :=
    [{ id := "apr_1", csrfHash := "hash", operationId := "op_1", principalId := "user_1",
       tenantId := "tenant_1", deviceId := none, expiresAt := 1000, consumed := false,
       decision := none, createdAt := 0 }]
  outbox := []
  operations :=
    [{ operationId := "op_1", tenantId := "tenant_1", principalId := "user_1", tool := "",
       status := .approvalRequired, summary := "", data := [], truncated := false,
       approvalRequired := true, warnings := [], claimVersion := 1, createdAt := 0,
       updatedAt := 0 }]

/-- The request is refused, and `op_1` is approved. -/
theorem mismatched_post_decides :
    let posted := completeApprovalPost (fun _ => none) mismatchedPost 0 awaitingDatabase
    (∃ refusal, posted.2 = .error refusal ∧ refusal.description = "operation_id mismatch") ∧
      posted.1.outbox.map (fun row => (row.operationId, row.decision)) = [("op_1", .approve)] :=
  ⟨⟨_, rfl, rfl⟩, rfl⟩

end OwnMesh.ControlPlane
