import OwnMesh.ControlPlane.Operation
import OwnMesh.Foundations.Run

/-!
# The approval outbox

A human decision on an operation is stored as one row of an outbox before it is delivered to
the device.  Workers claim the row for delivery under a lease; a claim whose lease has run out
may be taken over by another worker.

Every call is a sequence of statements on a shared database.  `OutboxPhase` is the place of a
call between two of its statements, `advance` performs its next one, and a step of the system
is one statement (or one batch, which is a transaction) of any one of the calls.  A statement
may also fail: a failed read of the outbox is answered as a missing row, a failed batch is
rolled back, and any other failure ends the call.
-/

namespace OwnMesh.ControlPlane

/-! ## Tables -/

inductive HumanDecision where
  | approve
  | deny
deriving DecidableEq

def HumanDecision.name : HumanDecision → String
  | approve => "approve"
  | deny => "deny"

inductive DeliveryStatus where
  | pending
  | delivering
  | delivered
deriving DecidableEq

/-- One-time approval of an operation, bound to the human's session. -/
structure ApprovalTransaction where
  (id csrfHash operationId principalId tenantId : String)
  deviceId : Option String
  expiresAt : Int
  consumed : Bool
  decision : Option HumanDecision
  createdAt : Int

structure OutboxRow where
  (id operationId principalId tenantId : String)
  deviceId : Option String
  decision : HumanDecision
  correlationId : String
  deliveryStatus : DeliveryStatus
  attempts : Nat
  lastError : Option String
  createdAt : Int
  (deliveredAt claimedAt : Option Int)
  claimToken : Option String
  claimVersion : Nat
deriving DecidableEq

structure ApprovalDatabase where
  transactions : List ApprovalTransaction
  outbox : List OutboxRow
  operations : List Operation

namespace ApprovalDatabase

def getMcpApprovalOutbox (db : ApprovalDatabase) (id : String) : Option OutboxRow :=
  db.outbox.find? fun row => row.id = id

def getTransaction (db : ApprovalDatabase) (id : String) : Option ApprovalTransaction :=
  db.transactions.find? fun tx => tx.id = id

def getMcpOperation (db : ApprovalDatabase) (operationId : String) : Option Operation :=
  db.operations.find? fun op => op.operationId = operationId

/-- Update the outbox rows that a condition selects. -/
def updateOutbox (db : ApprovalDatabase) (selects : OutboxRow → Bool)
    (set : OutboxRow → OutboxRow) : ApprovalDatabase :=
  { db with outbox := db.outbox.map fun row => if selects row then set row else row }

end ApprovalDatabase

/-! ## Calls -/

def mcpApprovalOutboxClaimLeaseMs : Int := 30000

/-- A call with its arguments.  `nowMs` is the clock as the call reads it, `claimToken` of a
claim the random token it draws. -/
inductive OutboxCall where
  | begin_ (id csrfHash principalId : String) (decision : HumanDecision) (nowMs : Int)
  | claim (id claimToken : String) (nowMs : Int)
  | release (id claimToken : String) (claimVersion : Nat) (error : Option String)
  | recordAttempt (id : String) (error : Option String)
  | finalize (id claimToken : String) (claimVersion : Nat) (nowMs : Int)

inductive BeginResult where
  | created (outbox : OutboxRow) (tx : ApprovalTransaction)
  | pendingRetry (outbox : OutboxRow) (tx : ApprovalTransaction)
  | alreadyDelivered (outbox : OutboxRow)

inductive OutboxAnswer where
  | begun (result : Option BeginResult)
  | claimed (outbox : Option OutboxRow)
  | returned
  | finalized (op : Option Operation)
  | thrown

inductive OutboxPhase where
  | start
  /-- The outbox row exists: read its transaction. -/
  | beginFound (outbox : OutboxRow)
  /-- Consume the transaction and insert the row. -/
  | beginBatch
  /-- The batch changed both tables: read the row back. -/
  | beginCreated
  | beginCreatedTx (outbox : OutboxRow)
  /-- The race is lost: read what the peer wrote. -/
  | beginPeer
  | beginPeerTx (outbox : OutboxRow)
  /-- The update has claimed the row: read it back. -/
  | claimRead
  | finalizeOperation (outbox : OutboxRow)
  | finalizeBatch (outbox : OutboxRow) (op : Operation)
  | finalizePeer (outbox : OutboxRow)
  | finalizeAnswer (outbox : OutboxRow)
  | done (answer : OutboxAnswer)

/-! ## Statements -/

/-- The row may be claimed: it is pending, or the lease of its claim has run out. -/
def claimableAt (id : String) (nowMs : Int) (row : OutboxRow) : Bool :=
  row.id = id &&
    (row.deliveryStatus = .pending ||
      (row.deliveryStatus = .delivering &&
        match row.claimedAt with
        | none => true
        | some claimedAt => claimedAt ≤ nowMs - mcpApprovalOutboxClaimLeaseMs))

def claimRow (claimToken : String) (nowMs : Int) (row : OutboxRow) : OutboxRow :=
  { row with
    deliveryStatus := .delivering
    claimedAt := some nowMs
    claimToken := some claimToken
    claimVersion := row.claimVersion + 1 }

/-- The row is out for delivery under the given claim. -/
def heldBy (id claimToken : String) (claimVersion : Nat) (row : OutboxRow) : Bool :=
  row.id = id && row.deliveryStatus = .delivering && row.claimToken = some claimToken &&
    row.claimVersion = claimVersion

def releaseRow (error : Option String) (row : OutboxRow) : OutboxRow :=
  { row with
    deliveryStatus := .pending
    attempts := row.attempts + 1
    lastError := error
    claimedAt := none
    claimToken := none }

def attemptRow (error : Option String) (row : OutboxRow) : OutboxRow :=
  { row with attempts := row.attempts + 1, lastError := error }

def deliverRow (nowMs : Int) (row : OutboxRow) : OutboxRow :=
  { row with
    deliveryStatus := .delivered
    deliveredAt := some nowMs
    attempts := row.attempts + 1
    lastError := none }

def deliveredSummary : String :=
  "human decision delivered; awaiting authoritative device result"

/-- The operation with the delivered decision in its data. -/
def decideOperation (outbox : OutboxRow) (op : Operation) (nowMs : Int) (row : Operation) :
    Operation :=
  { row with
    summary := deliveredSummary
    data := (op.data.set "approval_decision" (.text outbox.decision.name)).set
      "approval_transaction_id" (.text outbox.id)
    updatedAt := nowMs }

/-- The batch of a finalize call: the operation while the claim still owns the row, then the
row itself. -/
def deliverBatch (id claimToken : String) (claimVersion : Nat) (nowMs : Int)
    (outbox : OutboxRow) (op : Operation) (db : ApprovalDatabase) : ApprovalDatabase :=
  let held := db.outbox.any (heldBy id claimToken claimVersion)
  let decided : ApprovalDatabase :=
    { db with
      operations := db.operations.map fun row =>
        if row.operationId = outbox.operationId && row.status = .approvalRequired && held then
          decideOperation outbox op nowMs row
        else row }
  decided.updateOutbox (heldBy id claimToken claimVersion) (deliverRow nowMs)

/-- No outbox row has the id or is for the operation. -/
def unclaimedBy (outbox : List OutboxRow) (id operationId : String) : Bool :=
  outbox.all fun row => row.id ≠ id && row.operationId ≠ operationId

/-- The transaction may be consumed by the decision. -/
def consumable (id csrfHash principalId : String) (nowMs : Int) (outbox : List OutboxRow)
    (tx : ApprovalTransaction) : Bool :=
  tx.id = id && tx.csrfHash = csrfHash && tx.principalId = principalId && !tx.consumed &&
    nowMs < tx.expiresAt && unclaimedBy outbox tx.id tx.operationId

/-- The transaction is consumed by the decision and has no outbox row. -/
def insertable (id csrfHash principalId : String) (decision : HumanDecision)
    (outbox : List OutboxRow) (tx : ApprovalTransaction) : Bool :=
  tx.id = id && tx.csrfHash = csrfHash && tx.principalId = principalId && tx.consumed &&
    tx.decision = some decision && unclaimedBy outbox id tx.operationId

def insertedRow (id : String) (decision : HumanDecision) (nowMs : Int)
    (tx : ApprovalTransaction) : OutboxRow where
  id := id
  operationId := tx.operationId
  principalId := tx.principalId
  tenantId := tx.tenantId
  deviceId := tx.deviceId
  decision := decision
  correlationId := "cor_" ++ id
  deliveryStatus := .pending
  attempts := 0
  lastError := none
  createdAt := nowMs
  deliveredAt := none
  claimedAt := none
  claimToken := none
  claimVersion := 0

def consumeTransaction (id csrfHash principalId : String) (decision : HumanDecision)
    (nowMs : Int) (db : ApprovalDatabase) : ApprovalDatabase :=
  { db with
    transactions := db.transactions.map fun tx =>
      if consumable id csrfHash principalId nowMs db.outbox tx then
        { tx with consumed := true, decision := some decision }
      else tx }

def insertOutbox (id csrfHash principalId : String) (decision : HumanDecision)
    (nowMs : Int) (db : ApprovalDatabase) : ApprovalDatabase :=
  match db.transactions.find? (insertable id csrfHash principalId decision db.outbox) with
  | some tx => { db with outbox := db.outbox ++ [insertedRow id decision nowMs tx] }
  | none => db

/-! ## Steps of a call -/

/-- The answer of a begin call that finds the outbox row of the decision. -/
def resumeBegin (csrfHash principalId : String) (decision : HumanDecision) (outbox : OutboxRow)
    (tx : Option ApprovalTransaction) : Option BeginResult :=
  match tx with
  | none => none
  | some tx =>
    if tx.csrfHash ≠ csrfHash || tx.principalId ≠ principalId ||
        outbox.decision ≠ decision then none
    else if outbox.deliveryStatus = .delivered then some (.alreadyDelivered outbox)
    else some (.pendingRetry outbox { tx with decision := tx.decision <|> some decision })

/-- The same after a lost race; the transaction is answered with the decision of the row. -/
def resumePeer (csrfHash principalId : String) (decision : HumanDecision) (outbox : OutboxRow)
    (tx : Option ApprovalTransaction) : Option BeginResult :=
  match tx with
  | none => none
  | some tx =>
    if tx.csrfHash = csrfHash && tx.principalId = principalId &&
        outbox.decision = decision then
      if outbox.deliveryStatus = .delivered then some (.alreadyDelivered outbox)
      else some (.pendingRetry outbox { tx with decision := some outbox.decision })
    else none

/-- A read of the outbox; a failed read is answered as a missing row. -/
def readOutbox (fault : Bool) (db : ApprovalDatabase) (id : String) : Option OutboxRow :=
  if fault then none else db.getMcpApprovalOutbox id

def advanceBegin (id csrfHash principalId : String) (decision : HumanDecision) (nowMs : Int)
    (fault : Bool) (db : ApprovalDatabase) : OutboxPhase → ApprovalDatabase × OutboxPhase
  | .start =>
    match readOutbox fault db id with
    | some outbox => (db, .beginFound outbox)
    | none => (db, .beginBatch)
  | .beginFound outbox =>
    if fault then (db, .done .thrown)
    else
      (db, .done (.begun (resumeBegin csrfHash principalId decision outbox
        (db.getTransaction id))))
  | .beginBatch =>
    if fault then (db, .beginPeer)
    else
      let consumed := consumeTransaction id csrfHash principalId decision nowMs db
      let inserted := insertOutbox id csrfHash principalId decision nowMs consumed
      if db.transactions.any (consumable id csrfHash principalId nowMs db.outbox) &&
          consumed.transactions.any
            (insertable id csrfHash principalId decision consumed.outbox) then
        (inserted, .beginCreated)
      else (inserted, .beginPeer)
  | .beginCreated =>
    match readOutbox fault db id with
    | some outbox => (db, .beginCreatedTx outbox)
    | none => (db, .done (.begun none))
  | .beginCreatedTx outbox =>
    -- a failure here is caught with the batch's own, and the peer is read
    if fault then (db, .beginPeer)
    else
      match db.getTransaction id with
      | some tx =>
        (db, .done (.begun (some (.created outbox { tx with decision := some decision }))))
      | none => (db, .done (.begun none))
  | .beginPeer =>
    match readOutbox fault db id with
    | some outbox => (db, .beginPeerTx outbox)
    | none => (db, .done (.begun none))
  | .beginPeerTx outbox =>
    if fault then (db, .done .thrown)
    else
      (db, .done (.begun (resumePeer csrfHash principalId decision outbox
        (db.getTransaction id))))
  | phase => (db, phase)

def advanceClaim (id claimToken : String) (nowMs : Int) (fault : Bool)
    (db : ApprovalDatabase) : OutboxPhase → ApprovalDatabase × OutboxPhase
  | .start =>
    if fault then (db, .done .thrown)
    else if db.outbox.any (claimableAt id nowMs) then
      (db.updateOutbox (claimableAt id nowMs) (claimRow claimToken nowMs), .claimRead)
    else (db, .done (.claimed none))
  | .claimRead => (db, .done (.claimed (readOutbox fault db id)))
  | phase => (db, phase)

def advanceRelease (id claimToken : String) (claimVersion : Nat) (error : Option String)
    (fault : Bool) (db : ApprovalDatabase) : OutboxPhase → ApprovalDatabase × OutboxPhase
  | .start =>
    if claimToken = "" then (db, .done .returned)
    else if fault then (db, .done .thrown)
    else
      (db.updateOutbox (heldBy id claimToken claimVersion) (releaseRow error),
        .done .returned)
  | phase => (db, phase)

def advanceAttempt (id : String) (error : Option String) (fault : Bool)
    (db : ApprovalDatabase) : OutboxPhase → ApprovalDatabase × OutboxPhase
  | .start =>
    if fault then (db, .done .thrown)
    else
      (db.updateOutbox (fun row => row.id = id && row.deliveryStatus = .pending)
        (attemptRow error), .done .returned)
  | phase => (db, phase)

def advanceFinalize (id claimToken : String) (claimVersion : Nat) (nowMs : Int) (fault : Bool)
    (db : ApprovalDatabase) : OutboxPhase → ApprovalDatabase × OutboxPhase
  | .start =>
    if claimToken = "" then (db, .done (.finalized none))
    else
      match readOutbox fault db id with
      | none => (db, .done (.finalized none))
      | some outbox =>
        if outbox.deliveryStatus ≠ .delivering || outbox.claimToken ≠ some claimToken ||
            outbox.claimVersion ≠ claimVersion then
          (db, .done (.finalized none))
        else (db, .finalizeOperation outbox)
  | .finalizeOperation outbox =>
    if fault then (db, .done .thrown)
    else
      match db.getMcpOperation outbox.operationId with
      | none => (db, .done (.finalized none))
      | some op => (db, .finalizeBatch outbox op)
  | .finalizeBatch outbox op =>
    if fault then (db, .done .thrown)
    else if db.outbox.any (heldBy id claimToken claimVersion) then
      (deliverBatch id claimToken claimVersion nowMs outbox op db, .finalizeAnswer outbox)
    else (deliverBatch id claimToken claimVersion nowMs outbox op db, .finalizePeer outbox)
  | .finalizePeer outbox =>
    match readOutbox fault db id with
    | some peer =>
      if peer.deliveryStatus = .delivered then (db, .finalizeAnswer outbox)
      else (db, .done (.finalized none))
    | none => (db, .done (.finalized none))
  | .finalizeAnswer outbox =>
    if fault then (db, .done .thrown)
    else (db, .done (.finalized (db.getMcpOperation outbox.operationId)))
  | phase => (db, phase)

/-- The next statement of a call. -/
def OutboxCall.advance (fault : Bool) (db : ApprovalDatabase) (phase : OutboxPhase) :
    OutboxCall → ApprovalDatabase × OutboxPhase
  | .begin_ id csrfHash principalId decision nowMs =>
    advanceBegin id csrfHash principalId decision nowMs fault db phase
  | .claim id claimToken nowMs => advanceClaim id claimToken nowMs fault db phase
  | .release id claimToken claimVersion error =>
    advanceRelease id claimToken claimVersion error fault db phase
  | .recordAttempt id error => advanceAttempt id error fault db phase
  | .finalize id claimToken claimVersion nowMs =>
    advanceFinalize id claimToken claimVersion nowMs fault db phase

/-! ## Interleavings -/

/-- The database with the place of each call. -/
structure OutboxState (ι : Type) where
  db : ApprovalDatabase
  phase : ι → OutboxPhase

/-- The call that performs its next statement, and whether that statement fails. -/
structure OutboxTurn (ι : Type) where
  call : ι
  fault : Bool

def OutboxState.after {ι : Type} [DecidableEq ι] (calls : ι → OutboxCall) (s : OutboxState ι)
    (turn : OutboxTurn ι) : OutboxState ι :=
  let moved := (calls turn.call).advance turn.fault s.db (s.phase turn.call)
  { db := moved.1, phase := Function.update s.phase turn.call moved.2 }

def OutboxStep {ι : Type} [DecidableEq ι] (calls : ι → OutboxCall) (s : OutboxState ι)
    (turn : OutboxTurn ι) (t : OutboxState ι) : Prop :=
  t = s.after calls turn

end OwnMesh.ControlPlane
