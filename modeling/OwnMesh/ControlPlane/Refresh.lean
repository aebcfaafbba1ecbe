import OwnMesh.Foundations.Run

/-!
# Rotating a refresh token

The control plane rotates a refresh token with a few separate reads and one batch of
statements that the database runs as a whole.  The batch claims the token, marks it as used,
inserts its successor and leaves a receipt, encrypted under the old token, from which a
repetition of the request is answered with the same successor.

A call is a machine that runs one statement, or one batch, at a time (`advance`); `Phase` is
where it is between two of them, with what it has read.  `RaceStep` lets any number of calls
take turns on one database.

Times are in milliseconds.  The columns that only record when a row was made are left out.
-/

namespace OwnMesh.ControlPlane

/-! ## The tables -/

/-- A row of `oauth_tokens`.  The hash of the authorization code is there for tokens that a
code was redeemed for, not for their successors. -/
structure TokenRow where
  (accessTokenHash refreshTokenHash clientId principalId scope refreshFamily : String)
  (refreshUsed revoked : Bool)
  (expiresAt refreshExpiresAt : Int)
  (authCodeHash resource : Option String)
deriving DecidableEq

/-- A row of `principals`; the schema checks that the counters are positive. -/
structure PrincipalRow where
  (id tenantId : String)
  revocationEpoch : Nat
  revocationReason : Option String
  credentialGeneration : Nat
  epochPositive : 1 ≤ revocationEpoch
  generationPositive : 1 ≤ credentialGeneration

theorem PrincipalRow.epoch_next (principal : PrincipalRow) : 1 ≤ principal.revocationEpoch + 1 :=
  Nat.le_add_left _ _

theorem PrincipalRow.generation_next (principal : PrincipalRow) :
    1 ≤ principal.credentialGeneration + 1 :=
  Nat.le_add_left _ _

/-- A row of `used_refresh_tokens`. -/
structure UsedRow where
  (refreshTokenHash refreshFamily : String)

/-- The successor tokens, encrypted under a key. -/
structure Sealed where
  (accessToken refreshToken key : String)
deriving DecidableEq

/-- A row of `refresh_rotation_receipts`. -/
structure ReceiptRow where
  (oldRefreshTokenHash refreshFamily clientId principalId tenantId scope : String)
  (successorAccessTokenHash successorRefreshTokenHash : String)
  encryptedSuccessor : Sealed
  expiresAt : Int
deriving DecidableEq

structure Database where
  tokens : List TokenRow
  principals : List PrincipalRow
  used : List UsedRow
  revokedFamilies : List String
  receipts : List ReceiptRow

/-! ## Calls -/

def accessTokenTtlMs : Int := 15 * 60 * 1000

def refreshTokenIdleTtlMs : Int := 180 * 24 * 60 * 60 * 1000

def refreshRotationReceiptTtlMs : Int := 60000

def refreshRotationReceiptCleanupBatch : Nat := 64

/-- What a call brings besides the token: its clock, the resource it expects, and the tokens
it draws for the successor. -/
structure RefreshCall where
  nowMs : Int
  expectedResource : Option String
  (access refresh : String)

structure TokenRecord where
  (accessToken refreshToken clientId scope principal : String)
  (expiresAt refreshExpiresAt : Int)
  (refreshFamily tenantId : String)
  resource : Option String
deriving DecidableEq

inductive RefreshAnswer where
  | ok (token : TokenRecord)
  | invalidGrant
  | reuse
  /-- The database refused the batch. -/
  | thrown
deriving DecidableEq

/-- The row of the token as it was first read, with the tenant of its principal. -/
structure PreRead where
  row : TokenRow
  tenantId : String
deriving DecidableEq

/-- Whether a receipt is looked up before the rotation or after a rotation that was lost. -/
inductive Stage where
  | first
  | lost
deriving DecidableEq

/-- The statement a call runs next, with what it has read. -/
inductive Phase where
  | read
  | receipt (stage : Stage) (pre : PreRead)
  | successor (stage : Stage) (pre : PreRead) (receipt : ReceiptRow)
  | family (stage : Stage) (pre : PreRead) (receipt : ReceiptRow) (successor : TokenRow)
  | ledger (pre : PreRead)
  | rotate (pre : PreRead)
  | raced (pre : PreRead)
  | lostLedger (pre : PreRead)
  | won (pre : PreRead)
  | wonFamily (pre : PreRead) (live : Bool)
  | revoke (pre : PreRead) (family : String) (record : Bool)
  | record (family : String)
  | done (answer : RefreshAnswer)
deriving DecidableEq

/-- A text column that is neither missing nor empty. -/
def truthy (value : Option String) : Option String := value.filter (· ≠ "")

/-! ## Statements -/

section Statements

variable (hash : String → String) (token : String)

/-- The row of the token, if its principal is there. -/
def readRow (db : Database) : Option PreRead := do
  let row ← db.tokens.find? fun row => row.refreshTokenHash = hash token
  let principal ← db.principals.find? fun principal => principal.id = row.principalId
  pure { row := row, tenantId := principal.tenantId }

def readReceipt (db : Database) : Option ReceiptRow :=
  db.receipts.find? fun receipt => receipt.oldRefreshTokenHash = hash token

def readUsed (db : Database) : Option UsedRow :=
  db.used.find? fun used => used.refreshTokenHash = hash token

def readAccess (db : Database) (accessTokenHash : String) : Option TokenRow :=
  db.tokens.find? fun row => row.accessTokenHash = accessTokenHash

/-- The successor in a receipt, if it opens with the token and is the one recorded. -/
def openReceipt (receipt : ReceiptRow) : Option Sealed :=
  if receipt.encryptedSuccessor.key = token ∧
      hash receipt.encryptedSuccessor.accessToken = receipt.successorAccessTokenHash ∧
      hash receipt.encryptedSuccessor.refreshToken = receipt.successorRefreshTokenHash then
    some receipt.encryptedSuccessor
  else none

/-- The batch that a detected reuse runs. -/
def reuseRevoke (db : Database) (family principalId : String) : Database :=
  { db with
    revokedFamilies :=
      if family ∈ db.revokedFamilies then db.revokedFamilies else family :: db.revokedFamilies
    tokens := db.tokens.map fun row =>
      if row.refreshFamily = family then { row with revoked := true } else row
    principals := db.principals.map fun principal =>
      if principal.id = principalId then
        { principal with
          revocationEpoch := principal.revocationEpoch + 1
          revocationReason := some "refresh_reuse"
          credentialGeneration := principal.credentialGeneration + 1
          epochPositive := principal.epoch_next
          generationPositive := principal.generation_next }
      else principal }

/-! ### The rotation batch -/

/-- The expired receipts that one rotation removes, the oldest first. -/
def expiredReceipts (receipts : List ReceiptRow) (now : Int) : List String :=
  (((receipts.filter fun receipt => receipt.expiresAt ≤ now).insertionSort
    fun a b => a.expiresAt ≤ b.expiresAt).take refreshRotationReceiptCleanupBatch).map
      ReceiptRow.oldRefreshTokenHash

def cleanReceipts (receipts : List ReceiptRow) (now : Int) : List ReceiptRow :=
  receipts.filter fun receipt =>
    receipt.oldRefreshTokenHash ∉ expiredReceipts receipts now

/-- A row of the token that can still be claimed. -/
def claimable (now : Int) (row : TokenRow) : Bool :=
  row.refreshTokenHash = hash token && !row.revoked && !row.refreshUsed &&
    decide (now < row.refreshExpiresAt)

/-- The ledger after the claim, and whether the claim was made. -/
def claimLedger (tokens : List TokenRow) (used : List UsedRow) (now : Int) : List UsedRow × Bool :=
  match tokens.find? (claimable hash token now) with
  | none => (used, false)
  | some row =>
    if used.any fun entry => entry.refreshTokenHash = row.refreshTokenHash then (used, false)
    else (used ++ [⟨row.refreshTokenHash, row.refreshFamily⟩], true)

def markUsed (row : TokenRow) : TokenRow := { row with revoked := true, refreshUsed := true }

/-- The tokens when the claimed one is marked, and whether one was. -/
def markClaimed (tokens : List TokenRow) (used : List UsedRow) (now : Int) : List TokenRow × Bool :=
  if used.any fun entry => entry.refreshTokenHash = hash token then
    (tokens.map fun row => if claimable hash token now row then markUsed row else row,
      tokens.any (claimable hash token now))
  else (tokens, false)

/-- The row that a successor is made from. -/
def successorSource (tokens : List TokenRow) (used : List UsedRow) : Option TokenRow :=
  tokens.find? fun row =>
    row.refreshTokenHash = hash token && row.refreshUsed && row.revoked &&
      (used.any fun entry => entry.refreshTokenHash = row.refreshTokenHash) &&
      !tokens.any fun current =>
        current.refreshFamily = row.refreshFamily &&
          current.refreshTokenHash ≠ row.refreshTokenHash &&
          !current.refreshUsed && !current.revoked

/-- The successor that a call inserts. -/
def successorOf (revokedFamilies : List String) (call : RefreshCall) (source : TokenRow) :
    TokenRow :=
  { source with
    accessTokenHash := hash call.access
    refreshTokenHash := hash call.refresh
    refreshUsed := false
    revoked := decide (source.refreshFamily ∈ revokedFamilies)
    expiresAt := call.nowMs + accessTokenTtlMs
    refreshExpiresAt := call.nowMs + refreshTokenIdleTtlMs
    authCodeHash := none }

/-- The tokens with the successor, and whether one was inserted.  A hash that is already
there is an error. -/
def insertSuccessor (tokens : List TokenRow) (used : List UsedRow)
    (revokedFamilies : List String) (call : RefreshCall) : Option (List TokenRow × Bool) :=
  match successorSource hash token tokens used with
  | none => some (tokens, false)
  | some source =>
    let successor := successorOf hash revokedFamilies call source
    if tokens.any fun row =>
        row.accessTokenHash = successor.accessTokenHash ||
          row.refreshTokenHash = successor.refreshTokenHash then none
    else some (tokens ++ [successor], true)

/-- The principals when the issuance is counted, and whether it was. -/
def advanceGeneration (principals : List PrincipalRow) (tokens : List TokenRow)
    (principalId accessTokenHash : String) : List PrincipalRow × Bool :=
  if tokens.any fun row => row.accessTokenHash = accessTokenHash && !row.revoked then
    (principals.map fun principal =>
      if principal.id = principalId then
        { principal with
          credentialGeneration := principal.credentialGeneration + 1
          generationPositive := principal.generation_next }
      else principal,
      principals.any fun principal => principal.id = principalId)
  else (principals, false)

/-- The receipt that a call leaves. -/
def receiptOf (call : RefreshCall) (pre : PreRead) : ReceiptRow where
  oldRefreshTokenHash := hash token
  refreshFamily := pre.row.refreshFamily
  clientId := pre.row.clientId
  principalId := pre.row.principalId
  tenantId := pre.tenantId
  scope := pre.row.scope
  successorAccessTokenHash := hash call.access
  successorRefreshTokenHash := hash call.refresh
  encryptedSuccessor :=
    { accessToken := call.access, refreshToken := call.refresh, key := token }
  expiresAt := call.nowMs + refreshRotationReceiptTtlMs

def insertReceipt (receipts : List ReceiptRow) (receipt : ReceiptRow) : List ReceiptRow × Bool :=
  if receipts.any fun row => row.oldRefreshTokenHash = receipt.oldRefreshTokenHash then
    (receipts, false)
  else (receipts ++ [receipt], true)

/-- The rotation batch, and whether each of its statements changed something. -/
def rotateBatch (db : Database) (call : RefreshCall) (pre : PreRead) : Option (Database × Bool) :=
  let receipts := cleanReceipts db.receipts call.nowMs
  let (used, casWon) := claimLedger hash token db.tokens db.used call.nowMs
  let (marked, oldUpdated) := markClaimed hash token db.tokens used call.nowMs
  match insertSuccessor hash token marked used db.revokedFamilies call with
  | none => none
  | some (tokens, successorInserted) =>
    let (principals, generationAdvanced) :=
      advanceGeneration db.principals tokens pre.row.principalId (hash call.access)
    let (receipts, receiptInserted) := insertReceipt receipts (receiptOf hash token call pre)
    some
      ({ db with
          tokens := tokens
          principals := principals
          used := used
          receipts := receipts },
        casWon && oldUpdated && successorInserted && generationAdvanced && receiptInserted)

/-! ## A call -/

/-- The answer of the call that rotated. -/
def winnerToken (call : RefreshCall) (pre : PreRead) : TokenRecord where
  accessToken := call.access
  refreshToken := call.refresh
  clientId := pre.row.clientId
  scope := pre.row.scope
  principal := pre.row.principalId
  expiresAt := call.nowMs + accessTokenTtlMs
  refreshExpiresAt := call.nowMs + refreshTokenIdleTtlMs
  refreshFamily := pre.row.refreshFamily
  tenantId := pre.tenantId
  resource := none

/-- The answer of a call that found a receipt. -/
def duplicateToken (receipt : ReceiptRow) (successor : TokenRow) (opened : Sealed) :
    TokenRecord where
  accessToken := opened.accessToken
  refreshToken := opened.refreshToken
  clientId := receipt.clientId
  scope := receipt.scope
  principal := receipt.principalId
  expiresAt := successor.expiresAt
  refreshExpiresAt := successor.refreshExpiresAt
  refreshFamily := receipt.refreshFamily
  tenantId := receipt.tenantId
  resource := truthy successor.resource

/-- Where a call goes on that found no receipt. -/
def afterMiss (pre : PreRead) : Stage → Phase
  | .first => .ledger pre
  | .lost => .raced pre

/-- The resource that a call expects is not the one the token is bound to. -/
def resourceMismatch (expected bound : Option String) : Bool :=
  match expected, bound with
  | some expected, some bound => expected ≠ bound
  | _, _ => false

/-- One statement, or one batch, of a call. -/
def advance (call : RefreshCall) (db : Database) : Phase → Database × Phase
  | .read =>
    (db,
      match readRow hash token db with
      | none => .done .invalidGrant
      | some pre =>
        if pre.row.refreshExpiresAt < call.nowMs then .done .invalidGrant
        else if resourceMismatch call.expectedResource pre.row.resource then
          .done .invalidGrant
        else .receipt .first pre)
  | .receipt stage pre =>
    (db,
      match readReceipt hash token db with
      | none => afterMiss pre stage
      | some receipt =>
        if receipt.expiresAt < call.nowMs then afterMiss pre stage
        else .successor stage pre receipt)
  | .successor stage pre receipt =>
    (db,
      match readAccess db receipt.successorAccessTokenHash with
      | none => afterMiss pre stage
      | some successor =>
        if successor.revoked = true ∨ successor.refreshUsed = true ∨
            successor.refreshExpiresAt < call.nowMs then afterMiss pre stage
        else .family stage pre receipt successor)
  | .family stage pre receipt successor =>
    (db,
      if receipt.refreshFamily ∈ db.revokedFamilies then afterMiss pre stage
      else
        match openReceipt hash token receipt with
        | none => afterMiss pre stage
        | some opened => .done (.ok (duplicateToken receipt successor opened)))
  | .ledger pre =>
    (db,
      match readUsed hash token db with
      | some used =>
        .revoke pre
          (if used.refreshFamily ≠ "" then used.refreshFamily else pre.row.refreshFamily)
          false
      | none =>
        if pre.row.revoked = true ∧ pre.row.refreshUsed = false then .done .invalidGrant
        else if pre.row.refreshUsed then .revoke pre pre.row.refreshFamily true
        else .rotate pre)
  | .rotate pre =>
    match rotateBatch hash token db call pre with
    | none => (db, .done .thrown)
    | some (db', true) => (db', .won pre)
    | some (db', false) => (db', .receipt .lost pre)
  | .raced pre =>
    (db,
      match db.tokens.find? fun row => row.refreshTokenHash = hash token && row.refreshUsed with
      | some row => .revoke pre row.refreshFamily false
      | none => .lostLedger pre)
  | .lostLedger pre =>
    (db,
      match readUsed hash token db with
      | some used => .revoke pre used.refreshFamily false
      | none => .done .invalidGrant)
  | .won pre =>
    (db, .wonFamily pre ((readAccess db (hash call.access)).any fun row => !row.revoked))
  | .wonFamily pre live =>
    (db,
      if live = true ∧ pre.row.refreshFamily ∉ db.revokedFamilies then
        .done (.ok (winnerToken call pre))
      else .revoke pre pre.row.refreshFamily false)
  | .revoke pre family record =>
    (reuseRevoke db family pre.row.principalId,
      if record then .record family else .done .reuse)
  | .record family =>
    ({ db with
        used :=
          if db.used.any fun entry => entry.refreshTokenHash = hash token then db.used
          else db.used ++ [⟨hash token, family⟩] },
      .done .reuse)
  | .done answer => (db, .done answer)

end Statements

/-! ## Calls taking turns -/

/-- Any number of calls on one database. -/
structure Race (ι : Type) where
  db : Database
  phase : ι → Phase

/-- One of the calls runs its next statement. -/
inductive RaceStep {ι : Type} [DecidableEq ι] (hash : String → String) (token : String)
    (calls : ι → RefreshCall) : Race ι → ι → Race ι → Prop where
  | step (s : Race ι) (i : ι) (active : ∀ answer, s.phase i ≠ .done answer) :
      RaceStep hash token calls s i
        { db := (advance hash token (calls i) s.db (s.phase i)).1
          phase := Function.update s.phase i
            (advance hash token (calls i) s.db (s.phase i)).2 }

end OwnMesh.ControlPlane
