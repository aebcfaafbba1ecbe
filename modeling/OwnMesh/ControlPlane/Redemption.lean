import OwnMesh.ControlPlane.Refresh

/-!
# Authorization codes, rotation and revocation

A token family starts when an authorization code is redeemed: one batch inserts the first
token of a new family and marks the code as used.  The family goes on through rotations
(`advance`) and ends when it is revoked as a whole; a single token can also be revoked by its
bearer.

The three operations are machines of the same kind, one statement or one batch at a time, and
`OAuthStep` lets any number of calls of any of them take turns.
-/

namespace OwnMesh.ControlPlane

/-- A row of `oauth_auth_codes`. -/
structure AuthCodeRow where
  (codeHash clientId principalId redirectUri scope codeChallenge codeChallengeMethod : String)
  expiresAt : Int
  used : Bool
  resource : Option String

/-- A row of `oauth_clients`. -/
structure ClientRow where
  (clientId tenantId : String)

structure OAuthDatabase extends Database where
  codes : List AuthCodeRow
  clients : List ClientRow

/-! ## Redeeming a code -/

/-- What a redemption brings: the code with what it is bound to, the clock when it is checked
and when tokens are issued, and the tokens and the family it draws. -/
structure RedeemInput where
  (code clientId redirectUri codeChallenge : String)
  resource : Option String
  (checkedAt issuedAt : Int)
  (access refresh family : String)

structure AuthCodeRecord where
  (code clientId principalId redirectUri scope codeChallenge codeChallengeMethod : String)
  expiresAt : Int
  resource : Option String

inductive RedeemAnswer where
  | redeemed (record : AuthCodeRecord) (token : TokenRecord)
  | invalidGrant
  /-- The database refused the batch and no other redemption explains it. -/
  | thrown

/-- The statement a redemption runs next. -/
inductive RedeemPhase where
  | read
  | redeem (row : AuthCodeRow) (tenantId : String)
  | conflict
  | done (answer : RedeemAnswer)

section Redeem

variable (hash : String → String) (input : RedeemInput)

/-- The code can be redeemed with this input. -/
def redeemable (row : AuthCodeRow) : Bool :=
  row.codeHash = hash input.code && !row.used && decide (input.checkedAt < row.expiresAt) &&
    row.clientId = input.clientId && row.redirectUri = input.redirectUri &&
    row.codeChallenge = input.codeChallenge && row.codeChallengeMethod = "S256"

/-- The redeemable code with its tenant, where its principal and its client share one. -/
def readCode (db : OAuthDatabase) : Option (AuthCodeRow × String) := do
  let row ← db.codes.find? (redeemable hash input)
  let principal ← db.principals.find? fun principal => principal.id = row.principalId
  let client ← db.clients.find? fun client =>
    client.clientId = row.clientId && client.tenantId = principal.tenantId
  pure (row, client.tenantId)

/-- A code that is bound to a resource is redeemed with that resource. -/
def resourceRefused (row : AuthCodeRow) : Bool :=
  match row.resource with
  | none => false
  | some bound => input.resource ≠ some bound

/-- The first token of the family. -/
def issuedToken (row : AuthCodeRow) : TokenRow where
  accessTokenHash := hash input.access
  refreshTokenHash := hash input.refresh
  clientId := row.clientId
  principalId := row.principalId
  scope := row.scope
  refreshFamily := input.family
  refreshUsed := false
  revoked := false
  expiresAt := input.issuedAt + accessTokenTtlMs
  refreshExpiresAt := input.issuedAt + refreshTokenIdleTtlMs
  authCodeHash := some row.codeHash
  resource := row.resource

/-- The tokens with the first of the family, and whether it was inserted.  A hash that is
already there is an error. -/
def insertIssued (db : OAuthDatabase) : Option (List TokenRow × Bool) :=
  match readCode hash input db with
  | none => some (db.tokens, false)
  | some (row, _) =>
    let issued := issuedToken hash input row
    if db.tokens.any fun token =>
        token.accessTokenHash = issued.accessTokenHash ||
          token.refreshTokenHash = issued.refreshTokenHash ||
          token.authCodeHash = issued.authCodeHash then none
    else some (db.tokens ++ [issued], true)

/-- The codes when the redeemed one is marked, and whether exactly one was. -/
def consumeCode (codes : List AuthCodeRow) (tokens : List TokenRow) : List AuthCodeRow × Bool :=
  if tokens.any fun token =>
      token.authCodeHash = some (hash input.code) &&
        token.accessTokenHash = hash input.access then
    (codes.map fun row =>
        if redeemable hash input row then { row with used := true } else row,
      codes.countP (redeemable hash input) = 1)
  else (codes, false)

/-- The redemption batch, and whether both of its statements changed one row. -/
def redeemBatch (db : OAuthDatabase) : Option (OAuthDatabase × Bool) :=
  match insertIssued hash input db with
  | none => none
  | some (tokens, tokenInserted) =>
    let (codes, codeConsumed) := consumeCode hash input db.codes tokens
    some ({ db with tokens := tokens, codes := codes }, tokenInserted && codeConsumed)

def redeemedRecord (row : AuthCodeRow) : AuthCodeRecord where
  code := input.code
  clientId := row.clientId
  principalId := row.principalId
  redirectUri := row.redirectUri
  scope := row.scope
  codeChallenge := row.codeChallenge
  codeChallengeMethod := row.codeChallengeMethod
  expiresAt := row.expiresAt
  resource := truthy row.resource

def redeemedToken (row : AuthCodeRow) (tenantId : String) : TokenRecord where
  accessToken := input.access
  refreshToken := input.refresh
  clientId := row.clientId
  scope := row.scope
  principal := row.principalId
  expiresAt := input.issuedAt + accessTokenTtlMs
  refreshExpiresAt := input.issuedAt + refreshTokenIdleTtlMs
  refreshFamily := input.family
  tenantId := tenantId
  resource := truthy row.resource

/-- One statement, or one batch, of `redeemAuthCode`. -/
def redeemAuthCode (db : OAuthDatabase) : RedeemPhase → OAuthDatabase × RedeemPhase
  | .read =>
    (db,
      match readCode hash input db with
      | none => .done .invalidGrant
      | some (row, tenantId) =>
        if resourceRefused input row then .done .invalidGrant else .redeem row tenantId)
  | .redeem row tenantId =>
    match redeemBatch hash input db with
    | none => (db, .conflict)
    | some (db', true) =>
      (db', .done (.redeemed (redeemedRecord input row) (redeemedToken input row tenantId)))
    | some (db', false) => (db', .done .invalidGrant)
  | .conflict =>
    (db,
      if db.tokens.any fun token => token.authCodeHash = some (hash input.code) then
        .done .invalidGrant
      else .done .thrown)
  | .done answer => (db, .done answer)

end Redeem

/-! ## Revoking a token -/

/-- The statement a revocation runs next. -/
inductive RevokePhase where
  | read
  | revoke (principalId : String)
  | done

section Revoke

variable (hash : String → String) (token : String)

/-- The row of the token: a refresh token is known by how it begins. -/
def isTokenRow (row : TokenRow) : Bool :=
  if token.startsWith "rtk_" then row.refreshTokenHash = hash token
  else row.accessTokenHash = hash token

/-- The batch that revokes one token. -/
def revokeBatch (db : Database) (principalId : String) : Database :=
  { db with
    principals :=
      if db.tokens.any fun row => isTokenRow hash token row && !row.revoked then
        db.principals.map fun principal =>
          if principal.id = principalId then
            { principal with
              revocationEpoch := principal.revocationEpoch + 1
              revocationReason := some "explicit_revocation"
              credentialGeneration := principal.credentialGeneration + 1
              epochPositive := principal.epoch_next
              generationPositive := principal.generation_next }
          else principal
      else db.principals
    tokens := db.tokens.map fun row =>
      if isTokenRow hash token row && !row.revoked then { row with revoked := true } else row }

/-- One statement, or one batch, of `revokeToken`. -/
def revokeToken (db : Database) : RevokePhase → Database × RevokePhase
  | .read =>
    (db,
      match db.tokens.find? (isTokenRow hash token) with
      | none => .done
      | some row => if row.revoked then .done else .revoke row.principalId)
  | .revoke principalId => (revokeBatch hash token db principalId, .done)
  | .done => (db, .done)

end Revoke

/-! ## Calls taking turns -/

/-- A call of one of the three operations, and where it is. -/
inductive OAuthCall where
  | redeem (input : RedeemInput) (phase : RedeemPhase)
  | rotate (token : String) (call : RefreshCall) (phase : Phase)
  | revoke (token : String) (phase : RevokePhase)

/-- A statement on the tables of the tokens leaves the codes and the clients. -/
def OAuthDatabase.withTokens (db : OAuthDatabase) (tables : Database) : OAuthDatabase :=
  { tables with codes := db.codes, clients := db.clients }

/-- The next statement of a call. -/
def OAuthCall.advance (hash : String → String) (db : OAuthDatabase) :
    OAuthCall → OAuthDatabase × OAuthCall
  | .redeem input phase =>
    let after := redeemAuthCode hash input db phase
    (after.1, .redeem input after.2)
  | .rotate token call phase =>
    let after := ControlPlane.advance hash token call db.toDatabase phase
    (db.withTokens after.1, .rotate token call after.2)
  | .revoke token phase =>
    let after := revokeToken hash token db.toDatabase phase
    (db.withTokens after.1, .revoke token after.2)

/-- Any number of calls on one database. -/
structure OAuthState (ι : Type) where
  db : OAuthDatabase
  calls : ι → OAuthCall

/-- One of the calls runs its next statement. -/
inductive OAuthStep {ι : Type} [DecidableEq ι] (hash : String → String) :
    OAuthState ι → ι → OAuthState ι → Prop where
  | step (s : OAuthState ι) (i : ι) :
      OAuthStep hash s i
        { db := ((s.calls i).advance hash s.db).1
          calls := Function.update s.calls i ((s.calls i).advance hash s.db).2 }

end OwnMesh.ControlPlane
