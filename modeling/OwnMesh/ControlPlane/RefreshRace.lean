import OwnMesh.ControlPlane.Refresh

/-!
# Calls that present one refresh token

Any number of calls present the same live refresh token and take turns, statement by
statement, with nothing else at work on its family.  The rotation batch claims the token for
one of them.  The others should be answered from its receipt, so that no call reports reuse,
the family stays, and all tokens handed out are the same (`Converges`).

Two things break this.

* A call looks for a receipt and then reads the ledger of used tokens.  If the batch of
  another call falls between the two, it finds no receipt and then finds the token used: it
  revokes the family.
* The call that rotated answers without the resource that the token is bound to; a call
  answered from the receipt has it.

`Kept` excludes exactly these steps, and `rotations_converge_iff` says that a run converges
throughout exactly when each of its steps is kept.  Nothing is assumed about the clocks of the
calls.
-/

namespace OwnMesh.ControlPlane

open Foundations List

/-- Calls that present one token, whose row is neither revoked nor used.  Their access
tokens are told apart by their hashes. -/
structure Presentation (ι : Type) where
  hash : String → String
  token : String
  calls : ι → RefreshCall
  row : TokenRow
  presents : row.refreshTokenHash = hash token
  unrevoked : row.revoked = false
  unused : row.refreshUsed = false
  distinct : ∀ i j, hash (calls i).access = hash (calls j).access → i = j

namespace Presentation

variable {ι : Type} (p : Presentation ι)

/-- The row is the only one of the token. -/
def Only (row : TokenRow) (db : Database) : Prop :=
  row ∈ db.tokens ∧ ∀ other ∈ db.tokens, other.refreshTokenHash = p.hash p.token → other = row

/-- What the first read of a call has found. -/
def Known (pre : PreRead) : Prop := pre.row = p.row

/-- Receipts for the token are those of the calls. -/
def OwnReceipts (db : Database) : Prop :=
  ∀ receipt ∈ db.receipts, receipt.oldRefreshTokenHash = p.hash p.token →
    ∃ k pre, p.Known pre ∧ receipt = receiptOf p.hash p.token (p.calls k) pre

/-- The successor that a call inserts while the family stands. -/
def successor (i : ι) : TokenRow :=
  { markUsed p.row with
    accessTokenHash := p.hash (p.calls i).access
    refreshTokenHash := p.hash (p.calls i).refresh
    refreshUsed := false
    revoked := false
    expiresAt := (p.calls i).nowMs + accessTokenTtlMs
    refreshExpiresAt := (p.calls i).nowMs + refreshTokenIdleTtlMs
    authCodeHash := none }

/-! ## Before and after the claim -/

/-- No call has claimed the token. -/
structure Unclaimed (db : Database) : Prop where
  only : p.Only p.row db
  ledger : ∀ used ∈ db.used, used.refreshTokenHash ≠ p.hash p.token
  standing : p.row.refreshFamily ∉ db.revokedFamilies
  receipts : p.OwnReceipts db
  freshAccess : ∀ i, ∀ row ∈ db.tokens, row.accessTokenHash ≠ p.hash (p.calls i).access
  freshRefresh : ∀ i, ∀ row ∈ db.tokens, row.refreshTokenHash ≠ p.hash (p.calls i).refresh

/-- The call has claimed the token, and inserted its successor or not. -/
structure Claimed (winner : ι) (inserted : Bool) (db : Database) : Prop where
  only : p.Only (markUsed p.row) db
  ledger : ∃ used ∈ db.used, used.refreshTokenHash = p.hash p.token
  standing : p.row.refreshFamily ∉ db.revokedFamilies
  receipts : p.OwnReceipts db
  current : ∃ row ∈ db.tokens, row.refreshFamily = p.row.refreshFamily ∧
    row.refreshTokenHash ≠ p.hash p.token ∧ row.refreshUsed = false ∧ row.revoked = false
  successor : inserted = true → p.successor winner ∈ db.tokens
  issued : ∀ i, ∀ row ∈ db.tokens, row.accessTokenHash = p.hash (p.calls i).access →
    i = winner ∧ row = p.successor winner

/-- Where a call can be before the claim. -/
inductive Early : Phase → Prop where
  | read : Early .read
  | receipt (stage : Stage) {pre : PreRead} (known : p.Known pre) : Early (.receipt stage pre)
  | successor (stage : Stage) {pre of : PreRead} (k : ι) (known : p.Known pre)
      (ofKnown : p.Known of) :
      Early (.successor stage pre (receiptOf p.hash p.token (p.calls k) of))
  | ledger {pre : PreRead} (known : p.Known pre) : Early (.ledger pre)
  | rotate {pre : PreRead} (known : p.Known pre) : Early (.rotate pre)
  | raced {pre : PreRead} (known : p.Known pre) : Early (.raced pre)
  | lostLedger {pre : PreRead} (known : p.Known pre) : Early (.lostLedger pre)
  | refused : Early (.done .invalidGrant)

/-- The token is the one the winner drew. -/
structure IsFrom (winner : ι) (token : TokenRecord) : Prop where
  access : token.accessToken = (p.calls winner).access
  refresh : token.refreshToken = (p.calls winner).refresh
  scope : token.scope = p.row.scope

/-- Where a call can be after the claim. -/
inductive Late (winner : ι) (inserted : Bool) (i : ι) : Phase → Prop where
  | read : Late winner inserted i .read
  | receipt (stage : Stage) (pre : PreRead) : Late winner inserted i (.receipt stage pre)
  | successor (stage : Stage) (pre : PreRead) {of : PreRead} (k : ι) (ofKnown : p.Known of) :
      Late winner inserted i
        (.successor stage pre (receiptOf p.hash p.token (p.calls k) of))
  | family (stage : Stage) (pre : PreRead) {of : PreRead} (ofKnown : p.Known of) :
      Late winner inserted i
        (.family stage pre (receiptOf p.hash p.token (p.calls winner) of) (p.successor winner))
  | ledger (pre : PreRead) : Late winner inserted i (.ledger pre)
  | rotate {pre : PreRead} (known : p.Known pre) (other : i ≠ winner) :
      Late winner inserted i (.rotate pre)
  | raced (pre : PreRead) : Late winner inserted i (.raced pre)
  | lostLedger (pre : PreRead) : Late winner inserted i (.lostLedger pre)
  | won {pre : PreRead} (known : p.Known pre) (self : i = winner) (there : inserted = true) :
      Late winner inserted i (.won pre)
  | wonFamily {pre : PreRead} (known : p.Known pre) (self : i = winner) :
      Late winner inserted i (.wonFamily pre true)
  | answered {token : TokenRecord} (self : i = winner) (isFrom : p.IsFrom winner token)
      (bare : token.resource = none) : Late winner inserted i (.done (.ok token))
  | duplicate {token : TokenRecord} (isFrom : p.IsFrom winner token)
      (bound : token.resource = truthy p.row.resource) :
      Late winner inserted i (.done (.ok token))
  | refused : Late winner inserted i (.done .invalidGrant)

/-- The calls as they can be while they converge. -/
inductive Sound (s : Race ι) : Prop where
  | unclaimed (db : p.Unclaimed s.db) (phases : ∀ i, p.Early (s.phase i))
  | claimed (winner : ι) (inserted : Bool) (db : p.Claimed winner inserted s.db)
      (phases : ∀ i, p.Late winner inserted i (s.phase i))

/-! ## The property -/

/-- Two answers hand out the same token. -/
structure SameToken (a b : TokenRecord) : Prop where
  access : a.accessToken = b.accessToken
  refresh : a.refreshToken = b.refreshToken
  scope : a.scope = b.scope
  resource : a.resource = b.resource

/-- The call reports reuse, now or after the statements that are left to it. -/
def Reuses : Phase → Prop
  | .revoke _ _ _ => True
  | .record _ => True
  | .done .reuse => True
  | _ => False

/-- No call reports reuse, the family stands and all tokens handed out are the same. -/
structure Converges (s : Race ι) : Prop where
  noReuse : ∀ i, ¬ Reuses (s.phase i)
  standing : p.row.refreshFamily ∉ s.db.revokedFamilies
  same : ∀ i j a b, s.phase i = .done (.ok a) → s.phase j = .done (.ok b) → SameToken a b

/-- The statement reads whether the token has been used. -/
def ReadsMarks : Phase → Prop
  | .ledger _ => True
  | .raced _ => True
  | .lostLedger _ => True
  | _ => False

/-- The next statement of the call keeps the calls together: it does not look for marks of
use that are already there, and where the token is bound to a resource, the winner's answer
and an answer from the receipt do not meet. -/
structure Kept (s : Race ι) (i : ι) : Prop where
  unmarked : ReadsMarks (s.phase i) → ∀ used ∈ s.db.used,
    used.refreshTokenHash ≠ p.hash p.token
  first : truthy p.row.resource ≠ none → ∀ pre live, s.phase i = .wonFamily pre live →
    ∀ j token, s.phase j ≠ .done (.ok token)
  bound : truthy p.row.resource ≠ none → ∀ stage pre receipt successor,
    s.phase i = .family stage pre receipt successor →
    ∀ j token, s.phase j = .done (.ok token) → token.resource ≠ none

/-! ## The statements of the batch -/

/-- The next statement of a call. -/
abbrev next (i : ι) : Database → Phase → Database × Phase := advance p.hash p.token (p.calls i)

/-- The rows that the batch of a call claims. -/
abbrev claims (i : ι) : TokenRow → Bool := claimable p.hash p.token (p.calls i).nowMs

/-- The receipt of a call. -/
abbrev receipt (i : ι) : PreRead → ReceiptRow := receiptOf p.hash p.token (p.calls i)

variable {receipt : ReceiptRow} {pre : PreRead}

section Batch

variable {p} {db : Database} {winner : ι} {inserted : Bool}

/-- The receipts after a batch. -/
def receiptsAfter (db : Database) (i : ι) (pre : PreRead) : List ReceiptRow :=
  (insertReceipt (cleanReceipts db.receipts (p.calls i).nowMs)
    (p.receipt i pre)).1

variable {i : ι}

theorem OwnReceipts.after (own : p.OwnReceipts db) (known : p.Known pre) {db' : Database}
    (after : db'.receipts = receiptsAfter (p := p) db i pre) : p.OwnReceipts db' := by
  intro receipt member isOld
  rw [after, receiptsAfter, insertReceipt] at member
  have here : receipt ∈ cleanReceipts db.receipts (p.calls i).nowMs ∨
      receipt = p.receipt i pre := by
    split at member
    · exact .inl member
    · simpa using member
  rcases here with old | rfl
  · exact own receipt (mem_of_mem_filter old) isOld
  · exact ⟨i, pre, known, rfl⟩

theorem claimable_hash {now : Int} {row : TokenRow}
    (claims : claimable p.hash p.token now row = true) :
    row.refreshTokenHash = p.hash p.token ∧ row.revoked = false ∧ row.refreshUsed = false ∧
      now < row.refreshExpiresAt := by
  simpa [claimable, and_assoc] using claims

/-- A batch that claims nothing leaves all but the receipts. -/
theorem rotateBatch_idle (none_ : ∀ row ∈ db.tokens, p.claims i row = false)
    (noSource : successorSource p.hash p.token db.tokens db.used = none)
    (noAccess : ∀ row ∈ db.tokens, row.accessTokenHash ≠ p.hash (p.calls i).access) :
    rotateBatch p.hash p.token db (p.calls i) pre =
      some ({ db with receipts := receiptsAfter (p := p) db i pre }, false) := by
  have unfound : db.tokens.find? (p.claims i) = none := by
    simpa using none_
  have ledger : claimLedger p.hash p.token db.tokens db.used (p.calls i).nowMs =
      (db.used, false) := by
    simp only [claimLedger, unfound]
  have marked : markClaimed p.hash p.token db.tokens db.used (p.calls i).nowMs =
      (db.tokens, false) := by
    unfold markClaimed
    split
    · have same : (db.tokens.map fun row =>
          if p.claims i row then markUsed row else row) =
          db.tokens := by
        conv_rhs => rw [← map_id db.tokens]
        refine map_congr_left fun row member => ?_
        simp [none_ row member]
      have never : db.tokens.any (p.claims i) = false := by
        simpa using none_
      rw [same, never]
    · rfl
  have noRow : (db.tokens.any fun row =>
      row.accessTokenHash = p.hash (p.calls i).access && !row.revoked) = false := by
    simp only [any_eq_false, Bool.and_eq_true, decide_eq_true_eq, not_and]
    intro row member isAccess
    exact absurd isAccess (noAccess row member)
  have generation : advanceGeneration db.principals db.tokens pre.row.principalId
      (p.hash (p.calls i).access) = (db.principals, false) := by
    simp only [advanceGeneration, noRow, Bool.false_eq_true, if_false]
  simp only [rotateBatch, ledger, marked, insertSuccessor, noSource, generation, receiptsAfter,
    Bool.false_and]

/-! ### The batch that claims -/

/-- The tokens when the claimed one is marked. -/
def marked (db : Database) (i : ι) : List TokenRow :=
  db.tokens.map fun row =>
    if p.claims i row then markUsed row else row

theorem row_claimable (live : (p.calls i).nowMs < p.row.refreshExpiresAt) :
    p.claims i p.row = true := by
  simp [claimable, p.presents, p.unrevoked, p.unused, live]

section

variable (unclaimed : p.Unclaimed db) (live : (p.calls i).nowMs < p.row.refreshExpiresAt)
include unclaimed live

theorem Unclaimed.mem_marked (row : TokenRow) : row ∈ marked (p := p) db i ↔
      row = markUsed p.row ∨ row ∈ db.tokens ∧ row.refreshTokenHash ≠ p.hash p.token := by
  simp only [marked, mem_map]
  constructor
  · rintro ⟨old, member, rfl⟩
    by_cases isToken : old.refreshTokenHash = p.hash p.token
    · obtain rfl := unclaimed.only.2 old member isToken
      exact .inl (if_pos (row_claimable live))
    · have spared : ¬ p.claims i old = true :=
        fun claims => isToken (claimable_hash claims).1
      rw [if_neg spared]
      exact .inr ⟨member, isToken⟩
  · rintro (rfl | ⟨member, isOther⟩)
    · exact ⟨p.row, unclaimed.only.1, if_pos (row_claimable live)⟩
    · refine ⟨row, member, if_neg fun claims => isOther (claimable_hash claims).1⟩

theorem Unclaimed.claimLedger_eq : claimLedger p.hash p.token db.tokens db.used (p.calls i).nowMs =
      (db.used ++ [⟨p.hash p.token, p.row.refreshFamily⟩], true) := by
  obtain ⟨found, isFound⟩ : ∃ row, db.tokens.find? (p.claims i) = some row := by
    rw [← Option.isSome_iff_exists, find?_isSome]
    exact ⟨p.row, unclaimed.only.1, row_claimable live⟩
  obtain rfl : found = p.row :=
    unclaimed.only.2 found (mem_of_find?_eq_some isFound) (claimable_hash (find?_some isFound)).1
  have absent : (db.used.any fun entry =>
      entry.refreshTokenHash = p.hash p.token) = false := by
    simpa using unclaimed.ledger
  simp only [claimLedger, isFound, p.presents, absent, Bool.false_eq_true, if_false]

/-- Either the successor is inserted, or another token of the family is still live. -/
theorem Unclaimed.insertSuccessor_cases {used : List UsedRow}
    (ledger : ∃ entry ∈ used, entry.refreshTokenHash = p.hash p.token) :
    insertSuccessor p.hash p.token (marked (p := p) db i) used db.revokedFamilies (p.calls i) =
        some (marked (p := p) db i ++ [p.successor i], true) ∨
      insertSuccessor p.hash p.token (marked (p := p) db i) used db.revokedFamilies (p.calls i) =
          some (marked (p := p) db i, false) ∧
        ∃ row ∈ marked (p := p) db i, row.refreshFamily = p.row.refreshFamily ∧
          row.refreshTokenHash ≠ p.hash p.token ∧ row.refreshUsed = false ∧
          row.revoked = false := by
  have members := unclaimed.mem_marked live
  have markedHash : (markUsed p.row).refreshTokenHash = p.hash p.token := p.presents
  unfold insertSuccessor
  rcases source : successorSource p.hash p.token (marked db i) used with _ | row
  · -- the marked row passes every test but the last
    refine .inr ⟨rfl, ?_⟩
    have rejected := find?_eq_none.mp source (markUsed p.row) ((members _).mpr (.inl rfl))
    have inLedger : (used.any fun entry =>
        entry.refreshTokenHash = (markUsed p.row).refreshTokenHash) = true := by
      rw [markedHash]
      simpa using ledger
    rw [inLedger, markedHash] at rejected
    have fields : (markUsed p.row).refreshUsed = true ∧ (markUsed p.row).revoked = true :=
      ⟨rfl, rfl⟩
    simp only [fields, Bool.and_true, decide_true, Bool.true_and, Bool.not_eq_true',
      Bool.not_eq_false, any_eq_true, Bool.and_eq_true, decide_eq_true_eq,
      and_assoc] at rejected
    exact rejected
  · refine .inl ?_
    have isSource := find?_some source
    simp only [Bool.and_eq_true, decide_eq_true_eq] at isSource
    obtain rfl : row = markUsed p.row := by
      rcases (members row).mp (mem_of_find?_eq_some source) with isMarked | ⟨-, isOther⟩
      · exact isMarked
      · exact absurd isSource.1.1.1.1 isOther
    have isSuccessor :
        successorOf p.hash db.revokedFamilies (p.calls i) (markUsed p.row) = p.successor i := by
      have standing : (markUsed p.row).refreshFamily ∉ db.revokedFamilies := unclaimed.standing
      simp [successorOf, successor, standing]
    have noConflict : ((marked (p := p) db i).any fun row =>
        row.accessTokenHash = (p.successor i).accessTokenHash ||
          row.refreshTokenHash = (p.successor i).refreshTokenHash) = false := by
      simp only [any_eq_false, Bool.or_eq_true, decide_eq_true_eq, not_or]
      intro row member
      rcases (members row).mp member with rfl | ⟨old, -⟩
      · exact ⟨unclaimed.freshAccess i p.row unclaimed.only.1,
          unclaimed.freshRefresh i p.row unclaimed.only.1⟩
      · exact ⟨unclaimed.freshAccess i _ old, unclaimed.freshRefresh i _ old⟩
    simp only [isSuccessor, noConflict, Bool.false_eq_true, if_false]

end

/-- A batch that finds the token live claims it. -/
theorem Unclaimed.claims (unclaimed : p.Unclaimed db) (known : p.Known pre)
    (live : (p.calls i).nowMs < p.row.refreshExpiresAt) :
    ∃ db' all inserted, rotateBatch p.hash p.token db (p.calls i) pre = some (db', all) ∧
      p.Claimed i inserted db' ∧ (all = true → inserted = true) := by
  have members := unclaimed.mem_marked live
  have isUsed : markUsed p.row ∈ marked db i := (members _).mpr (.inl rfl)
  have inLedger : ∃ entry ∈ db.used ++ [(⟨p.hash p.token, p.row.refreshFamily⟩ : UsedRow)],
      entry.refreshTokenHash = p.hash p.token :=
    ⟨_, mem_append_right _ (mem_singleton_self _), rfl⟩
  have onlyMarked : ∀ other ∈ marked (p := p) db i,
      other.refreshTokenHash = p.hash p.token → other = markUsed p.row := by
    intro other member isToken
    rcases (members other).mp member with isMarked | ⟨-, isOther⟩
    · exact isMarked
    · exact absurd isToken isOther
  have unissued : ∀ k, ∀ row ∈ marked (p := p) db i,
      row.accessTokenHash ≠ p.hash (p.calls k).access := by
    intro k row member
    rcases (members row).mp member with rfl | ⟨old, -⟩
    · exact unclaimed.freshAccess k p.row unclaimed.only.1
    · exact unclaimed.freshAccess k row old
  have otherToken : (p.successor i).refreshTokenHash ≠ p.hash p.token := by
    intro isToken
    exact unclaimed.freshRefresh i p.row unclaimed.only.1 (p.presents.trans isToken.symm)
  have marks : markClaimed p.hash p.token db.tokens (db.used ++ [⟨p.hash p.token,
      p.row.refreshFamily⟩]) (p.calls i).nowMs = (marked (p := p) db i, true) := by
    have there : (db.tokens.any (p.claims i)) = true :=
      any_eq_true.mpr ⟨p.row, unclaimed.only.1, row_claimable live⟩
    simp [markClaimed, there, marked]
  simp only [rotateBatch, unclaimed.claimLedger_eq live, marks]
  rcases unclaimed.insertSuccessor_cases live inLedger with inserts | ⟨inserts, current⟩
  · refine ⟨_, _, true, by rw [inserts], ?_, fun _ => rfl⟩
    refine
      { only := ⟨mem_append_left _ isUsed, ?_⟩
        ledger := inLedger
        standing := unclaimed.standing
        receipts := unclaimed.receipts.after known rfl
        current := ⟨p.successor i, by simp, rfl, otherToken, rfl, rfl⟩
        successor := fun _ => by simp
        issued := ?_ }
    · intro other member isToken
      rcases mem_append.mp member with old | added
      · exact onlyMarked other old isToken
      · obtain rfl := mem_singleton.mp added
        exact absurd isToken otherToken
    · intro k row member isAccess
      rcases mem_append.mp member with old | added
      · exact absurd isAccess (unissued k row old)
      · obtain rfl := mem_singleton.mp added
        exact ⟨p.distinct _ _ isAccess.symm, rfl⟩
  · refine ⟨_, _, false, by rw [inserts], ?_, by simp⟩
    exact
      { only := ⟨isUsed, onlyMarked⟩
        ledger := inLedger
        standing := unclaimed.standing
        receipts := unclaimed.receipts.after known rfl
        current := current
        successor := fun impossible => by cases impossible
        issued := fun k row member isAccess => absurd isAccess (unissued k row member) }

/-- A batch that comes too late for the token leaves it unclaimed. -/
theorem Unclaimed.idle (unclaimed : p.Unclaimed db) (known : p.Known pre)
    (expired : ¬ (p.calls i).nowMs < p.row.refreshExpiresAt) :
    ∃ db', rotateBatch p.hash p.token db (p.calls i) pre = some (db', false) ∧ p.Unclaimed db' := by
  refine ⟨_, rotateBatch_idle ?_ ?_ (unclaimed.freshAccess i), ?_⟩
  · intro row member
    by_contra claims
    obtain ⟨isToken, -, -, live⟩ := claimable_hash (Bool.not_eq_false _ ▸ claims)
    obtain rfl := unclaimed.only.2 row member isToken
    exact expired live
  · refine find?_eq_none.mpr fun row member => ?_
    simp only [Bool.and_eq_true, decide_eq_true_eq, not_and]
    rintro ⟨⟨⟨isToken, isUsed⟩, -⟩, -⟩
    obtain rfl := unclaimed.only.2 row member isToken
    exact absurd isUsed (by simp [p.unused])
  · exact { unclaimed with receipts := unclaimed.receipts.after known rfl }

/-- A batch after the claim changes only receipts. -/
theorem Claimed.idle (claimed : p.Claimed winner inserted db) (known : p.Known pre)
    (other : i ≠ winner) :
    ∃ db', rotateBatch p.hash p.token db (p.calls i) pre = some (db', false) ∧
      p.Claimed winner inserted db' := by
  refine ⟨_, rotateBatch_idle ?_ ?_ ?_, ?_⟩
  · intro row member
    by_contra claims
    obtain ⟨isToken, unrevoked, -⟩ := claimable_hash (Bool.not_eq_false _ ▸ claims)
    obtain rfl := claimed.only.2 row member isToken
    cases unrevoked
  · -- a token of the family is live
    refine find?_eq_none.mpr fun row member => ?_
    simp only [Bool.and_eq_true, decide_eq_true_eq, not_and, Bool.not_eq_true', Bool.not_eq_false]
    rintro ⟨⟨⟨isToken, -⟩, -⟩, -⟩
    obtain rfl := claimed.only.2 row member isToken
    obtain ⟨current, there, family, isOther, unused, unrevoked⟩ := claimed.current
    refine any_eq_true.mpr ⟨current, there, ?_⟩
    simp [markUsed, family, p.presents, isOther, unused, unrevoked]
  · intro row member isAccess
    exact other (claimed.issued i row member isAccess).1
  · exact { claimed with receipts := claimed.receipts.after known rfl }

end Batch

/-! ## One statement of a call -/

section Advance

variable {p} {db : Database} {winner i : ι} {inserted : Bool} {phase : Phase}

theorem readRow_row {row : TokenRow} (only : p.Only row db)
    (found : readRow p.hash p.token db = some pre) : pre.row = row := by
  simp only [readRow, Option.bind_eq_bind, Option.bind_eq_some_iff, Option.pure_def,
    Option.some.injEq] at found
  obtain ⟨read, isRead, -, -, rfl⟩ := found
  have isToken := find?_some isRead
  exact only.2 read (mem_of_find?_eq_some isRead) (decide_eq_true_eq.mp isToken)

theorem readReceipt_own (own : p.OwnReceipts db)
    (found : readReceipt p.hash p.token db = some receipt) :
    ∃ k of, p.Known of ∧ receipt = p.receipt k of := by
  have isOld := find?_some found
  exact own receipt (mem_of_find?_eq_some found) (decide_eq_true_eq.mp isOld)

theorem Unclaimed.readUsed (unclaimed : p.Unclaimed db) : readUsed p.hash p.token db = none := by
  refine find?_eq_none.mpr fun used member => ?_
  simpa using unclaimed.ledger used member

theorem Early.miss (stage : Stage) (known : p.Known pre) : p.Early (afterMiss pre stage) := by
  cases stage with
  | first => exact .ledger known
  | lost => exact .raced known

/-- Before the claim a statement leaves the token unclaimed, or it is the batch that claims
it. -/
theorem Early.advances (early : p.Early phase) (unclaimed : p.Unclaimed db) :
    p.Unclaimed (p.next i db phase).1 ∧ p.Early (p.next i db phase).2 ∨
      ∃ inserted, p.Claimed i inserted (p.next i db phase).1 ∧
        p.Late i inserted i (p.next i db phase).2 ∧
        ∀ token, (p.next i db phase).2 ≠ .done (.ok token) := by
  cases early with
  | read =>
    refine .inl ⟨unclaimed, ?_⟩
    simp only [advance]
    rcases found : readRow p.hash p.token db with _ | pre
    · exact .refused
    · have known : p.Known pre := readRow_row unclaimed.only found
      dsimp only
      split_ifs
      · exact .refused
      · exact .refused
      · exact .receipt .first known
  | @receipt stage pre known =>
    refine .inl ⟨unclaimed, ?_⟩
    simp only [advance]
    rcases found : readReceipt p.hash p.token db with _ | receipt
    · exact Early.miss stage known
    · obtain ⟨k, of, ofKnown, rfl⟩ := readReceipt_own unclaimed.receipts found
      dsimp only
      split_ifs
      · exact Early.miss stage known
      · exact .successor stage k known ofKnown
  | @successor stage pre of k known =>
    refine .inl ⟨unclaimed, ?_⟩
    have absent : readAccess db (p.hash (p.calls k).access) = none := by
      refine find?_eq_none.mpr fun row member => ?_
      simpa using unclaimed.freshAccess k row member
    have missed : (p.next i db (.successor stage pre (p.receipt k of))).2 =
        afterMiss pre stage := by
      simp only [advance, receiptOf, absent]
    rw [missed]
    exact Early.miss stage known
  | @ledger pre known =>
    refine .inl ⟨unclaimed, ?_⟩
    have unrevoked : pre.row.revoked = false := by rw [known, p.unrevoked]
    have unused : pre.row.refreshUsed = false := by rw [known, p.unused]
    simp only [advance, unclaimed.readUsed, unrevoked, unused, Bool.false_eq_true, false_and,
      if_false]
    exact .rotate known
  | @rotate pre known =>
    by_cases live : (p.calls i).nowMs < p.row.refreshExpiresAt
    · obtain ⟨db', all, inserted, batch, claimed, whole⟩ := unclaimed.claims known live
      refine .inr ⟨inserted, ?_⟩
      cases all with simp only [advance, batch]
      | false =>
        exact ⟨claimed, .receipt .lost pre, fun _ => Phase.noConfusion⟩
      | true =>
        exact ⟨claimed, .won known rfl (whole rfl), fun _ => Phase.noConfusion⟩
    · obtain ⟨db', batch, still⟩ := unclaimed.idle known live
      refine .inl ?_
      simp only [advance, batch]
      exact ⟨still, .receipt .lost known⟩
  | @raced pre known =>
    refine .inl ⟨unclaimed, ?_⟩
    have unmarked : (db.tokens.find? fun row =>
        row.refreshTokenHash = p.hash p.token && row.refreshUsed) = none := by
      refine find?_eq_none.mpr fun row member => ?_
      simp only [Bool.and_eq_true, decide_eq_true_eq, not_and]
      intro isToken
      rw [unclaimed.only.2 row member isToken, p.unused]
      exact Bool.false_ne_true
    simp only [advance, unmarked]
    exact .lostLedger known
  | lostLedger =>
    refine .inl ⟨unclaimed, ?_⟩
    simp only [advance, unclaimed.readUsed]
    exact .refused
  | refused => exact .inl ⟨unclaimed, .refused⟩

/-- After the claim a call that looks for marks of use finds one. -/
theorem Claimed.marks (claimed : p.Claimed winner inserted db) (reads : ReadsMarks phase) :
    Reuses (p.next i db phase).2 := by
  obtain ⟨used, isUsed⟩ : ∃ used, readUsed p.hash p.token db = some used := by
    rw [← Option.isSome_iff_exists]
    simpa [ControlPlane.readUsed] using claimed.ledger
  cases phase with
  | ledger | lostLedger => simp only [advance, isUsed, Reuses]
  | raced =>
    obtain ⟨row, isRow⟩ : ∃ row, (db.tokens.find? fun row =>
        row.refreshTokenHash = p.hash p.token && row.refreshUsed) = some row := by
      rw [← Option.isSome_iff_exists, find?_isSome]
      exact ⟨markUsed p.row, claimed.only.1, by simp [markUsed, p.presents]⟩
    simp only [advance, isRow, Reuses]
  | _ => exact reads.elim

theorem Late.miss (stage : Stage) (pre : PreRead) :
    p.Late winner inserted i (afterMiss pre stage) := by
  cases stage with
  | first => exact .ledger pre
  | lost => exact .raced pre

/-- A call that reached the family of the winner's receipt is answered from it. -/
theorem Claimed.duplicates (claimed : p.Claimed winner inserted db) (i : ι) (stage : Stage)
    (pre : PreRead) {of : PreRead} (ofKnown : p.Known of) : ∃ token, (p.next i db
        (.family stage pre (p.receipt winner of) (p.successor winner))).2 = .done (.ok token) ∧
      p.IsFrom winner token ∧ token.resource = truthy p.row.resource := by
  have standing : (p.receipt winner of).refreshFamily ∉ db.revokedFamilies := by
    change of.row.refreshFamily ∉ db.revokedFamilies
    rw [ofKnown]
    exact claimed.standing
  have opens : openReceipt p.hash p.token (p.receipt winner of) =
      some (p.receipt winner of).encryptedSuccessor :=
    if_pos ⟨rfl, rfl, rfl⟩
  simp only [advance, if_neg standing, opens]
  refine ⟨_, rfl, ⟨rfl, rfl, ?_⟩, rfl⟩
  exact congrArg TokenRow.scope ofKnown

/-- The winner's last read answers it. -/
theorem Claimed.answers (claimed : p.Claimed winner inserted db) (known : p.Known pre) :
    ∃ token, (p.next winner db (.wonFamily pre true)).2 =
        .done (.ok token) ∧ p.IsFrom winner token ∧ token.resource = none := by
  have standing : pre.row.refreshFamily ∉ db.revokedFamilies := by
    rw [known]
    exact claimed.standing
  simp only [advance, standing, not_false_eq_true, and_self, if_true]
  refine ⟨_, rfl, ⟨rfl, rfl, ?_⟩, rfl⟩
  exact congrArg TokenRow.scope known

/-- The call is answered by this statement. -/
def Answers : Phase → Prop
  | .family _ _ _ _ => True
  | .wonFamily _ _ => True
  | _ => False

/-- After the claim every statement that does not look for marks of use leaves the token
claimed and the call where it can be. -/
theorem Late.advances (late : p.Late winner inserted i phase)
    (claimed : p.Claimed winner inserted db) (spares : ¬ ReadsMarks phase)
    (active : ∀ answer, phase ≠ .done answer) : p.Claimed winner inserted (p.next i db phase).1 ∧
      p.Late winner inserted i (p.next i db phase).2 ∧ (¬ Answers phase → ∀ token,
        (p.next i db phase).2 ≠ .done (.ok token)) := by
  have missed (pre stage) : ∀ token, afterMiss pre stage ≠ .done (.ok token) := by
    cases stage <;> simp [afterMiss]
  cases late with
  | read =>
    refine ⟨claimed, ?_⟩
    simp only [advance]
    rcases found : readRow p.hash p.token db with _ | pre
    · exact ⟨.refused, fun _ _ => by simp⟩
    · dsimp only
      split_ifs
      · exact ⟨.refused, fun _ _ => by simp⟩
      · exact ⟨.refused, fun _ _ => by simp⟩
      · exact ⟨.receipt .first pre, fun _ _ => by simp⟩
  | receipt stage pre =>
    refine ⟨claimed, ?_⟩
    simp only [advance]
    rcases found : readReceipt p.hash p.token db with _ | receipt
    · exact ⟨Late.miss stage pre, fun _ => missed pre stage⟩
    · obtain ⟨k, of, ofKnown, rfl⟩ := readReceipt_own claimed.receipts found
      dsimp only
      split_ifs
      · exact ⟨Late.miss stage pre, fun _ => missed pre stage⟩
      · exact ⟨.successor stage pre k ofKnown, fun _ _ => by simp⟩
  | @successor stage pre of k ofKnown =>
    refine ⟨claimed, ?_⟩
    simp only [advance]
    rcases found : readAccess db
      (p.receipt k of).successorAccessTokenHash with _ | row
    · exact ⟨Late.miss stage pre, fun _ => missed pre stage⟩
    · have isAccess := find?_some found
      obtain ⟨rfl, rfl⟩ := claimed.issued k row (mem_of_find?_eq_some found)
        (decide_eq_true_eq.mp isAccess)
      dsimp only
      split_ifs
      · exact ⟨Late.miss stage pre, fun _ => missed pre stage⟩
      · exact ⟨.family stage pre ofKnown, fun _ _ => by simp⟩
  | @family stage pre of ofKnown =>
    obtain ⟨token, answer, isFrom, bound⟩ := claimed.duplicates i stage pre ofKnown
    refine ⟨claimed, ?_, fun silent => absurd trivial silent⟩
    rw [answer]
    exact .duplicate isFrom bound
  | ledger | raced | lostLedger => exact absurd trivial spares
  | @rotate pre known other =>
    obtain ⟨db', batch, still⟩ := claimed.idle known other
    simp only [advance, batch]
    exact ⟨still, .receipt .lost pre, fun _ _ => by simp⟩
  | @won pre known self there =>
    subst self
    have found : readAccess db (p.hash (p.calls i).access) = some (p.successor i) := by
      have isSome : (readAccess db (p.hash (p.calls i).access)).isSome = true := by
        refine find?_isSome.mpr ⟨p.successor i, claimed.successor there, ?_⟩
        exact decide_eq_true rfl
      obtain ⟨row, isRow⟩ := Option.isSome_iff_exists.mp isSome
      have isAccess := find?_some isRow
      rw [isRow, (claimed.issued i row (mem_of_find?_eq_some isRow)
        (decide_eq_true_eq.mp isAccess)).2]
    have live : ((readAccess db (p.hash (p.calls i).access)).any fun row => !row.revoked) =
        true := by
      rw [found]
      rfl
    refine ⟨claimed, ?_⟩
    simp only [advance, live]
    exact ⟨.wonFamily known rfl, fun _ _ => by simp⟩
  | @wonFamily pre known self =>
    subst self
    obtain ⟨token, answer, isFrom, bare⟩ := claimed.answers known
    refine ⟨claimed, ?_, fun silent => absurd trivial silent⟩
    rw [answer]
    exact .answered rfl isFrom bare
  | answered | duplicate | refused => exact absurd rfl (active _)

end Advance

/-! ## Runs -/

section Runs

variable {p} {s : Race ι} {winner i : ι} {inserted : Bool}

theorem IsFrom.same {a b : TokenRecord} (left : p.IsFrom winner a) (right : p.IsFrom winner b)
    (resource : a.resource = b.resource) : SameToken a b where
  access := left.access.trans right.access.symm
  refresh := left.refresh.trans right.refresh.symm
  scope := left.scope.trans right.scope.symm
  resource := resource

variable {token : TokenRecord}

theorem Late.handsOut (late : p.Late winner inserted i (.done (.ok token))) :
    p.IsFrom winner token ∧
      (i = winner ∧ token.resource = none ∨ token.resource = truthy p.row.resource) := by
  cases late with
  | answered self isFrom bare => exact ⟨isFrom, .inl ⟨self, bare⟩⟩
  | duplicate isFrom bound => exact ⟨isFrom, .inr bound⟩

variable {phase : Phase}

theorem Early.late (early : p.Early phase) (other : i ≠ winner) :
    p.Late winner inserted i phase := by
  cases early with
  | read => exact .read
  | receipt stage => exact .receipt stage _
  | successor stage k _ ofKnown => exact .successor stage _ k ofKnown
  | ledger => exact .ledger _
  | rotate known => exact .rotate known other
  | raced => exact .raced _
  | lostLedger => exact .lostLedger _
  | refused => exact .refused

theorem Early.silent (early : p.Early phase) (token : TokenRecord) : phase ≠ .done (.ok token) := by
  rintro rfl
  cases early

theorem Early.calm (early : p.Early phase) : ¬ Reuses phase := by
  cases early <;> exact id

theorem Late.calm (late : p.Late winner inserted i phase) : ¬ Reuses phase := by
  cases late <;> exact id

/-- Where the calls are sound, only the tokens handed out can keep them from converging. -/
theorem Sound.converges (sound : p.Sound s)
    (same : ∀ i j a b, s.phase i = .done (.ok a) → s.phase j = .done (.ok b) →
      SameToken a b) : p.Converges s := by
  cases sound with
  | unclaimed db phases | claimed winner inserted db phases =>
    exact ⟨fun i => (phases i).calm, db.standing, same⟩

/-- The calls are about to present the token: its row is the only one, it has neither been
used nor left a receipt, its family stands, and the tokens that the calls draw are new. -/
structure Ready (p : Presentation ι) (s : Race ι) : Prop where
  only : p.Only p.row s.db
  ledger : ∀ used ∈ s.db.used, used.refreshTokenHash ≠ p.hash p.token
  standing : p.row.refreshFamily ∉ s.db.revokedFamilies
  noReceipt : ∀ receipt ∈ s.db.receipts, receipt.oldRefreshTokenHash ≠ p.hash p.token
  freshAccess : ∀ i, ∀ row ∈ s.db.tokens, row.accessTokenHash ≠ p.hash (p.calls i).access
  freshRefresh : ∀ i, ∀ row ∈ s.db.tokens, row.refreshTokenHash ≠ p.hash (p.calls i).refresh
  phases : ∀ i, s.phase i = .read

theorem Ready.sound (ready : p.Ready s) : p.Sound s := by
  refine .unclaimed ?_ fun i => ?_
  · exact
      { only := ready.only
        ledger := ready.ledger
        standing := ready.standing
        receipts := fun receipt member isOld => absurd isOld (ready.noReceipt receipt member)
        freshAccess := ready.freshAccess
        freshRefresh := ready.freshRefresh }
  · rw [ready.phases i]
    exact .read

theorem Ready.converges (ready : p.Ready s) : p.Converges s := by
  refine ready.sound.converges fun i j a b answered _ => ?_
  rw [ready.phases i] at answered
  cases answered

variable [DecidableEq ι]

/-- Where the next statement of a call leaves all. -/
def after (p : Presentation ι) (s : Race ι) (i : ι) : Race ι where
  db := (p.next i s.db (s.phase i)).1
  phase := Function.update s.phase i (p.next i s.db (s.phase i)).2

theorem after_phase_self : (p.after s i).phase i = (p.next i s.db (s.phase i)).2 :=
  Function.update_self ..

theorem after_phase_other {j : ι} (other : j ≠ i) : (p.after s i).phase j = s.phase j :=
  Function.update_of_ne other ..

theorem after_phases {Q : ι → Phase → Prop} (self : Q i (p.next i s.db (s.phase i)).2)
    (others : ∀ j, j ≠ i → Q j (s.phase j)) : ∀ j, Q j ((p.after s i).phase j) :=
  (Function.forall_update_iff s.phase Q).mpr ⟨self, others⟩

/-- Calls stay sound unless one finds marks of use. -/
theorem Sound.after (sound : p.Sound s) (active : ∀ answer, s.phase i ≠ .done answer)
    (calm : ¬ Reuses ((p.after s i).phase i)) : p.Sound (p.after s i) := by
  rw [after_phase_self] at calm
  cases sound with
  | unclaimed db phases =>
    rcases (phases i).advances db with ⟨still, early⟩ | ⟨inserted, claimed, late, -⟩
    · exact .unclaimed still (after_phases early fun j _ => phases j)
    · refine .claimed i inserted claimed ?_
      exact after_phases late fun j other => (phases j).late other
  | claimed winner inserted db phases =>
    have spares : ¬ ReadsMarks (s.phase i) := fun reads => calm (db.marks reads)
    obtain ⟨still, late, -⟩ := (phases i).advances db spares active
    refine .claimed winner inserted still ?_
    exact after_phases late fun j _ => phases j

/-- A statement leaves the tokens handed out the same if the one it answers with, if any, is
the same as theirs. -/
theorem Converges.same_after (converges : p.Converges s)
    (agrees : ∀ token, (p.after s i).phase i = .done (.ok token) →
      ∀ j other, s.phase j = .done (.ok other) → SameToken token other) :
    ∀ j k a b, (p.after s i).phase j = .done (.ok a) → (p.after s i).phase k = .done (.ok b) →
      SameToken a b := by
  intro j k a b left right
  by_cases selfLeft : j = i <;> by_cases selfRight : k = i
  · subst selfLeft selfRight
    obtain rfl : a = b := by simpa using left.symm.trans right
    exact ⟨rfl, rfl, rfl, rfl⟩
  · subst selfLeft
    rw [after_phase_other selfRight] at right
    exact agrees a left k b right
  · subst selfRight
    rw [after_phase_other selfLeft] at left
    have same := agrees b right j a left
    exact ⟨same.access.symm, same.refresh.symm, same.scope.symm, same.resource.symm⟩
  · rw [after_phase_other selfLeft] at left
    rw [after_phase_other selfRight] at right
    exact converges.same j k a b left right

/-- A statement before the claim always keeps the calls together. -/
theorem Unclaimed.converges_after (unclaimed : p.Unclaimed s.db) (phases : ∀ i, p.Early (s.phase i))
    (converges : p.Converges s) (active : ∀ answer, s.phase i ≠ .done answer) :
    p.Converges (p.after s i) ∧ p.Kept s i := by
  have next : ¬ Reuses ((p.after s i).phase i) ∧
      ∀ token, (p.after s i).phase i ≠ .done (.ok token) := by
    rw [after_phase_self]
    rcases (phases i).advances unclaimed with ⟨-, early⟩ | ⟨inserted, -, late, silent⟩
    · exact ⟨early.calm, early.silent⟩
    · exact ⟨late.calm, silent⟩
  refine ⟨?_, fun _ => unclaimed.ledger, ?_, ?_⟩
  · exact ((Sound.unclaimed unclaimed phases).after active next.1).converges
      (converges.same_after fun token answered => absurd answered (next.2 token))
  · intro _ pre live isPhase
    have early := phases i
    rw [isPhase] at early
    cases early
  · intro _ stage pre receipt successor isPhase
    have early := phases i
    rw [isPhase] at early
    cases early

section

variable (claimed : p.Claimed winner inserted s.db)
  (phases : ∀ i, p.Late winner inserted i (s.phase i)) (converges : p.Converges s)
  (active : ∀ answer, s.phase i ≠ .done answer)
include claimed phases converges active

/-- After the claim a statement that answers nobody and does not look for marks of use keeps
the calls together. -/
theorem Claimed.converges_silent (spares : ¬ ReadsMarks (s.phase i))
    (silent : ¬ Answers (s.phase i)) : p.Converges (p.after s i) ∧ p.Kept s i := by
  obtain ⟨-, late, unanswered⟩ := (phases i).advances claimed spares active
  refine ⟨?_, fun reads => absurd reads spares, ?_, ?_⟩
  · have calm : ¬ Reuses ((p.after s i).phase i) := by
      rw [after_phase_self]
      exact late.calm
    refine ((Sound.claimed winner inserted claimed phases).after active calm).converges
      (converges.same_after fun token answered => ?_)
    rw [after_phase_self] at answered
    exact absurd answered (unanswered silent token)
  · intro _ pre live isPhase
    rw [isPhase] at silent
    exact absurd trivial silent
  · intro _ stage pre receipt successor isPhase
    rw [isPhase] at silent
    exact absurd trivial silent

/-- An answer after the claim keeps the calls together exactly when its resource is that of
the tokens already handed out. -/
theorem Claimed.converges_answered
    (answered : (p.after s i).phase i = .done (.ok token)) (isFrom : p.IsFrom winner token) :
    p.Converges (p.after s i) ↔
      ∀ j other, s.phase j = .done (.ok other) → token.resource = other.resource := by
  constructor
  · intro kept j other there
    have notSelf : j ≠ i := by
      rintro rfl
      exact active _ there
    rw [← after_phase_other (s := s) notSelf] at there
    exact (kept.same i j token other answered there).resource
  · intro agree
    have calm : ¬ Reuses ((p.after s i).phase i) := by
      rw [answered]
      exact id
    refine ((Sound.claimed winner inserted claimed phases).after active calm).converges
      (converges.same_after ?_)
    intro token' again j other there
    obtain rfl : token = token' := by simpa using answered.symm.trans again
    have late := phases j
    rw [there] at late
    exact isFrom.same late.handsOut.1 (agree j other there)

theorem Claimed.converges_family {stage : Stage} {row : TokenRow}
    (isPhase : s.phase i = .family stage pre receipt row) :
    p.Converges (p.after s i) ↔ p.Kept s i := by
  have late := phases i
  rw [isPhase] at late
  obtain ⟨token, answered, isFrom, bound⟩ : ∃ token,
      (p.after s i).phase i = .done (.ok token) ∧ p.IsFrom winner token ∧
        token.resource = truthy p.row.resource := by
    rw [after_phase_self, isPhase]
    cases late with
    | family _ _ ofKnown => exact claimed.duplicates i stage pre ofKnown
  rw [claimed.converges_answered phases converges active answered isFrom, bound]
  constructor
  · intro agree
    refine ⟨fun reads => ?_, fun _ _ _ isWon => ?_, fun isBound _ _ _ _ _ j other there => ?_⟩
    · rw [isPhase] at reads
      exact reads.elim
    · rw [isPhase] at isWon
      cases isWon
    · rw [← agree j other there]
      exact isBound
  · intro kept j other there
    have theirs := phases j
    rw [there] at theirs
    rcases theirs.handsOut.2 with ⟨-, bare⟩ | duplicate
    · -- beside the winner's answer the token must not be bound
      rw [bare]
      by_contra isBound
      exact kept.bound isBound _ _ _ _ isPhase j other there bare
    · exact duplicate.symm

theorem Claimed.converges_wonFamily {live : Bool}
    (isPhase : s.phase i = .wonFamily pre live) : p.Converges (p.after s i) ↔ p.Kept s i := by
  have late := phases i
  rw [isPhase] at late
  obtain ⟨self, token, answered, isFrom, bare⟩ : i = winner ∧ ∃ token,
      (p.after s i).phase i = .done (.ok token) ∧ p.IsFrom winner token ∧
        token.resource = none := by
    rw [after_phase_self, isPhase]
    cases late with
    | wonFamily known self =>
      subst self
      exact ⟨rfl, claimed.answers known⟩
  -- the winner has no answer yet, so all answers so far come from its receipt
  have duplicates : ∀ j other, s.phase j = .done (.ok other) →
      other.resource = truthy p.row.resource := by
    intro j other there
    have theirs := phases j
    rw [there] at theirs
    rcases theirs.handsOut.2 with ⟨isWinner, -⟩ | duplicate
    · obtain rfl : j = i := isWinner.trans self.symm
      exact absurd there (active _)
    · exact duplicate
  rw [claimed.converges_answered phases converges active answered isFrom, bare]
  constructor
  · intro agree
    refine ⟨fun reads => ?_, fun isBound _ _ _ j other there => ?_, fun _ _ _ _ _ isFamily => ?_⟩
    · rw [isPhase] at reads
      exact reads.elim
    · rw [← duplicates j other there] at isBound
      exact isBound (agree j other there).symm
    · rw [isPhase] at isFamily
      cases isFamily
  · intro kept j other there
    rw [duplicates j other there]
    by_contra isBound
    exact kept.first (Ne.symm isBound) _ _ isPhase j other there

end

/-- A statement of a call keeps the calls together exactly when it is kept. -/
theorem Sound.converges_after_iff (sound : p.Sound s) (converges : p.Converges s)
    (active : ∀ answer, s.phase i ≠ .done answer) : p.Converges (p.after s i) ↔ p.Kept s i := by
  cases sound with
  | unclaimed db phases =>
    obtain ⟨together, kept⟩ := db.converges_after phases converges active
    exact iff_of_true together kept
  | claimed winner inserted db phases =>
    by_cases reads : ReadsMarks (s.phase i)
    · refine iff_of_false (fun together => ?_) (fun kept => ?_)
      · apply together.noReuse i
        rw [after_phase_self]
        exact db.marks reads
      · obtain ⟨used, there, isToken⟩ := db.ledger
        exact kept.unmarked reads used there isToken
    rcases isPhase : s.phase i with _ | _ | _ | ⟨stage, pre, receipt, row⟩ | _ | _ | _ | _ | _ |
      ⟨pre, live⟩ | _ | _ | _
    case family => exact db.converges_family phases converges active isPhase
    case wonFamily => exact db.converges_wonFamily phases converges active isPhase
    all_goals
      have silent : ¬ Answers (s.phase i) := by
        rw [isPhase]
        exact id
      obtain ⟨together, kept⟩ := db.converges_silent phases converges active reads silent
      exact iff_of_true together kept

/-- **Calls that present one live token converge throughout exactly when no call looks for
marks of use once the token is claimed and, where the token is bound to a resource, the
winner's answer and an answer from its receipt are not both given.** -/
theorem rotations_converge_iff (p : Presentation ι) {s t : Race ι} {labels : List ι}
    (ready : p.Ready s) (run : Run (RaceStep p.hash p.token p.calls) s labels t) :
    (∀ mid, Run.Visits (RaceStep p.hash p.token p.calls) s labels mid → p.Converges mid) ↔
      ∀ mid i, Run.Takes (RaceStep p.hash p.token p.calls) s labels mid i → p.Kept mid i := by
  refine (run.throughout_iff_while (J := p.Sound) ?_ ?_ ?_ ready.sound).trans
    (and_iff_right ready.converges)
  · rintro a i _ _ ⟨active⟩ ⟨-⟩
    rfl
  · rintro a i _ sound - together ⟨active⟩
    exact sound.after active (together.noReuse i)
  · rintro a i _ sound converges ⟨active⟩
    exact sound.converges_after_iff converges active

/-! ## Two calls -/

/-- The calls that have not been answered. -/
def unanswered : Phase → Bool
  | .done _ => false
  | _ => true

/-- The calls of a schedule are unanswered when their turns come. -/
def playable (p : Presentation ι) (s : Race ι) : List ι → Bool
  | [] => true
  | i :: rest => unanswered (s.phase i) && playable p (p.after s i) rest

theorem run_playable {schedule : List ι} {s : Race ι} (playable_ : playable p s schedule = true) :
    Run (RaceStep p.hash p.token p.calls) s schedule (schedule.foldl p.after s) := by
  induction schedule generalizing s with
  | nil => exact .done s
  | cons i rest ih =>
    obtain ⟨waits, later⟩ := Bool.and_eq_true_iff.mp playable_
    refine .next (RaceStep.step s i ?_) (ih later)
    intro answer isDone
    rw [isDone] at waits
    cases waits

end Runs

/-- Two calls at the same time, with a token bound to a resource. -/
def pair : Presentation Bool where
  hash := id
  token := "rtk_old"
  calls := fun second =>
    if second then { nowMs := 0, expectedResource := none, access := "atk_b", refresh := "rtk_b" }
    else { nowMs := 0, expectedResource := none, access := "atk_a", refresh := "rtk_a" }
  row :=
    { accessTokenHash := "atk_old", refreshTokenHash := "rtk_old", clientId := "client"
      principalId := "principal", scope := "mesh", refreshFamily := "family"
      refreshUsed := false, revoked := false, expiresAt := 1000, refreshExpiresAt := 1000
      authCodeHash := none, resource := some "node" }
  presents := rfl
  unrevoked := rfl
  unused := rfl
  distinct := by decide

def pairStart : Race Bool where
  db :=
    { tokens := [pair.row]
      principals :=
        [{ id := "principal", tenantId := "tenant", revocationEpoch := 1
           revocationReason := none, credentialGeneration := 1
           epochPositive := Nat.one_pos, generationPositive := Nat.one_pos }]
      used := []
      revokedFamilies := []
      receipts := [] }
  phase := fun _ => .read

theorem pair_ready : pair.Ready pairStart where
  only := ⟨mem_singleton_self _, fun _ member _ => mem_singleton.mp member⟩
  ledger := fun _ member => absurd member (by simp [pairStart])
  standing := by simp [pairStart]
  noReceipt := fun _ member => absurd member (by simp [pairStart])
  freshAccess := by decide
  freshRefresh := by decide
  phases := fun _ => rfl

/-- The first call's batch falls between the second call's two reads. -/
def overtaken : List Bool :=
  [true, true, false, false, false, false, true, true, false, false, false]

/-- The second call starts when the first has been answered. -/
def oneAfterTheOther : List Bool :=
  [false, false, false, false, false, false, true, true, true, true]

/-- Overtaken between its reads, a call revokes the family and both calls report reuse; and
of two calls one after the other, the first is answered without the resource. -/
theorem rotations_diverge :
    (∃ t, Run (RaceStep pair.hash pair.token pair.calls) pairStart overtaken t ∧
      t.phase false = .done .reuse ∧ t.phase true = .done .reuse ∧
      "family" ∈ t.db.revokedFamilies) ∧
    ∃ t a b, Run (RaceStep pair.hash pair.token pair.calls) pairStart oneAfterTheOther t ∧
      t.phase false = .done (.ok a) ∧ t.phase true = .done (.ok b) ∧
      a.resource = none ∧ b.resource = some "node" := by
  refine ⟨⟨_, run_playable (by decide), by decide, by decide, by decide⟩, ?_⟩
  refine ⟨_, _, _, run_playable (by decide), rfl, rfl, by decide, by decide⟩

theorem rotations_converge_iff_pair :
    (∀ mid, Run.Visits (RaceStep pair.hash pair.token pair.calls) pairStart overtaken mid →
        pair.Converges mid) ↔
      ∀ mid i, Run.Takes (RaceStep pair.hash pair.token pair.calls) pairStart overtaken mid i →
        pair.Kept mid i :=
  rotations_converge_iff pair pair_ready (run_playable (by decide))

end Presentation

end OwnMesh.ControlPlane
