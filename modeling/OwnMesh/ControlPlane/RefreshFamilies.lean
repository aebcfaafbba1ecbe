import OwnMesh.ControlPlane.Redemption

/-!
# Refresh families stay safe

Codes are redeemed, tokens rotated and revoked by any number of calls that take turns
statement by statement.  In every state that such calls reach

* a family has at most one token that is neither revoked nor used,
* a family that was once recorded as revoked has only revoked tokens, also those that a
  rotation inserts later,
* a code has yielded tokens of one family only.

The argument looks at the tables alone.  A statement changes the tokens in one of four ways:
it lets rows fade (they become revoked or used and nothing else), it lets them fade and
records their family as revoked, it adds the successor of a row whose family has no other
live token, or it adds the first token of a new family.  Each keeps `SoundTokens`.  That the
family is new is the one thing that depends on where the other calls are: no table and no call
may mention a family before the redemption that draws it (`Safe.unmentioned`).
-/

namespace OwnMesh.ControlPlane

open Foundations List Function

/-! ## Tables -/

/-- A token of the family that is neither revoked nor used. -/
def liveIn (family : String) (row : TokenRow) : Bool :=
  row.refreshFamily = family && !row.revoked && !row.refreshUsed

/-- A token that the code was redeemed for. -/
def issuedFor (code : String) (row : TokenRow) : Bool := row.authCodeHash = some code

/-- The tables keep what the schema and the operations promise. -/
structure SoundTokens (db : Database) : Prop where
  live : ∀ family, db.tokens.countP (liveIn family) ≤ 1
  revoked : ∀ family ∈ db.revokedFamilies, ∀ row ∈ db.tokens, row.refreshFamily = family →
    row.revoked = true
  refreshUnique : (db.tokens.map TokenRow.refreshTokenHash).Nodup
  codeUnique : ∀ code, db.tokens.countP (issuedFor code) ≤ 1

/-- The row becomes revoked or used, and nothing else. -/
structure Fades (before after : TokenRow) : Prop where
  refreshTokenHash : after.refreshTokenHash = before.refreshTokenHash
  refreshFamily : after.refreshFamily = before.refreshFamily
  authCodeHash : after.authCodeHash = before.authCodeHash
  revoked : before.revoked = true → after.revoked = true
  refreshUsed : before.refreshUsed = true → after.refreshUsed = true

namespace Fades

variable {before after : TokenRow}

theorem refl (row : TokenRow) : Fades row row := ⟨rfl, rfl, rfl, id, id⟩

theorem live (fades : Fades before after) {family : String}
    (isLive : liveIn family after = true) : liveIn family before = true := by
  simp only [liveIn, Bool.and_eq_true, decide_eq_true_eq, Bool.not_eq_true'] at isLive ⊢
  obtain ⟨⟨isFamily, unrevoked⟩, unused⟩ := isLive
  refine ⟨⟨fades.refreshFamily ▸ isFamily, ?_⟩, ?_⟩
  · exact Bool.eq_false_iff.mpr (mt fades.revoked (Bool.eq_false_iff.mp unrevoked))
  · exact Bool.eq_false_iff.mpr (mt fades.refreshUsed (Bool.eq_false_iff.mp unused))

end Fades

variable {db db' : Database} {g : TokenRow → TokenRow}

section Fading

/-- Rows that fade stay sound, and so they do when the revoked ones become more, if the new
ones have only revoked rows. -/
theorem SoundTokens.fade (sound : SoundTokens db) (fading : ∀ row, Fades row (g row))
    (tokens : db'.tokens = db.tokens.map g)
    (families : ∀ family ∈ db'.revokedFamilies, family ∈ db.revokedFamilies ∨
      ∀ row, row.refreshFamily = family → (g row).revoked = true) : SoundTokens db' where
  live := fun family => by
    rw [tokens, countP_map]
    exact (countP_mono_left fun row _ isLive => (fading row).live isLive).trans (sound.live family)
  revoked := fun family isRevoked row member isFamily => by
    rw [tokens] at member
    obtain ⟨old, there, rfl⟩ := mem_map.mp member
    rw [(fading old).refreshFamily] at isFamily
    rcases families family isRevoked with before | now
    · exact (fading old).revoked (sound.revoked family before old there isFamily)
    · exact now old isFamily
  refreshUnique := by
    have same : db.tokens.map (TokenRow.refreshTokenHash ∘ g) =
        db.tokens.map TokenRow.refreshTokenHash :=
      map_congr_left fun row _ => (fading row).refreshTokenHash
    rw [tokens, map_map, same]
    exact sound.refreshUnique
  codeUnique := fun code => by
    have same : db.tokens.countP (issuedFor code ∘ g) = db.tokens.countP (issuedFor code) :=
      countP_congr fun row _ => by rw [comp_apply, issuedFor, issuedFor, (fading row).authCodeHash]
    rw [tokens, countP_map, same]
    exact sound.codeUnique code

/-- A row that can be added to the tokens: its hash is new, it is the only live one of its family,
revoked if its family is, and the only one of its code. -/
structure Fits (tokens : List TokenRow) (families : List String) (row : TokenRow) : Prop where
  newHash : ∀ other ∈ tokens, other.refreshTokenHash ≠ row.refreshTokenHash
  alone : (tokens.map TokenRow.refreshTokenHash).Nodup → row.revoked = false →
    ∀ other ∈ tokens, liveIn row.refreshFamily other = false
  isRevoked : row.refreshFamily ∈ families → row.revoked = true
  newCode : ∀ code, row.authCodeHash = some code → ∀ other ∈ tokens,
    other.authCodeHash ≠ some code

/-- A row of a kind that no other row is of can be added. -/
theorem countP_add {p : TokenRow → Bool} {tokens : List TokenRow} {row : TokenRow}
    (few : tokens.countP p ≤ 1) (alone : p row → ∀ other ∈ tokens, ¬ p other) :
    (tokens ++ [row]).countP p ≤ 1 := by
  rw [countP_append, countP_singleton]
  split
  · next isOne => rw [countP_eq_zero.mpr (alone isOne)]
  · exact few

theorem SoundTokens.add (sound : SoundTokens db) {row : TokenRow}
    (tokens : db'.tokens = db.tokens ++ [row]) (families : db'.revokedFamilies = db.revokedFamilies)
    (fits : Fits db.tokens db.revokedFamilies row) : SoundTokens db' where
  live := fun family => by
    rw [tokens]
    refine countP_add (sound.live family) fun isLive other member => ?_
    simp only [liveIn, Bool.and_eq_true, decide_eq_true_eq, Bool.not_eq_true'] at isLive
    obtain ⟨⟨rfl, unrevoked⟩, -⟩ := isLive
    simp [fits.alone sound.refreshUnique unrevoked other member]
  revoked := fun family recorded other member isFamily => by
    rw [families] at recorded
    rw [tokens] at member
    rcases mem_append.mp member with old | added
    · exact sound.revoked family recorded other old isFamily
    · obtain rfl := mem_singleton.mp added
      exact fits.isRevoked (isFamily ▸ recorded)
  refreshUnique := by
    rw [tokens, map_append, map_singleton]
    refine nodup_append.mpr ⟨sound.refreshUnique, nodup_singleton _, ?_⟩
    intro hash there other isNew same
    obtain ⟨old, member, rfl⟩ := mem_map.mp there
    exact fits.newHash old member (same.trans (mem_singleton.mp isNew))
  codeUnique := fun code => by
    rw [tokens]
    refine countP_add (sound.codeUnique code) fun isIssued other member => ?_
    simp only [issuedFor, decide_eq_true_eq] at isIssued ⊢
    exact fits.newCode code isIssued other member

end Fading

/-! ## Changes of the tables -/

/-- The family stands in a table. -/
def Mentions (db : Database) (family : String) : Prop :=
  (∃ row ∈ db.tokens, row.refreshFamily = family) ∨
    (∃ entry ∈ db.used, entry.refreshFamily = family) ∨ family ∈ db.revokedFamilies

/-- A token of the family was issued for the code. -/
def Issues (db : Database) (code family : String) : Prop :=
  ∃ row ∈ db.tokens, row.authCodeHash = some code ∧ row.refreshFamily = family

/-- What a statement does to the tables: rows fade, and at most one is added.  A family that no
table mentioned is one that the statement draws. -/
structure Change (drawn : String → Prop) (db db' : Database) (g : TokenRow → TokenRow)
    (added : List TokenRow) : Prop where
  fading : ∀ row, Fades row (g row)
  tokens : db'.tokens = db.tokens.map g ++ added
  families : ∀ family ∈ db'.revokedFamilies, family ∈ db.revokedFamilies ∨
    drawn family ∧ ∀ row, row.refreshFamily = family → (g row).revoked = true
  kept : ∀ family ∈ db.revokedFamilies, family ∈ db'.revokedFamilies
  used : ∀ entry ∈ db'.used, Mentions db entry.refreshFamily ∨ drawn entry.refreshFamily
  fits : added = [] ∨ ∃ row, added = [row] ∧ db'.revokedFamilies = db.revokedFamilies ∧
    Fits (db.tokens.map g) db.revokedFamilies row
  mentioned : ∀ row ∈ added, Mentions db row.refreshFamily ∨ drawn row.refreshFamily

/-- The statement changes the tables in such a way. -/
def Changes (drawn : String → Prop) (db db' : Database) : Prop :=
  ∃ g added, Change drawn db db' g added

section Changes

variable {drawn : String → Prop} {family : String}

/-- Rows fade and nothing else happens. -/
theorem changes_of_fading (fading : ∀ row, Fades row (g row))
    (tokens : db'.tokens = db.tokens.map g) (families : db'.revokedFamilies = db.revokedFamilies)
    (used : db'.used = db.used) : Changes drawn db db' := by
  refine ⟨g, [], fading, ?_, ?_, ?_, ?_, .inl rfl, nofun⟩
  · rw [tokens, append_nil]
  · rw [families]
    exact fun family recorded => .inl recorded
  · rw [families]
    exact fun family recorded => recorded
  · rw [used]
    exact fun entry member => .inl (.inr (.inl ⟨entry, member, rfl⟩))

theorem Changes.refl (db : Database) : Changes drawn db db :=
  changes_of_fading Fades.refl (map_id _).symm rfl rfl

theorem Changes.sound (changes : Changes drawn db db') (sound : SoundTokens db) :
    SoundTokens db' := by
  obtain ⟨g, added, change⟩ := changes
  have tokens := change.tokens
  rcases change.fits with rfl | ⟨row, rfl, families, fits⟩
  · rw [append_nil] at tokens
    exact sound.fade change.fading tokens fun family recorded =>
      (change.families family recorded).imp_right And.right
  · have faded : SoundTokens { db with tokens := db.tokens.map g } :=
      sound.fade change.fading rfl fun family recorded => .inl recorded
    exact faded.add tokens families fits

theorem Changes.mentions (changes : Changes drawn db db') (there : Mentions db' family) :
    Mentions db family ∨ drawn family := by
  obtain ⟨g, added, change⟩ := changes
  rcases there with ⟨row, member, rfl⟩ | ⟨entry, member, rfl⟩ | recorded
  · rw [change.tokens] at member
    rcases mem_append.mp member with old | isAdded
    · obtain ⟨before, there, rfl⟩ := mem_map.mp old
      exact .inl (.inl ⟨before, there, ((change.fading before).refreshFamily).symm⟩)
    · exact change.mentioned row isAdded
  · exact change.used entry member
  · rcases change.families family recorded with before | ⟨isDrawn, -⟩
    · exact .inl (.inr (.inr before))
    · exact .inr isDrawn

theorem Changes.issues (changes : Changes drawn db db') {code : String}
    (issues : Issues db code family) : Issues db' code family := by
  obtain ⟨g, added, change⟩ := changes
  obtain ⟨row, member, isCode, isFamily⟩ := issues
  refine ⟨g row, ?_, ?_, ?_⟩
  · rw [change.tokens]
    exact mem_append_left _ (mem_map_of_mem member)
  · rw [(change.fading row).authCodeHash, isCode]
  · rw [(change.fading row).refreshFamily, isFamily]

/-- Revoking some rows lets them fade. -/
theorem revoking_fades (p : TokenRow → Bool) (row : TokenRow) :
    Fades row (if p row then { row with revoked := true } else row) := by
  split
  · exact ⟨rfl, rfl, rfl, fun _ => rfl, id⟩
  · exact Fades.refl row

end Changes

/-! ## Rotation -/

section Rotation

variable {hash : String → String} {token : String} {call : RefreshCall} {family : String}
  {tokens : List TokenRow} {pre : PreRead}

/-- What marks the claimed row. -/
def marking (hash : String → String) (token : String) (call : RefreshCall)
    (used : List UsedRow) (row : TokenRow) : TokenRow :=
  if used.any (fun entry => entry.refreshTokenHash = hash token) &&
      claimable hash token call.nowMs row then markUsed row
  else row

theorem marking_fades (used : List UsedRow) (row : TokenRow) :
    Fades row (marking hash token call used row) := by
  unfold marking
  split
  · exact ⟨rfl, rfl, rfl, fun _ => rfl, fun _ => rfl⟩
  · exact Fades.refl row

theorem markClaimed_tokens (tokens : List TokenRow) (used : List UsedRow) :
    (markClaimed hash token tokens used call.nowMs).1 =
      tokens.map (marking hash token call used) := by
  unfold markClaimed
  split
  · rename_i inLedger
    refine map_congr_left fun row _ => ?_
    simp only [marking, inLedger, Bool.true_and]
  · rename_i notThere
    have same : marking hash token call used = id := by
      funext row
      simp only [marking, notThere, Bool.false_and, Bool.false_eq_true, if_false, id]
    rw [same, map_id]

theorem claimLedger_families {used : List UsedRow} {now : Int}
    {entry : UsedRow} (member : entry ∈ (claimLedger hash token tokens used now).1) :
    entry ∈ used ∨ ∃ row ∈ tokens, entry.refreshFamily = row.refreshFamily := by
  unfold claimLedger at member
  rcases found : tokens.find? (claimable hash token now) with _ | row <;> rw [found] at member
  · exact .inl member
  · dsimp only at member
    split at member
    · exact .inl member
    · rcases mem_append.mp member with old | added
      · exact .inl old
      · obtain rfl := mem_singleton.mp added
        exact .inr ⟨row, mem_of_find?_eq_some found, rfl⟩

/-- The row is used and revoked and the only one of its family that may be live. -/
structure Succeeded (tokens : List TokenRow) (source : TokenRow) : Prop where
  there : source ∈ tokens
  used : source.refreshUsed = true
  revoked : source.revoked = true
  alone : ∀ current ∈ tokens, current.refreshFamily = source.refreshFamily →
    current.refreshTokenHash ≠ source.refreshTokenHash →
    current.refreshUsed = true ∨ current.revoked = true

theorem successorSource_succeeded {used : List UsedRow} {source : TokenRow}
    (found : successorSource hash token tokens used = some source) : Succeeded tokens source := by
  have isSource := List.find?_some found
  simp only [Bool.and_eq_true, Bool.not_eq_true', any_eq_false, decide_eq_true_eq,
    not_and, Bool.not_eq_false] at isSource
  obtain ⟨⟨⟨⟨-, used⟩, revoked⟩, -⟩, alone⟩ := isSource
  refine ⟨mem_of_find?_eq_some found, used, revoked, ?_⟩
  intro current member isFamily isOther
  by_cases isUsed : current.refreshUsed = true
  · exact .inl isUsed
  · refine .inr (alone current member ⟨⟨isFamily, isOther⟩, ?_⟩)
    simpa using isUsed

/-- The successor of such a row can be added. -/
theorem Succeeded.fits {source : TokenRow}
    (succeeded : Succeeded tokens source) (families : List String)
    (newHash : ∀ other ∈ tokens, other.refreshTokenHash ≠ hash call.refresh) :
    Fits tokens families (successorOf hash families call source) where
  newHash := newHash
  alone := by
    -- a live row of the family would have the hash of the source, hence be the source
    intro unique _ other member
    by_contra isLive
    simp only [liveIn, Bool.not_eq_false, Bool.and_eq_true, decide_eq_true_eq,
      Bool.not_eq_true'] at isLive
    obtain ⟨⟨isFamily, unrevoked⟩, unused⟩ := isLive
    by_cases same : other.refreshTokenHash = source.refreshTokenHash
    · obtain rfl := inj_on_of_nodup_map unique member succeeded.there same
      rw [succeeded.revoked] at unrevoked
      cases unrevoked
    · rcases succeeded.alone other member isFamily same with isUsed | isRevoked
      · rw [isUsed] at unused
        cases unused
      · rw [isRevoked] at unrevoked
        cases unrevoked
  isRevoked := fun recorded => decide_eq_true recorded
  newCode := nofun

theorem rotateBatch_changes {all : Bool} {drawn : String → Prop}
    (batch : rotateBatch hash token db call pre = some (db', all)) : Changes drawn db db' := by
  simp only [rotateBatch] at batch
  rw [markClaimed_tokens] at batch
  generalize isUsed : (claimLedger hash token db.tokens db.used call.nowMs).1 = used at batch
  have usedFamilies : ∀ entry ∈ used,
      Mentions db entry.refreshFamily ∨ drawn entry.refreshFamily := by
    intro entry member
    rw [← isUsed] at member
    rcases claimLedger_families member with before | ⟨row, there, same⟩
    · exact .inl (.inr (.inl ⟨entry, before, rfl⟩))
    · exact .inl (.inl ⟨row, there, same.symm⟩)
  unfold insertSuccessor at batch
  rcases found : successorSource hash token (db.tokens.map (marking hash token call used)) used
    with _ | source
  · rw [found] at batch
    obtain ⟨rfl, -⟩ := batch
    exact ⟨marking hash token call used, [], marking_fades used, (append_nil _).symm,
      fun _ => .inl, fun _ there => there, usedFamilies, .inl rfl, nofun⟩
  · rw [found] at batch
    dsimp only at batch
    split at batch
    · cases batch
    · rename_i inserts
      split at inserts
      · cases inserts
      · rename_i noConflict
        cases inserts
        obtain ⟨rfl, -⟩ := batch
        have succeeded := successorSource_succeeded found
        refine ⟨marking hash token call used, [successorOf hash db.revokedFamilies call source],
          marking_fades used, rfl, fun _ => .inl, fun _ there => there, usedFamilies,
          .inr ⟨_, rfl, rfl, succeeded.fits _ ?_⟩, ?_⟩
        · intro other member isNew
          apply noConflict
          refine any_eq_true.mpr ⟨other, member, ?_⟩
          simp [successorOf, isNew]
        · intro row isAdded
          obtain rfl := mem_singleton.mp isAdded
          obtain ⟨before, there, isSource⟩ := mem_map.mp succeeded.there
          refine .inl (.inl ⟨before, there, ?_⟩)
          rw [← (marking_fades used before).refreshFamily, isSource]
          rfl

theorem reuseRevoke_changes {drawn : String → Prop} (isDrawn : drawn family)
    (principalId : String) : Changes drawn db (reuseRevoke db family principalId) := by
  refine ⟨fun row => if row.refreshFamily = family then { row with revoked := true } else row, [],
    ?_, (append_nil _).symm, ?_, ?_, ?_, .inl rfl, nofun⟩
  · intro row
    simpa using revoking_fades (fun row => row.refreshFamily = family) row
  · intro other recorded
    have cases_ : other = family ∨ other ∈ db.revokedFamilies := by
      simp only [reuseRevoke] at recorded
      split at recorded
      · exact .inr recorded
      · exact mem_cons.mp recorded
    rcases cases_ with rfl | before
    · refine .inr ⟨isDrawn, fun row isFamily => ?_⟩
      simp only [isFamily, if_true]
    · exact .inl before
  · intro other recorded
    simp only [reuseRevoke]
    split
    · exact recorded
    · exact mem_cons_of_mem _ recorded
  · exact fun entry member => .inl (.inr (.inl ⟨entry, member, rfl⟩))

/-- A rotation has read the family. -/
def Phase.Mentions (family : String) : Phase → Prop
  | .read => False
  | .receipt _ pre => pre.row.refreshFamily = family
  | .successor _ pre _ => pre.row.refreshFamily = family
  | .family _ pre _ _ => pre.row.refreshFamily = family
  | .ledger pre => pre.row.refreshFamily = family
  | .rotate pre => pre.row.refreshFamily = family
  | .raced pre => pre.row.refreshFamily = family
  | .lostLedger pre => pre.row.refreshFamily = family
  | .won pre => pre.row.refreshFamily = family
  | .wonFamily pre _ => pre.row.refreshFamily = family
  | .revoke pre revoked _ => pre.row.refreshFamily = family ∨ revoked = family
  | .record revoked => revoked = family
  | .done _ => False

/-- What a statement of a rotation does to the tables. -/
theorem advance_changes (phase : Phase) :
    Changes (fun family => phase.Mentions family) db (advance hash token call db phase).1 := by
  cases phase with
  | rotate pre =>
    rcases batch : rotateBatch hash token db call pre with _ | ⟨after, all⟩
    · simp only [advance, batch]
      exact .refl db
    · cases all <;> simp only [advance, batch] <;> exact rotateBatch_changes batch
  | revoke pre => exact reuseRevoke_changes (.inr rfl) pre.row.principalId
  | record =>
    refine ⟨id, [], Fades.refl, ?_, fun _ recorded => .inl recorded, fun _ there => there, ?_,
      .inl rfl, nofun⟩
    · rw [map_id, append_nil]
      rfl
    · intro entry member
      simp only [advance] at member
      split_ifs at member
      · exact .inl (.inr (.inl ⟨entry, member, rfl⟩))
      · rcases mem_append.mp member with old | added
        · exact .inl (.inr (.inl ⟨entry, old, rfl⟩))
        · obtain rfl := mem_singleton.mp added
          exact .inr rfl
  | _ => exact .refl db

theorem afterMiss_mentions {stage : Stage}
    (there : (afterMiss pre stage).Mentions family) : pre.row.refreshFamily = family := by
  cases stage <;> exact there

/-- A statement of a rotation mentions no family that was not mentioned. -/
theorem advance_phase_mentions {phase : Phase}
    (there : (advance hash token call db phase).2.Mentions family) :
    Mentions db family ∨ phase.Mentions family := by
  cases phase with
  | read =>
    simp only [advance] at there
    split at there
    · exact there.elim
    next pre found =>
      split_ifs at there
      · exact there.elim
      · exact there.elim
      · simp only [readRow, Option.bind_eq_bind, Option.bind_eq_some_iff, Option.pure_def,
          Option.some.injEq] at found
        obtain ⟨row, isRow, principal, -, isPre⟩ := found
        have isFamily : row.refreshFamily = family := by
          rw [← isPre] at there
          exact there
        exact .inl (.inl ⟨row, mem_of_find?_eq_some isRow, isFamily⟩)
  | receipt | successor =>
    right
    simp only [advance] at there
    split at there
    · exact afterMiss_mentions there
    · split_ifs at there
      · exact afterMiss_mentions there
      · exact there
  | family =>
    right
    simp only [advance] at there
    split_ifs at there
    · exact afterMiss_mentions there
    · split at there
      · exact afterMiss_mentions there
      · exact there.elim
  | ledger =>
    simp only [advance] at there
    rcases found : readUsed hash token db with _ | used <;> simp only [found] at there
    · split_ifs at there
      · exact there.elim
      · exact .inr (there.elim id id)
      · exact .inr there
    · rcases there with before | recorded
      · exact .inr before
      · split_ifs at recorded
        · exact .inl (.inr (.inl ⟨used, mem_of_find?_eq_some found, recorded⟩))
        · exact .inr recorded
  | rotate =>
    right
    simp only [advance] at there
    split at there
    · exact there.elim
    · exact there
    · exact there
  | raced =>
    simp only [advance] at there
    split at there
    next row found =>
      rcases there with before | recorded
      · exact .inr before
      · exact .inl (.inl ⟨row, mem_of_find?_eq_some found, recorded⟩)
    next => exact .inr there
  | lostLedger =>
    simp only [advance] at there
    split at there
    next used found =>
      rcases there with before | recorded
      · exact .inr before
      · exact .inl (.inr (.inl ⟨used, mem_of_find?_eq_some found, recorded⟩))
    next => exact there.elim
  | won => exact .inr there
  | wonFamily =>
    right
    simp only [advance] at there
    split_ifs at there
    · exact there.elim
    · exact there.elim id id
  | revoke =>
    right
    simp only [advance] at there
    split_ifs at there
    · exact .inr there
    · exact there.elim
  | record | done => exact there.elim

end Rotation

/-! ## Redemption and revocation -/

section Redemption

variable {hash : String → String} {input : RedeemInput} {db db' : OAuthDatabase}

/-- A redemption that has not yet tried to issue its token. -/
def RedeemPhase.Open : RedeemPhase → Prop
  | .read => True
  | .redeem _ _ => True
  | .conflict => False
  | .done _ => False

/-- What the redemption batch does to the tables when it inserts a token. -/
structure Issued (hash : String → String) (input : RedeemInput) (db db' : OAuthDatabase)
    (row : AuthCodeRow) : Prop where
  code : row.codeHash = hash input.code
  tokens : db'.tokens = db.tokens ++ [issuedToken hash input row]
  families : db'.revokedFamilies = db.revokedFamilies
  used : db'.used = db.used
  newHash : ∀ other ∈ db.tokens, other.refreshTokenHash ≠ hash input.refresh
  newCode : ∀ other ∈ db.tokens, other.authCodeHash ≠ some (hash input.code)

theorem redeemBatch_cases {all : Bool} (batch : redeemBatch hash input db = some (db', all)) :
    (∃ row, Issued hash input db db' row) ∨
      all = false ∧ db'.tokens = db.tokens ∧ db'.revokedFamilies = db.revokedFamilies ∧
        db'.used = db.used := by
  unfold redeemBatch insertIssued at batch
  rcases found : readCode hash input db with _ | ⟨row, tenantId⟩
  · rw [found] at batch
    obtain ⟨rfl, rfl⟩ := batch
    exact .inr ⟨rfl, rfl, rfl, rfl⟩
  · have isCode : row.codeHash = hash input.code := by
      simp only [readCode, Option.bind_eq_bind, Option.bind_eq_some_iff, Option.pure_def,
        Option.some.injEq, Prod.mk.injEq] at found
      obtain ⟨read, isRead, -, -, -, -, rfl, -⟩ := found
      have redeems := List.find?_some isRead
      simp only [redeemable, Bool.and_eq_true, decide_eq_true_eq] at redeems
      exact redeems.1.1.1.1.1.1
    rw [found] at batch
    dsimp only at batch
    split at batch
    · cases batch
    · rename_i inserts
      split at inserts
      · cases inserts
      · rename_i noConflict
        cases inserts
        obtain ⟨rfl, -⟩ := batch
        refine .inl ⟨row, isCode, rfl, rfl, rfl, ?_, ?_⟩
        · intro other member isNew
          apply noConflict
          refine any_eq_true.mpr ⟨other, member, ?_⟩
          simp [issuedToken, isNew]
        · intro other member isNew
          apply noConflict
          refine any_eq_true.mpr ⟨other, member, ?_⟩
          simp [issuedToken, isNew, isCode]

theorem redeemBatch_changes {all : Bool} {drawn : String → Prop} (isDrawn : drawn input.family)
    (unmentioned : ¬ Mentions db.toDatabase input.family)
    (batch : redeemBatch hash input db = some (db', all)) :
    Changes drawn db.toDatabase db'.toDatabase ∧
      (all = true → Issues db'.toDatabase (hash input.code) input.family) := by
  rcases redeemBatch_cases batch with ⟨row, issued⟩ | ⟨rfl, tokens, families, used⟩
  · refine ⟨⟨id, [issuedToken hash input row], Fades.refl, ?_, ?_, ?_, ?_,
      .inr ⟨_, rfl, issued.families, ?_⟩, ?_⟩, fun _ => ?_⟩
    · rw [map_id]
      exact issued.tokens
    · rw [issued.families]
      exact fun _ recorded => .inl recorded
    · rw [issued.families]
      exact fun _ recorded => recorded
    · rw [issued.used]
      exact fun entry member => .inl (.inr (.inl ⟨entry, member, rfl⟩))
    · rw [map_id]
      refine ⟨issued.newHash, ?_, ?_, ?_⟩
      · intro _ _ other member
        have isOther : other.refreshFamily ≠ (issuedToken hash input row).refreshFamily :=
          fun same => unmentioned (.inl ⟨other, member, same⟩)
        simp [liveIn, isOther]
      · exact fun recorded => absurd (.inr (.inr recorded)) unmentioned
      · intro code isIssued other member
        have isCode : row.codeHash = code := by simpa [issuedToken] using isIssued
        rw [← isCode, issued.code]
        exact issued.newCode other member
    · intro other isAdded
      obtain rfl := mem_singleton.mp isAdded
      exact .inr isDrawn
    · refine ⟨issuedToken hash input row, ?_, congrArg some issued.code, rfl⟩
      rw [issued.tokens]
      exact mem_append_right _ (mem_singleton_self _)
  · refine ⟨changes_of_fading (g := id) Fades.refl ?_ families used, nofun⟩
    rw [map_id]
    exact tokens

/-- A statement of a redemption only reads, or it is the batch and the last one. -/
theorem redeemAuthCode_cases (hash : String → String) (input : RedeemInput) (db : OAuthDatabase)
    (phase : RedeemPhase) : ((redeemAuthCode hash input db phase).1 = db ∧
        ((redeemAuthCode hash input db phase).2.Open → phase = .read) ∧
        ∀ record token, (redeemAuthCode hash input db phase).2 = .done (.redeemed record token) →
          phase = .done (.redeemed record token)) ∨ ∃ all answer, phase.Open ∧
        redeemBatch hash input db = some ((redeemAuthCode hash input db phase).1, all) ∧
        (redeemAuthCode hash input db phase).2 = .done answer ∧
        ∀ record token, answer = .redeemed record token →
          all = true ∧ token.refreshFamily = input.family := by
  cases phase with
  | read =>
    refine .inl ⟨rfl, fun _ => rfl, fun record token answered => ?_⟩
    simp only [redeemAuthCode] at answered
    rcases found : readCode hash input db with _ | ⟨row, tenantId⟩ <;> rw [found] at answered
    · cases answered
    · dsimp only at answered
      split_ifs at answered
      cases answered
  | redeem row tenantId =>
    rcases batch : redeemBatch hash input db with _ | ⟨db', _ | _⟩
    · have ran : redeemAuthCode hash input db (.redeem row tenantId) = (db, .conflict) := by
        simp only [redeemAuthCode, batch]
      rw [ran]
      exact .inl ⟨rfl, fun isOpen => isOpen.elim, nofun⟩
    · have ran : redeemAuthCode hash input db (.redeem row tenantId) =
          (db', .done .invalidGrant) := by simp only [redeemAuthCode, batch]
      rw [ran]
      exact .inr ⟨false, _, trivial, rfl, rfl, nofun⟩
    · have ran : redeemAuthCode hash input db (.redeem row tenantId) = (db', .done (.redeemed
          (redeemedRecord input row) (redeemedToken input row tenantId))) := by
        simp only [redeemAuthCode, batch]
      rw [ran]
      refine .inr ⟨true, _, trivial, rfl, rfl, ?_⟩
      rintro record token same
      cases same
      exact ⟨rfl, rfl⟩
  | conflict =>
    rw [redeemAuthCode]
    split_ifs <;> exact .inl ⟨rfl, fun isOpen => isOpen.elim, nofun⟩
  | done => exact .inl ⟨rfl, fun isOpen => isOpen.elim, fun _ _ same => same⟩

end Redemption

/-! ## What a code has yielded -/

theorem issues_unique (sound : SoundTokens db) {code family other : String}
    (left : Issues db code family) (right : Issues db code other) : family = other := by
  obtain ⟨a, memberA, codeA, rfl⟩ := left
  obtain ⟨b, memberB, codeB, rfl⟩ := right
  have few := sound.codeUnique code
  rw [countP_eq_length_filter] at few
  have inA : a ∈ db.tokens.filter (issuedFor code) :=
    mem_filter.mpr ⟨memberA, by simp [issuedFor, codeA]⟩
  have inB : b ∈ db.tokens.filter (issuedFor code) :=
    mem_filter.mpr ⟨memberB, by simp [issuedFor, codeB]⟩
  rcases found : db.tokens.filter (issuedFor code) with _ | ⟨row, _ | ⟨second, rest⟩⟩
  · rw [found] at inA
    cases inA
  · rw [found] at inA inB
    rw [mem_singleton.mp inA, mem_singleton.mp inB]
  · rw [found] at few
    simp at few

/-! ## Runs -/

section Runs

variable {ι : Type} {hash : String → String} {s : OAuthState ι} {family : String}

/-- The call has drawn the family, or read it. -/
def OAuthCall.Mentions (family : String) : OAuthCall → Prop
  | .redeem input phase => phase.Open ∧ input.family = family
  | .rotate _ _ phase => phase.Mentions family
  | .revoke _ _ => False

/-- No call has begun, and the families that redemptions draw are new and distinct. -/
structure Opening (s : OAuthState ι) : Prop where
  tables : SoundTokens s.db.toDatabase
  redemptions : ∀ i input phase, s.calls i = .redeem input phase → phase = .read
  rotations : ∀ i token call phase, s.calls i = .rotate token call phase → phase = .read
  newFamily : ∀ i input phase, s.calls i = .redeem input phase →
    ¬ Mentions s.db.toDatabase input.family
  distinct : ∀ i j a b p q, s.calls i = .redeem a p → s.calls j = .redeem b q →
    a.family = b.family → i = j

/-- The call has been answered with a token of the family for the code. -/
def Redeems (hash : String → String) (code family : String) (call : OAuthCall) : Prop :=
  ∃ input record token, call = .redeem input (.done (.redeemed record token)) ∧
    hash input.code = code ∧ token.refreshFamily = family

/-- The code has yielded the family: a token of it was issued or handed out for the code. -/
def Yields (hash : String → String) (s : OAuthState ι) (code family : String) : Prop :=
  Issues s.db.toDatabase code family ∨ ∃ i, Redeems hash code family (s.calls i)

/-- The tables are sound, no table and no other call mentions a family before it is issued,
and what was handed out was issued. -/
structure Safe (hash : String → String) (s : OAuthState ι) : Prop where
  tables : SoundTokens s.db.toDatabase
  unmentioned : ∀ i input phase, s.calls i = .redeem input phase → phase.Open →
    ¬ Mentions s.db.toDatabase input.family ∧ ∀ j, j ≠ i → ¬ (s.calls j).Mentions input.family
  issued : ∀ i code family, Redeems hash code family (s.calls i) →
    Issues s.db.toDatabase code family

theorem Opening.safe (opening : Opening s) : Safe hash s := by
  refine ⟨opening.tables, ?_, ?_⟩
  · intro i input phase isCall _
    refine ⟨opening.newFamily i input phase isCall, ?_⟩
    intro j other mentions
    rcases isOther : s.calls j with ⟨theirs, waiting⟩ | ⟨token, call, waiting⟩ | ⟨token, waiting⟩
    · rw [isOther] at mentions
      exact other (opening.distinct j i theirs input waiting phase isOther isCall mentions.2)
    · rw [isOther, opening.rotations j token call waiting isOther] at mentions
      exact mentions
    · rw [isOther] at mentions
      exact mentions
  · rintro i code family ⟨input, record, token, isCall, -, -⟩
    cases opening.redemptions i input _ isCall

variable {db : OAuthDatabase} {call : OAuthCall}

/-- What the next statement of a call does to the tables. -/
theorem call_changes (unmentioned : ∀ input phase, call = .redeem input phase → phase.Open →
      ¬ Mentions db.toDatabase input.family) :
    Changes (fun family => call.Mentions family) db.toDatabase
      (call.advance hash db).1.toDatabase := by
  rcases call with ⟨input, phase⟩ | ⟨token, call, phase⟩ | ⟨token, phase⟩
  · rcases redeemAuthCode_cases hash input db phase with ⟨same, -⟩ | ⟨all, answer, isOpen, batch, -⟩
    · simp only [OAuthCall.advance, same]
      exact .refl _
    · exact (redeemBatch_changes ⟨isOpen, rfl⟩ (unmentioned input phase rfl isOpen) batch).1
  · exact advance_changes phase
  · cases phase with
    | revoke =>
      exact changes_of_fading (revoking_fades fun row => isTokenRow hash token row && !row.revoked)
        rfl rfl rfl
    | read | done => exact .refl _

/-- A call mentions no family that neither it nor a table mentioned. -/
theorem call_mentions (there : (call.advance hash db).2.Mentions family) :
    Mentions db.toDatabase family ∨ call.Mentions family := by
  rcases call with ⟨input, phase⟩ | ⟨token, call, phase⟩ | ⟨token, phase⟩
  · obtain ⟨waiting, isFamily⟩ := there
    rcases redeemAuthCode_cases hash input db phase with
      ⟨-, reading, -⟩ | ⟨all, answer, -, -, last, -⟩
    · exact .inr ⟨by rw [reading waiting]; trivial, isFamily⟩
    · simp only [last] at waiting
      exact waiting.elim
  · exact advance_phase_mentions there
  · exact there.elim

/-- A token that a call hands out was handed out before, or is issued with it. -/
theorem call_redeems {code : String}
    (unmentioned : ∀ input phase, call = .redeem input phase → phase.Open →
      ¬ Mentions db.toDatabase input.family)
    (redeems : Redeems hash code family (call.advance hash db).2) :
    Redeems hash code family call ∨ Issues (call.advance hash db).1.toDatabase code family := by
  obtain ⟨theirs, record, token, isCall, rfl, rfl⟩ := redeems
  rcases call with ⟨input, phase⟩ | ⟨token, call, phase⟩ | ⟨token, phase⟩
  · simp only [OAuthCall.advance, OAuthCall.redeem.injEq] at isCall
    obtain ⟨rfl, answered⟩ := isCall
    rcases redeemAuthCode_cases hash input db phase with
      ⟨-, -, before⟩ | ⟨all, answer, isOpen, batch, last, answers⟩
    · exact .inl ⟨input, record, token, by rw [before record token answered], rfl, rfl⟩
    · obtain rfl := RedeemPhase.done.inj (last.symm.trans answered)
      obtain ⟨complete, isFamily⟩ := answers record token rfl
      rw [isFamily]
      have batched : Changes (fun _ => True) db.toDatabase _ ∧ _ :=
        redeemBatch_changes trivial (unmentioned input phase rfl isOpen) batch
      exact .inr (batched.2 complete)
  · cases isCall
  · cases isCall

/-- A redemption that waits after its statement has only read. -/
theorem waiting_after {input : RedeemInput} {phase : RedeemPhase}
    (isCall : (call.advance hash db).2 = .redeem input phase) (waiting : phase.Open) :
    call = .redeem input .read ∧ (call.advance hash db).1 = db := by
  rcases call with ⟨theirs, before⟩ | ⟨token, call, before⟩ | ⟨token, before⟩
  · simp only [OAuthCall.advance, OAuthCall.redeem.injEq] at isCall
    obtain ⟨rfl, rfl⟩ := isCall
    rcases redeemAuthCode_cases hash theirs db before with
      ⟨same, reading, -⟩ | ⟨all, answer, -, -, last, -⟩
    · exact ⟨by rw [reading waiting], same⟩
    · rw [last] at waiting
      exact waiting.elim
  · cases isCall
  · cases isCall

variable [DecidableEq ι]

theorem step_changes {t : OAuthState ι} {i : ι} (safe : Safe hash s)
    (taken : OAuthStep hash s i t) :
    Changes (fun family => (s.calls i).Mentions family) s.db.toDatabase t.db.toDatabase := by
  cases taken
  exact call_changes fun input phase isCall waiting =>
    (safe.unmentioned i input phase isCall waiting).1

/-- A statement of any call keeps the calls safe. -/
theorem step_safe {t : OAuthState ι} {i : ι} (safe : Safe hash s)
    (taken : OAuthStep hash s i t) : Safe hash t := by
  have changes := step_changes safe taken
  cases taken
  refine ⟨changes.sound safe.tables, ?_, ?_⟩
  · intro j input phase isCall waiting
    dsimp only at isCall ⊢
    by_cases self : j = i
    · -- the call that moved has only read, so its family is still new
      subst self
      rw [update_self] at isCall
      obtain ⟨wasReading, same⟩ := waiting_after isCall waiting
      obtain ⟨noTable, noCall⟩ := safe.unmentioned j input .read wasReading trivial
      rw [same]
      refine ⟨noTable, fun k other there => ?_⟩
      rw [update_of_ne other] at there
      exact noCall k other there
    · rw [update_of_ne self] at isCall
      obtain ⟨noTable, noCall⟩ := safe.unmentioned j input phase isCall waiting
      have notMoved : ¬ (s.calls i).Mentions input.family := noCall i (Ne.symm self)
      refine ⟨fun there => ?_, fun k other there => ?_⟩
      · exact (changes.mentions there).elim noTable notMoved
      · by_cases isMoved : k = i
        · subst isMoved
          rw [update_self] at there
          exact (call_mentions there).elim noTable notMoved
        · rw [update_of_ne isMoved] at there
          exact noCall k other there
  · intro j code family redeems
    dsimp only at redeems ⊢
    by_cases self : j = i
    · subst self
      rw [update_self] at redeems
      rcases call_redeems (fun input phase isCall waiting =>
        (safe.unmentioned j input phase isCall waiting).1) redeems with before | now
      · exact changes.issues (safe.issued j code family before)
      · exact now
    · rw [update_of_ne self] at redeems
      exact changes.issues (safe.issued j code family redeems)

/-- **Whatever the calls of redemption, rotation and revocation do in turns, a family has at
most one token that is neither revoked nor used; a family that was recorded as revoked has
only revoked tokens from then on; and a code has yielded one family at most.** -/
theorem refresh_families_safe {s t u : OAuthState ι} {first second : List ι}
    (opening : Opening s) (before : Run (OAuthStep hash) s first t)
    (after : Run (OAuthStep hash) t second u) :
    (∀ family, u.db.tokens.countP (liveIn family) ≤ 1) ∧
      (∀ family ∈ t.db.revokedFamilies, ∀ row ∈ u.db.tokens, row.refreshFamily = family →
        row.revoked = true) ∧
      ∀ code family other, Yields hash u code family → Yields hash u code other →
        family = other := by
  have between : Safe hash t :=
    Run.invariant (fun kept taken => step_safe kept taken) opening.safe before
  have safe : Safe hash u :=
    Run.invariant (fun kept taken => step_safe kept taken) between after
  refine ⟨safe.tables.live, ?_, ?_⟩
  · intro family recorded
    have still : Safe hash u ∧ family ∈ u.db.revokedFamilies :=
      Run.invariant (I := fun v => Safe hash v ∧ family ∈ v.db.revokedFamilies)
        (fun held taken => by
          obtain ⟨g, added, change⟩ := step_changes held.1 taken
          exact ⟨step_safe held.1 taken, change.kept family held.2⟩) ⟨between, recorded⟩ after
    exact safe.tables.revoked family still.2
  · have issues : ∀ {code family}, Yields hash u code family →
        Issues u.db.toDatabase code family := by
      rintro code family (issued | ⟨i, redeems⟩)
      · exact issued
      · exact safe.issued i code family redeems
    intro code family other left right
    exact issues_unique safe.tables (issues left) (issues right)

/-- The calls take turns as listed. -/
def turns (hash : String → String) (s : OAuthState ι) (order : List ι) : OAuthState ι :=
  order.foldl
    (fun s i =>
      { db := ((s.calls i).advance hash s.db).1
        calls := Function.update s.calls i ((s.calls i).advance hash s.db).2 }) s

theorem run_turns (order : List ι) (s : OAuthState ι) :
    Run (OAuthStep hash) s order (turns hash s order) := by
  induction order generalizing s with
  | nil => exact .done s
  | cons i rest ih => exact .next (.step s i) (ih _)

end Runs

/-- A code that is redeemed, the token of it that is refreshed, and any number of calls that
come with the old refresh token later. -/
def codeAndReuse : OAuthState Nat where
  db :=
    { tokens := []
      principals :=
        [{ id := "principal", tenantId := "tenant", revocationEpoch := 1
           revocationReason := none, credentialGeneration := 1
           epochPositive := le_refl 1, generationPositive := le_refl 1 }]
      used := []
      revokedFamilies := []
      receipts := []
      codes :=
        [{ codeHash := "code", clientId := "client", principalId := "principal"
           redirectUri := "uri", scope := "mesh", codeChallenge := "challenge"
           codeChallengeMethod := "S256", expiresAt := 10, used := false, resource := none }]
      clients := [{ clientId := "client", tenantId := "tenant" }] }
  calls
    | 0 => .redeem
        { code := "code", clientId := "client", redirectUri := "uri", codeChallenge := "challenge"
          resource := none, checkedAt := 0, issuedAt := 0, access := "atk_a", refresh := "rtk_a"
          family := "fam_a" } .read
    | 1 => .rotate "rtk_a" ⟨1, none, "atk_b", "rtk_b"⟩ .read
    | _ => .rotate "rtk_a" ⟨60002, none, "atk_c", "rtk_c"⟩ .read

theorem codeAndReuse_opening : Opening codeAndReuse where
  tables :=
    { live := fun _ => by simp [codeAndReuse]
      revoked := fun _ recorded => absurd recorded (by simp [codeAndReuse])
      refreshUnique := by simp [codeAndReuse]
      codeUnique := fun _ => by simp [codeAndReuse] }
  redemptions := fun i input phase isCall => by
    rcases i with _ | _ | _ <;> cases isCall
    rfl
  rotations := fun i token call phase isCall => by
    rcases i with _ | _ | _ <;> cases isCall <;> rfl
  newFamily := fun i input phase _ => by simp [Mentions, codeAndReuse]
  distinct := fun i j a b p q left right _ => by
    have only : ∀ {k c r}, codeAndReuse.calls k = .redeem c r → k = 0 := by
      intro k c r isCall
      rcases k with _ | _ | _ <;> cases isCall
      rfl
    rw [only left, only right]

/-- The code is redeemed, its token is refreshed, and the old one is used again: the family is
revoked with both of its tokens, and the next call finds it so. -/
theorem refresh_families_safe_reuse :
    let reused := turns id codeAndReuse [0, 0, 1, 1, 1, 1, 1, 1, 2, 2, 2, 2]
    let last := turns id reused [3, 3, 3, 3]
    (reused.db.revokedFamilies = ["fam_a"] ∧ reused.db.tokens.length = 2) ∧
      (∀ family, last.db.tokens.countP (liveIn family) ≤ 1) ∧
      (∀ family ∈ reused.db.revokedFamilies, ∀ row ∈ last.db.tokens,
        row.refreshFamily = family → row.revoked = true) ∧
      ∀ code family other, Yields id last code family → Yields id last code other →
        family = other :=
  ⟨by decide +kernel,
    refresh_families_safe codeAndReuse_opening
      (run_turns [0, 0, 1, 1, 1, 1, 1, 1, 2, 2, 2, 2] codeAndReuse) (run_turns [3, 3, 3, 3] _)⟩

end OwnMesh.ControlPlane
