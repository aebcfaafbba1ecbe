import OwnMesh.Approvals.Gate

/-!
# Bounded grants are used as often as they say

A bounded grant with a limit lifts at most that many decisions to ask.  The limit is tested
by the matcher, the use is counted by another function that finds the grant again by its id,
and the count is written before the request is admitted.

The argument is kept apart from the daemon: `Accounts` relates the bounded grants that are
stored to those that were minted and to the uses that were made of them, and is kept when
grants go (`Accounts.sublist`), when a use is counted (`Accounts.count`), when a grant lifts a
decision and its use is counted (`Accounts.lift`), and when one is minted (`Accounts.mint`).
Every step of the daemon is one of these, because the file and the memory always agree.
-/

namespace OwnMesh.Approvals

open Foundations Ipc OpJournal List
open Policy (OperationFacts PolicyDocument StoredGrant TemporaryGrant BoundedToolGrant
  asciiLower evaluateWithGrants temporaryVerdict boundedVerdict boundedToolGrantMatches
  maxBoundedToolGrantUses boundedCovers_of_matches)
open Program

/-! ## Accounts -/

/-- The grant, used once more if it has the id. -/
def useIfNamed (id : String) (grant : BoundedToolGrant) : BoundedToolGrant :=
  if grant.id = id then usedOnce grant else grant

@[simp]
theorem useIfNamed_id (id : String) (grant : BoundedToolGrant) :
    (useIfNamed id grant).id = grant.id := by
  rw [useIfNamed]
  split <;> rfl

@[simp]
theorem useIfNamed_maxUses (id : String) (grant : BoundedToolGrant) :
    (useIfNamed id grant).maxUses = grant.maxUses := by
  rw [useIfNamed]
  split <;> rfl

theorem uses_le_useIfNamed (id : String) (grant : BoundedToolGrant) :
    grant.uses ≤ (useIfNamed id grant).uses := by
  rw [useIfNamed]
  split
  · rw [usedOnce]
    dsimp only
    split <;> omega
  · exact Nat.le_refl _

/-- How the stored bounded grants, the minted ones and the uses that were made fit. -/
structure Accounts (stored minted : List BoundedToolGrant) (lifted : List String) : Prop where
  distinct : (stored.map BoundedToolGrant.id).Nodup
  once : (minted.map BoundedToolGrant.id).Nodup
  known : ∀ grant ∈ stored, ∃ origin ∈ minted, origin.id = grant.id ∧ origin.maxUses = grant.maxUses
  counted : ∀ grant ∈ stored, grant.maxUses.isSome → lifted.count grant.id ≤ grant.uses
  bounded : ∀ grant ∈ minted, ∀ most ∈ grant.maxUses, lifted.count grant.id ≤ most
  small : ∀ grant ∈ minted, ∀ most ∈ grant.maxUses, most ≤ maxBoundedToolGrantUses
  named : ∀ id ∈ lifted, ∃ origin ∈ minted, origin.id = id

variable {grant : BoundedToolGrant}

namespace Accounts

variable {stored minted : List BoundedToolGrant} {lifted : List String}

theorem nothing : Accounts [] [] [] := by
  constructor <;> simp

section

variable (accounts : Accounts stored minted lifted)
include accounts

/-- Grants go. -/
theorem sublist {fewer : List BoundedToolGrant}
    (goes : fewer.Sublist stored) : Accounts fewer minted lifted where
  distinct := accounts.distinct.sublist (goes.map _)
  once := accounts.once
  known grant member := accounts.known grant (goes.subset member)
  counted grant member := accounts.counted grant (goes.subset member)
  bounded := accounts.bounded
  small := accounts.small
  named := accounts.named

/-- A use is counted. -/
theorem count (id : String) : Accounts (stored.map (useIfNamed id)) minted lifted where
  distinct := by
    have same : (stored.map (useIfNamed id)).map BoundedToolGrant.id =
        stored.map BoundedToolGrant.id := by
      rw [map_map]
      exact map_congr_left fun grant _ => useIfNamed_id id grant
    rw [same]
    exact accounts.distinct
  once := accounts.once
  known := by
    intro grant member
    obtain ⟨before, older, rfl⟩ := mem_map.mp member
    rw [useIfNamed_id, useIfNamed_maxUses]
    exact accounts.known before older
  counted := by
    intro grant member limited
    obtain ⟨before, older, rfl⟩ := mem_map.mp member
    rw [useIfNamed_maxUses] at limited
    rw [useIfNamed_id]
    exact Nat.le_trans (accounts.counted before older limited) (uses_le_useIfNamed id before)
  bounded := accounts.bounded
  small := accounts.small
  named := accounts.named

/-- Grants with one id are one grant. -/
theorem unique {other : BoundedToolGrant}
    (member : grant ∈ stored) (otherMember : other ∈ stored) (same : grant.id = other.id) :
    grant = other :=
  inj_on_of_nodup_map accounts.distinct member otherMember same

/-- A grant of the store that has uses left is one of the store of the same limit. -/
theorem limit (member : grant ∈ stored) {most : Nat} (limited : grant.maxUses = some most)
    (left : grant.uses < most) : (usedOnce grant).uses = grant.uses + 1 := by
  obtain ⟨origin, known, -, same⟩ := accounts.known grant member
  have small := accounts.small origin known most (same.trans limited)
  rw [usedOnce]
  rw [if_pos]
  rw [maxBoundedToolGrantUses] at small
  omega

/-- A grant lifts a decision; if it has a limit, the use was counted before and was one of those
it had left. -/
theorem lift (member : grant ∈ stored) (room : ∀ most ∈ grant.maxUses,
      lifted.count grant.id < grant.uses ∧ lifted.count grant.id < most) :
    Accounts stored minted (grant.id :: lifted) := by
  obtain ⟨own, ownKnown, ownId, ownLimit⟩ := accounts.known grant member
  refine ⟨accounts.distinct, accounts.once, accounts.known, ?_, ?_, accounts.small, ?_⟩
  · intro other otherMember limited
    by_cases same : grant.id = other.id
    · obtain rfl := accounts.unique member otherMember same
      obtain ⟨most, limit⟩ := Option.isSome_iff_exists.mp limited
      rw [count_cons_self]
      exact (room most limit).1
    · rw [count_cons_of_ne same]
      exact accounts.counted other otherMember limited
  · intro origin known bound isBound
    by_cases same : grant.id = origin.id
    · obtain rfl : own = origin :=
        inj_on_of_nodup_map accounts.once ownKnown known (ownId.trans same)
      rw [← same, count_cons_self]
      exact (room bound (ownLimit.symm.trans isBound)).2
    · rw [count_cons_of_ne same]
      exact accounts.bounded origin known bound isBound
  · exact forall_mem_cons.mpr ⟨⟨own, ownKnown, ownId⟩, accounts.named⟩

/-- A grant is minted under a new id. -/
theorem mint (fresh : ∀ older ∈ minted, older.id ≠ grant.id)
    (small : ∀ most ∈ grant.maxUses, most ≤ maxBoundedToolGrantUses) :
    Accounts (stored ++ [grant]) (grant :: minted) lifted := by
  have unused : lifted.count grant.id = 0 := by
    refine count_eq_zero.mpr fun isLifted => ?_
    obtain ⟨origin, known, same⟩ := accounts.named _ isLifted
    exact fresh origin known same
  refine ⟨?_, ?_, ?_, ?_, ?_, ?_, ?_⟩
  · rw [map_append, nodup_append]
    refine ⟨accounts.distinct, nodup_singleton _, ?_⟩
    intro id isStored other isNew same
    obtain ⟨older, member, rfl⟩ := mem_map.mp isStored
    rw [map_singleton, mem_singleton] at isNew
    obtain ⟨origin, known, originId, -⟩ := accounts.known older member
    exact fresh origin known (originId.trans (same.trans isNew))
  · rw [map_cons, nodup_cons]
    refine ⟨fun isMinted => ?_, accounts.once⟩
    obtain ⟨older, known, same⟩ := mem_map.mp isMinted
    exact fresh older known same
  · refine forall_mem_append.mpr ⟨fun other older => ?_, forall_mem_singleton.mpr ?_⟩
    · obtain ⟨origin, known, same⟩ := accounts.known other older
      exact ⟨origin, mem_cons_of_mem _ known, same⟩
    · exact ⟨grant, mem_cons_self, rfl, rfl⟩
  · refine forall_mem_append.mpr ⟨accounts.counted, forall_mem_singleton.mpr fun _ => ?_⟩
    rw [unused]
    exact Nat.zero_le _
  · refine forall_mem_cons.mpr ⟨fun most _ => ?_, accounts.bounded⟩
    rw [unused]
    exact Nat.zero_le _
  · exact forall_mem_cons.mpr ⟨small, accounts.small⟩
  · intro id isLifted
    obtain ⟨origin, known, same⟩ := accounts.named id isLifted
    exact ⟨origin, mem_cons_of_mem _ known, same⟩

end

end Accounts

/-! ## The stored grants -/

/-- The bounded grants of a store. -/
def boundedOf (grants : List StoredGrant) : List BoundedToolGrant :=
  grants.filterMap fun
    | .boundedTool grant => some grant
    | .temporary _ => none

variable {grants : List StoredGrant} {id : String}

theorem mem_boundedOf : grant ∈ boundedOf grants ↔ .boundedTool grant ∈ grants := by
  rw [boundedOf, mem_filterMap]
  constructor
  · rintro ⟨stored, member, same⟩
    cases stored with
    | boundedTool => exact Option.some.inj same ▸ member
    | temporary => cases same
  · exact fun member => ⟨_, member, rfl⟩

theorem boundedOf_append (grants more : List StoredGrant) :
    boundedOf (grants ++ more) = boundedOf grants ++ boundedOf more :=
  filterMap_append

/-- Where ids are distinct, counting a use finds the grant of the id. -/
theorem boundedOf_countUse {used : List StoredGrant}
    (distinct : ((boundedOf grants).map BoundedToolGrant.id).Nodup)
    (counts : countUse id grants = some used) :
    boundedOf used = (boundedOf grants).map (useIfNamed id) := by
  induction grants generalizing used with
  | nil => cases counts
  | cons grant rest ih =>
    cases grant with
    | temporary =>
      obtain ⟨usedRest, found, rfl⟩ := Option.map_eq_some_iff.mp counts
      show boundedOf usedRest = (boundedOf rest).map (useIfNamed id)
      exact ih distinct found
    | boundedTool grant =>
      have parts := nodup_cons.mp distinct
      rw [countUse] at counts
      by_cases named : grant.id = id
      · rw [if_pos named] at counts
        -- no later grant has the id, so only this one changes
        have others : (boundedOf rest).map (useIfNamed id) = boundedOf rest := by
          refine (map_congr_left fun other member => ?_).trans (map_id _)
          rw [useIfNamed, if_neg]
          · rfl
          · intro same
            exact parts.1 (mem_map.mpr ⟨other, member, same.trans named.symm⟩)
        split at counts
        · cases counts
          show usedOnce grant :: boundedOf rest =
            useIfNamed id grant :: (boundedOf rest).map (useIfNamed id)
          rw [others, useIfNamed, if_pos named]
        · cases counts
      · rw [if_neg named] at counts
        obtain ⟨usedRest, found, rfl⟩ := Option.map_eq_some_iff.mp counts
        show grant :: boundedOf usedRest =
          useIfNamed id grant :: (boundedOf rest).map (useIfNamed id)
        rw [ih parts.2 found, useIfNamed, if_neg named]

/-- A use that is not counted is one of a grant without a limit. -/
theorem unlimited_of_countUse (distinct : ((boundedOf grants).map BoundedToolGrant.id).Nodup)
    (uncounted : countUse id grants = none) (member : grant ∈ boundedOf grants)
    (named : grant.id = id) : grant.maxUses = none := by
  induction grants with
  | nil => cases member
  | cons first rest ih =>
    cases first with
    | temporary =>
      rw [countUse, Option.map_eq_none_iff] at uncounted
      exact ih distinct uncounted member
    | boundedTool first =>
      have parts := nodup_cons.mp distinct
      rw [countUse] at uncounted
      rcases mem_cons.mp member with rfl | later
      · rw [if_pos named] at uncounted
        split at uncounted
        · cases uncounted
        · next limited => exact Option.not_isSome_iff_eq_none.mp limited
      · have other : first.id ≠ id := fun same =>
          parts.1 (mem_map.mpr ⟨grant, later, named.trans same.symm⟩)
        rw [if_neg other, Option.map_eq_none_iff] at uncounted
        exact ih parts.2 uncounted later

/-- A bounded grant that lifts a decision is in the store, has uses left, and is the rule that
the verdict names. -/
theorem boundedLift_some {policy : PolicyDocument} {facts : OperationFacts} {now : Int}
    {principalId : String} {deviceId : Option String}
    (lifts : boundedLift policy facts grants now principalId deviceId = some id) :
    (∃ grant ∈ boundedOf grants, grant.id = id ∧ ∀ most ∈ grant.maxUses, grant.uses < most) ∧
      (evaluateWithGrants policy facts grants now principalId deviceId).decision = .allow ∧
      (evaluateWithGrants policy facts grants now principalId deviceId).matchedRuleId =
        some id := by
  rw [boundedLift] at lifts
  split at lifts
  · next asks =>
      obtain ⟨verdict, found, named⟩ := Option.bind_eq_some_iff.mp lifts
      obtain ⟨stored, member, decides⟩ := exists_of_findSome?_eq_some found
      cases stored with
      | temporary => cases decides
      | boundedTool grant =>
        rw [boundedVerdict] at decides
        split at decides
        · next accepted =>
            have verdictIs := Option.some.inj decides
            have isId : grant.id = id := by
              rw [← verdictIs] at named
              exact Option.some.inj named
            refine ⟨⟨grant, mem_boundedOf.mpr member, isId,
              (boundedCovers_of_matches accepted).usesLeft⟩, ?_⟩
            have evaluated :
                evaluateWithGrants policy facts grants now principalId deviceId = verdict := by
              simp [evaluateWithGrants, asks.1, asks.2, found]
            rw [evaluated, ← verdictIs]
            exact ⟨rfl, congrArg some isId⟩
        · cases decides
  · cases lifts

variable {verdict : Policy.PolicyVerdict}

section Gate

variable {ω : Type} {env : GateEnvironment ω} {t s : ApprovalRuntime ω}

/-! ## What a call at the gate does -/

theorem delegatedRemote_spares (context : GateContext) :
    Moves Spared (delegatedRemote env context) := by
  refine .ite (fun _ => ?_) fun _ => .pure
  cases context.activeRemoteExpiresAtUnix with
  | none => exact .pure
  | some => exact .bind (ask_spares _) fun _ => .pure

theorem judge_spares (call : GatedCall) : Moves Spared (judge env call) :=
  .bind (by exact .bind .reads fun _ => .bind (ask_spares _) fun _ => .pure) fun _ =>
    .bind (delegatedRemote_spares _) fun _ => .ite (fun _ => .pure) fun _ => .pure

theorem settleVerdict_spares (call : GatedCall) (verdict : Policy.PolicyVerdict) :
    Moves Spared (settleVerdict env call verdict) := by
  have names : Moves Spared (operationIdOf env call.context) := by
    rw [operationIdOf]
    split
    · exact .pure
    · exact ask_spares _
  refine .bind names fun operationId => .bind .reads fun degraded => ?_
  cases verdict.decision with
  | deny => exact .fail
  | ask =>
    cases degraded with
    | some => exact .fail
    | none =>
      exact .bind (ask_spares _) fun _ => .bind (ask_spares _) fun _ =>
        .bind (.bind .reads fun _ => .bind (.modify fun _ => rfl) fun _ =>
          persistOrRestoreApprovals_spares _) fun _ => .pure
  | allow =>
    cases degraded with
    | some => exact .ite (fun _ => .pure) fun _ => .fail
    | none => exact .bind (onJournal_spares _) fun _ => .pure

/-- Grants are replaced in memory and on file, or in neither. -/
theorem replaceGrants_run {changed : List StoredGrant}
    {r : Except IpcError Unit} (ran : (replaceGrants env changed).run s = (r, t)) :
    (∃ u, r = .ok u ∧ t.grants = changed ∧ t.grantsFile = changed) ∨
      ∃ e, r = .error e ∧ t.grants = s.grants ∧ t.grantsFile = s.grantsFile := by
  rw [replaceGrants, run_reads_bind, setGrants, run_modify_bind,
    run_attempt_bind, persistGrants, ask, run_query_bind] at ran
  cases failure : (env.approvals.writeGrants s.journal.world).1 <;> rw [failure] at ran <;>
    cases ran
  · exact .inl ⟨(), rfl, rfl, rfl⟩
  · exact .inr ⟨_, rfl, rfl, rfl⟩

/-- What acting on a verdict leaves of the grants. -/
def Settles (verdict : Policy.PolicyVerdict) (s t : ApprovalRuntime ω) : Prop :=
  match usesGrant verdict s.grants with
  | none => t.grants = s.grants ∧ t.grantsFile = s.grantsFile
  | some used => t.grants = used ∧ t.grantsFile = used

theorem consumeBoundedGrantUse_run {r : Except IpcError Unit}
    (ran : (consumeBoundedGrantUse env verdict).run s = (r, t)) :
    r.casesOn (fun _ => t.grants = s.grants ∧ t.grantsFile = s.grantsFile)
      fun _ => Settles verdict s t := by
  rw [consumeBoundedGrantUse, run_reads_bind] at ran
  rw [Settles]
  cases uses : usesGrant verdict s.grants <;> rw [uses] at ran
  · cases ran
    exact ⟨rfl, rfl⟩
  · rcases replaceGrants_run ran with ⟨_, rfl, changed⟩ | ⟨_, rfl, kept⟩
    · exact changed
    · exact kept

/-- What a call at the gate can do to the grants, and with which answer. -/
inductive GateEffect (env : GateEnvironment ω) (call : GatedCall) (s : ApprovalRuntime ω) :
    Except IpcError GateOutcome × ApprovalRuntime ω → Prop where
  | refused {r : Except IpcError GateOutcome} {t : ApprovalRuntime ω}
      (grants : t.grants = s.grants) (file : t.grantsFile = s.grantsFile)
      (stops : ∀ work, r ≠ .ok (.run work)) : GateEffect env call s (r, t)
  | settled {r : Except IpcError GateOutcome} {t : ApprovalRuntime ω}
      (verdict : Policy.PolicyVerdict)
      (lifted : ∀ id, call.liftedBy env s = some id →
        verdict.decision = .allow ∧ verdict.matchedRuleId = some id)
      (settles : Settles verdict s t) : GateEffect env call s (r, t)

variable (env) in
theorem admitGated_effect (call : GatedCall) (s : ApprovalRuntime ω) :
    GateEffect env call s ((admitGated env call).run s) := by
  refine run_bind_cases (fun e looked look => ?_) fun answer looked look => ?_
  · have spared := (onJournal_spares _).of_eq look
    exact .refused spared.grants spared.grantsFile nofun
  have spared := (onJournal_spares _).of_eq look
  cases answer with
  | some =>
    refine .refused spared.grants spared.grantsFile fun work => ?_
    rw [replayed]
    split <;> exact nofun
  | none =>
    refine run_bind_cases (fun e judged ran => ?_) fun verdict judged ran => ?_
    · have sparedNow := trans_of Spared spared ((judge_spares call).of_eq ran)
      exact .refused sparedNow.grants sparedNow.grantsFile nofun
    have sparedNow := trans_of Spared spared ((judge_spares call).of_eq ran)
    refine run_bind_cases (fun e t consumed => ?_) fun _ t consumed => ?_
    · obtain ⟨grants, file⟩ := consumeBoundedGrantUse_run consumed
      exact .refused (grants.trans sparedNow.grants) (file.trans sparedNow.grantsFile) nofun
    · have settles : Settles verdict judged t := consumeBoundedGrantUse_run consumed
      rcases ended : (settleVerdict env call verdict).run t with ⟨r, u⟩
      have settled := (settleVerdict_spares call verdict).of_eq ended
      refine .settled verdict (fun id lifts => ?_) ?_
      · rw [GatedCall.liftedBy, look] at lifts
        obtain ⟨-, decision, matched⟩ := boundedLift_some lifts
        obtain ⟨evaluated, s₁, evaluates, ran⟩ := bind_ok_iff.mp ran
        cases evaluates
        obtain ⟨delegated, s₂, -, ran⟩ := bind_ok_iff.mp ran
        -- a decision that was lifted is not delegated again
        rw [if_neg fun both =>
          (nofun : Policy.Decision.allow ≠ .ask) (decision.symm.trans both.2)] at ran
        cases ran
        exact ⟨decision, matched⟩
      rw [Settles, sparedNow.grants, sparedNow.grantsFile] at settles
      rw [Settles, settled.grants, settled.grantsFile]
      exact settles

end Gate

/-! ## What the decisions on approvals do -/

section Approvals

variable {ω : Type} {env : Environment ω} {t s : ApprovalRuntime ω}

/-- Memory and file agree as before, and hold the same bounded grants. -/
def Lends (s t : ApprovalRuntime ω) : Prop :=
  s.grantsFile = s.grants → t.grantsFile = t.grants ∧ boundedOf t.grants = boundedOf s.grants

instance : Std.Refl (Lends (ω := ω)) := ⟨fun _ synced => ⟨synced, rfl⟩⟩

instance : IsTrans (ApprovalRuntime ω) Lends := by
  refine ⟨fun a b c first second synced => ?_⟩
  obtain ⟨syncedB, sameB⟩ := first synced
  obtain ⟨syncedC, sameC⟩ := second syncedB
  exact ⟨syncedC, sameC.trans sameB⟩

theorem Spared.lends (spared : Spared s t) : Lends s t := by
  intro synced
  rw [spared.grants, spared.grantsFile]
  exact ⟨synced, rfl⟩

/-- A grant that is stored with an approval is a temporary one. -/
theorem beginApproval_lends (params : ApproveParams) (client : String) :
    Moves Lends (beginApproval env params client) := by
  intro s
  rcases (beginApproval_prepares env params client s).2 with ⟨grants, file⟩ | ⟨grant, grants, file⟩
  · intro synced
    rw [grants, file]
    exact ⟨synced, rfl⟩
  · intro _
    refine ⟨file, ?_⟩
    rw [grants, boundedOf_append]
    exact append_nil _

theorem start_lends (id : String) : Moves Lends (start (ω := ω) id) :=
  .modify fun _ synced => ⟨synced, rfl⟩

theorem admitApprovalApprove_lends (params : ApproveParams) (client : String) :
    Moves Lends (admitApprovalApprove env params client) :=
  approveWith_moves (fun _ _ => Spared.lends) beginApproval_lends start_lends
    (admitApprovalBridge_moves (fun _ _ => Spared.lends) beginApproval_lends start_lends) _ _

theorem admitControlPlaneApprovalDecision_lends (params : DecisionParams) :
    Moves Lends (admitControlPlaneApprovalDecision env params) := by
  have asks : ∀ {α : Type} (question : ω → α × ω), Moves Lends (ask (ε := IpcError) question) :=
    fun question => (ask_spares question).mono fun _ _ => Spared.lends
  refine .bind .require fun _ =>
    .bind (resolveApproval_moves asks _ _) fun id =>
      .bind (findRecord_moves _ _) fun record => .bind .ofExcept fun _ =>
        .bind .ofExcept fun _ => .ite (fun _ => .pure) fun _ =>
          .bind (asks _) fun now => .bind .ofExcept fun _ =>
            .ite (fun _ => ?_) fun _ => ?_
  · exact (denyByControlPlane_spares env _ _ _).mono fun _ _ => Spared.lends
  · intro s
    rw [approveByControlPlane_state]
    exact admitApprovalApprove_lends _ _ s

/-- No decision touches the bounded grants. -/
theorem perform_lends (request : ApprovalRequest) : Moves Lends (request.perform env) := by
  have launches : ∀ outcome, Moves Lends (launch (ω := ω) outcome) := by
    intro outcome
    cases outcome with
    | reply => exact .pure
    | run => exact .modify fun _ synced => ⟨synced, rfl⟩
  cases request with
  | approve =>
    exact .bind (admitApprovalApprove_lends _ _) launches
  | bridge =>
    exact .bind (admitApprovalBridge_moves (fun _ _ => Spared.lends) beginApproval_lends
      start_lends _ _) launches
  | decide => exact .bind (admitControlPlaneApprovalDecision_lends _) launches
  | deny =>
    exact .bind ((handleApprovalDeny_spares _ _).mono fun _ _ => Spared.lends) fun _ => .pure
  | denyBridge =>
    exact .bind ((denyApprovalBridge_spares _ _ _).mono fun _ _ => Spared.lends) fun _ => .pure

end Approvals

/-! ## The steps of the daemon -/

section Steps

variable {ω : Type} {env : GateEnvironment ω}

/-- Memory and file agree, and their bounded grants fit what was minted and lifted. -/
structure Accounted (h : Gatehouse ω) : Prop where
  synced : h.runtime.grantsFile = h.runtime.grants
  accounts : Accounts (boundedOf h.runtime.grants) h.minted h.lifted

variable {h : Gatehouse ω} {t s : ApprovalRuntime ω}

theorem checkWorkspace_spares (workspaceId : Option String) :
    Moves Spared (checkWorkspace env workspaceId) := by
  cases workspaceId with
  | none => exact .pure
  | some =>
    refine .bind (ask_spares _) fun answer => ?_
    cases answer with
    | none => exact .pure
    | some => exact .fail

theorem mintedGrant_spares (params : AdminGrantsMintParams) :
    Moves Spared (mintedGrant env params) :=
  .bind .ofExcept fun _ => .bind .require fun _ =>
    .bind .require fun _ => .bind .ofExcept fun _ =>
      .bind .require fun _ => .bind .ofExcept fun _ =>
        .bind .ofExcept fun _ => .bind (checkWorkspace_spares _) fun _ =>
          .bind (ask_spares _) fun _ => .bind (ask_spares _) fun _ =>
            .bind .ofExcept fun _ => .pure

/-- A minted grant has the limit that was asked for, which was checked. -/
theorem mintedGrant_limit {params : AdminGrantsMintParams}
    (ran : (mintedGrant env params).run s = (.ok grant, t)) :
    ∀ most ∈ grant.maxUses, most ≤ maxBoundedToolGrantUses := by
  obtain ⟨_, -, ran⟩ := ofExcept_bind_ok_iff.mp ran
  obtain ⟨_, s₁, -, ran⟩ := bind_ok_iff.mp ran
  obtain ⟨_, s₂, checked, ran⟩ := bind_ok_iff.mp ran
  obtain ⟨limits, -⟩ := require_ok_iff.mp checked
  obtain ⟨tools, -, ran⟩ := ofExcept_bind_ok_iff.mp ran
  obtain ⟨_, s₃, -, ran⟩ := bind_ok_iff.mp ran
  obtain ⟨principalId, -, ran⟩ := ofExcept_bind_ok_iff.mp ran
  obtain ⟨deviceId, -, ran⟩ := ofExcept_bind_ok_iff.mp ran
  obtain ⟨_, s₄, -, ran⟩ := bind_ok_iff.mp ran
  obtain ⟨now, s₅, -, ran⟩ := bind_ok_iff.mp ran
  obtain ⟨id, s₆, -, ran⟩ := bind_ok_iff.mp ran
  obtain ⟨_, -, ran⟩ := ofExcept_bind_ok_iff.mp ran
  cases ran
  exact fun most isMost => (limits most isMost).2

theorem usesGrant_of_named {id : String} (allows : verdict.decision = .allow)
    (named : verdict.matchedRuleId = some id)
    (grants : List StoredGrant) : usesGrant verdict grants = countUse id grants := by
  rw [usesGrant, if_neg (not_not_intro allows), named]
  rfl

theorem reload_grantsFile (env : Environment ω) (s : ApprovalRuntime ω) :
    (reload env s).grantsFile = s.grantsFile := by
  have spares : Moves Spared (startDaemon env) := startDaemon_moves ask_spares
  rw [reload]
  rcases ran : (startDaemon env).run s with ⟨e | approvals, t⟩
  · exact (spares.of_eq ran).grantsFile
  · exact (spares.of_eq ran).grantsFile

theorem loadGrants_spares : Moves Spared (loadGrants env) := by
  refine .bind .reads fun file => .bind (ask_spares _) fun answer => ?_
  cases answer with
  | some => exact .fail
  | none =>
    exact .bind .require fun _ => .bind .require fun _ =>
      .pure

theorem loadGrants_ok (ran : (loadGrants env).run s = (.ok grants, t)) : grants = s.grantsFile := by
  rw [loadGrants, run_reads_bind] at ran
  obtain ⟨answer, _, -, ran⟩ := bind_ok_iff.mp ran
  cases answer with
  | some => cases ran
  | none =>
    obtain ⟨_, _, -, ran⟩ := bind_ok_iff.mp ran
    obtain ⟨_, _, -, ran⟩ := bind_ok_iff.mp ran
    cases ran
    rfl

section

variable (accounted : Accounted h)
include accounted

theorem Accounted.lends (lends : Lends h.runtime t) : Accounted { h with runtime := t } := by
  obtain ⟨synced, same⟩ := lends accounted.synced
  exact ⟨synced, by rw [same]; exact accounted.accounts⟩

/-- Grants that stay as they were, or go. -/
theorem Accounted.drops {kept : List StoredGrant}
    (fewer : kept.Sublist h.runtime.grants) (ends : t.grants = kept ∧ t.grantsFile = kept ∨
      t.grants = h.runtime.grants ∧ t.grantsFile = h.runtime.grantsFile) :
    Accounted { h with runtime := t } := by
  rcases ends with ⟨grants, file⟩ | ⟨grants, file⟩
  · refine ⟨file.trans grants.symm, ?_⟩
    rw [grants]
    exact accounted.accounts.sublist (fewer.filterMap _)
  · refine ⟨file.trans (accounted.synced.trans grants.symm), ?_⟩
    rw [grants]
    exact accounted.accounts

theorem handleGrantsRevoke_accounted (id : String) :
    Accounted { h with runtime := ((handleGrantsRevoke env id).run h.runtime).2 } := by
  refine run_require_bind_cases (P := fun r => Accounted { h with runtime := r.2 })
    (fun _ => accounted) fun _ => ?_
  rcases ran : (replaceGrants env (h.runtime.grants.filter fun grant => grantId grant ≠ id)).run
    h.runtime with ⟨r, t⟩
  rcases replaceGrants_run ran with ⟨_, -, changed⟩ | ⟨_, -, same⟩
  · exact accounted.drops filter_sublist (.inl changed)
  · exact accounted.drops (.refl _) (.inr same)

theorem handleLockdown_accounted :
    Accounted { h with runtime := ((handleLockdown env).run h.runtime).2 } := by
  refine accounted.drops (nil_sublist _) ?_
  rw [handleLockdown, run_reads_bind, setGrants, run_modify_bind, ask, run_query_bind]
  generalize (env.writeLockdown h.runtime.journal.world).2 = world
  cases (env.writeLockdown h.runtime.journal.world).1 with
  | some => exact .inr ⟨rfl, rfl⟩
  | none =>
    rw [run_attempt_bind, persistGrants, ask, run_query_bind]
    generalize (env.approvals.writeGrants world).2 = world'
    cases (env.approvals.writeGrants world).1 with
    | none => exact .inl ⟨rfl, rfl⟩
    | some =>
      refine .inr ?_
      rw [run_fail]
      rw [setGrants, run_modify_bind, run_query_bind]
      generalize (env.writeLockdown world').2 = world''
      cases (env.writeLockdown world').1 with
      | none | some => exact ⟨rfl, rfl⟩

/-- A step of minting keeps the accounts: the new id is new to them. -/
theorem afterMint_accounted (params : AdminGrantsMintParams)
    (fresh : ∀ grant t, (mintedGrant env params).run h.runtime = (.ok grant, t) →
      ∀ older ∈ h.minted, older.id ≠ grant.id) : Accounted (h.afterMint env params) := by
  rw [Gatehouse.afterMint, executeAdminGrantsMint]
  rcases minted : (mintedGrant env params).run h.runtime with ⟨e | grant, s⟩
  · rw [run_bind_of_error minted]
    exact accounted.lends ((mintedGrant_spares params).of_eq minted).lends
  have spared := (mintedGrant_spares params).of_eq minted
  rw [run_bind_of_ok minted, run_reads_bind]
  rcases ran : (replaceGrants env (s.grants ++ [.boundedTool grant])).run s with ⟨r, t⟩
  rcases replaceGrants_run ran with ⟨_, rfl, grants, file⟩ | ⟨_, rfl, same⟩
  · rw [run_bind_of_ok ran]
    refine ⟨file.trans grants.symm, ?_⟩
    show Accounts (boundedOf t.grants) (grant :: h.minted) h.lifted
    rw [grants, boundedOf_append, spared.grants]
    exact accounted.accounts.mint (fresh grant s minted) (mintedGrant_limit minted)
  · rw [run_bind_of_error ran]
    exact accounted.drops (.refl _)
      (.inr ⟨same.1.trans spared.grants, same.2.trans spared.grantsFile⟩)

theorem Accounted.settles (settles : Settles verdict h.runtime t) :
    Accounted { h with runtime := t } := by
  rw [Settles] at settles
  split at settles
  next => exact accounted.drops (.refl _) (.inr settles)
  next uses =>
    rw [usesGrant] at uses
    split at uses
    · cases uses
    obtain ⟨id, -, counts⟩ := Option.bind_eq_some_iff.mp uses
    refine ⟨settles.2.trans settles.1.symm, ?_⟩
    rw [settles.1, boundedOf_countUse accounted.accounts.distinct counts]
    exact accounted.accounts.count id

section

variable (settles : Settles verdict h.runtime t)
  (member : grant ∈ boundedOf h.runtime.grants) (allows : verdict.decision = .allow)
  (named : verdict.matchedRuleId = some grant.id)
include settles member allows named

/-- A verdict that a bounded grant lifts counts its use. -/
theorem Accounted.lifts (left : ∀ most ∈ grant.maxUses, grant.uses < most) :
    Accounted { h with runtime := t, lifted := grant.id :: h.lifted } := by
  have accounts := accounted.accounts
  rw [Settles, usesGrant_of_named allows named] at settles
  split at settles
  next counts =>
    refine ⟨settles.2.trans (accounted.synced.trans settles.1.symm), ?_⟩
    rw [settles.1]
    refine accounts.lift member fun most limited => ?_
    cases (unlimited_of_countUse accounts.distinct counts member rfl).symm.trans limited
  next counts =>
    refine ⟨settles.2.trans settles.1.symm, ?_⟩
    rw [settles.1, boundedOf_countUse accounts.distinct counts]
    have later := (accounts.count grant.id).lift (mem_map_of_mem member) fun most limited => ?_
    · rwa [useIfNamed_id] at later
    rw [useIfNamed_maxUses] at limited
    have soFar := accounts.counted grant member (by rw [limited]; rfl)
    have few := left most limited
    rw [useIfNamed_id, useIfNamed, if_pos rfl, accounts.limit member limited few]
    omega

/-- The use of a grant with a limit is on file. -/
theorem Accounted.written
    {most : Nat} (limit : grant.maxUses = some most) (left : grant.uses < most) :
    .boundedTool { grant with uses := grant.uses + 1 } ∈ t.grantsFile := by
  have accounts := accounted.accounts
  rw [Settles, usesGrant_of_named allows named] at settles
  cases counts : countUse grant.id h.runtime.grants with
  | none =>
    have unlimited := unlimited_of_countUse accounts.distinct counts member rfl
    rw [limit] at unlimited
    cases unlimited
  | some =>
    rw [counts] at settles
    have counted : { grant with uses := grant.uses + 1 } = useIfNamed grant.id grant := by
      rw [useIfNamed, if_pos rfl, ← accounts.limit member limit left]
      rfl
    rw [settles.2, counted, ← mem_boundedOf, boundedOf_countUse accounts.distinct counts]
    exact mem_map_of_mem member

end

/-- A call at the gate keeps the accounts: what it lifts is counted. -/
theorem afterGate_accounted (call : GatedCall) : Accounted (h.afterGate env call) := by
  have effect := admitGated_effect env call h.runtime
  rw [Gatehouse.afterGate]
  generalize (admitGated env call).run h.runtime = result at effect
  cases effect with
  | @refused r t grants file stops =>
    have kept : Accounted { h with runtime := t } :=
      accounted.drops (.refl _) (.inr ⟨grants, file⟩)
    match r, stops with
    | .error e, _ => exact kept
    | .ok (.reply body), _ => exact kept
    | .ok (.run work), stops => exact absurd rfl (stops work)
  | @settled r t verdict lifted settles =>
    match r with
    | .error e => exact accounted.settles settles
    | .ok (.reply body) => exact accounted.settles settles
    | .ok (.run work) =>
      have launched : Settles verdict h.runtime { t with inFlight := work :: t.inFlight } :=
        settles
      cases lifts : call.liftedBy env h.runtime with
      | none => exact accounted.settles launched
      | some id =>
        obtain ⟨allows, named⟩ := lifted id lifts
        obtain ⟨⟨grant, member, rfl, left⟩, -⟩ := boundedLift_some lifts
        exact accounted.lifts launched member allows named left

theorem reopen_accounted : Accounted { h with runtime := reopen env h.runtime } := by
  rw [reopen]
  rcases ran : (loadGrants env).run h.runtime with ⟨e | grants, t⟩
  · exact accounted.lends (loadGrants_spares.of_eq ran).lends
  · have loaded : grants = h.runtime.grants := (loadGrants_ok ran).trans accounted.synced
    refine accounted.drops (.refl _) (.inl ⟨loaded, ?_⟩)
    exact (reload_grantsFile _ _).trans
      ((loadGrants_spares.of_eq ran).grantsFile.trans accounted.synced)

end

theorem step_accounted {h' : Gatehouse ω} {event : GateEvent} (accounted : Accounted h)
    (step : GateStep env h event h') : Accounted h' := by
  cases step with
  | gated running call => exact afterGate_accounted accounted call
  | mint running params fresh => exact afterMint_accounted accounted params fresh
  | revoke running id => exact handleGrantsRevoke_accounted accounted id
  | lockdown => exact handleLockdown_accounted accounted
  | approval running request => exact accounted.lends (perform_lends request _)
  | finalize running work inFlight executed =>
    refine accounted.lends (trans_of Lends ?_ (finalizeAllowed_spares work executed _).lends)
    exact fun synced => ⟨synced, rfl⟩
  | reload => exact reopen_accounted accounted

/-- A daemon that has no grants yet and has minted none. -/
def Gatehouse.Blank (h : Gatehouse ω) : Prop :=
  h.runtime.grants = [] ∧ h.runtime.grantsFile = [] ∧ h.minted = [] ∧ h.lifted = []

theorem Gatehouse.Blank.accounted (blank : h.Blank) : Accounted h := by
  obtain ⟨grants, file, minted, lifted⟩ := blank
  refine ⟨file.trans grants.symm, ?_⟩
  rw [grants, minted, lifted]
  exact Accounts.nothing

/-- **A bounded grant is used as often as it says**: over every run it lifts at most as many
requests that are run as its limit allows; the use of each of them is on file when the
request is handed out; and a use that cannot be written admits nothing and is taken back. -/
theorem bounded_uses {start h : Gatehouse ω} {events : List GateEvent} (blank : start.Blank)
    (run : Run (GateStep env) start events h) :
    (∀ grant ∈ h.minted, ∀ most, grant.maxUses = some most → h.lifted.count grant.id ≤ most) ∧
    (∀ call work t, (admitGated env call).run h.runtime = (.ok (.run work), t) →
      ∀ grant, .boundedTool grant ∈ h.runtime.grants → grant.maxUses.isSome →
        call.liftedBy env h.runtime = some grant.id →
        .boundedTool { grant with uses := grant.uses + 1 } ∈ t.grantsFile) ∧
    (∀ call looked judged t verdict e,
      (onJournal (lookupIdempotent env.approvals.journal (call.journalKey env))).run h.runtime =
        (.ok none, looked) →
      (judge env call).run looked = (.ok verdict, judged) →
      (consumeBoundedGrantUse env verdict).run judged = (.error e, t) →
        (admitGated env call).run h.runtime = (.error e, t) ∧
          t.grants = h.runtime.grants ∧ t.grantsFile = h.runtime.grantsFile) := by
  have accounted : Accounted h := run.invariant step_accounted blank.accounted
  refine ⟨fun grant member most limit => accounted.accounts.bounded grant member most limit, ?_, ?_⟩
  · intro call work t ran grant stored limited lifts
    have effect := admitGated_effect env call h.runtime
    rw [ran] at effect
    cases effect with
    | refused grants file stops => exact absurd rfl (stops work)
    | settled verdict lifted settles =>
      obtain ⟨allows, named⟩ := lifted _ lifts
      have member := mem_boundedOf.mpr stored
      obtain ⟨⟨other, otherMember, same, left⟩, -⟩ := boundedLift_some lifts
      obtain rfl := accounted.accounts.unique otherMember member same
      obtain ⟨most, limit⟩ := Option.isSome_iff_exists.mp limited
      exact accounted.written settles member allows named limit (left most limit)
  · intro call looked judged t verdict e look judges consumes
    have sparedLook := (onJournal_spares _).of_eq look
    have sparedNow := trans_of Spared sparedLook ((judge_spares call).of_eq judges)
    obtain ⟨grants, file⟩ := consumeBoundedGrantUse_run consumes
    refine ⟨?_, grants.trans sparedNow.grants, file.trans sparedNow.grantsFile⟩
    rw [admitGated, run_bind_of_ok look]
    exact (run_bind_of_ok judges).trans (run_bind_of_error consumes)

end Steps

/-! ### A grant that is used up -/

def sampleGate : GateEnvironment Nat where
  approvals := sampleEnvironment
  readGrants n := (none, n)
  grantsBytes _ := 0
  writeLockdown n := (none, n)
  workspaceFor _ n := (none, n)

def blankGatehouse : Gatehouse Nat where
  runtime :=
    { stoppedRuntime with
      journal := { stoppedRuntime.journal with world := 1 }
      running := true }
  minted := []
  lifted := []

def sampleMint : AdminGrantsMintParams where
  tools := ["fs_read"]
  ttlSeconds := 60
  maxUses := some 1
  workspaceId := none
  idempotencyKey := "mint_1"
  principalId := some "client:agent"
  deviceId := some "dev_1"

/-- A read that the policy asks about. -/
def sampleCall : GatedCall where
  context :=
    { policy :=
        { rules :=
            [{ id := "ask_all"
               decision := .ask
               priority := 0
               capability := "*"
               whenElevated := none
               whenKind := none
               pathPrefix := none
               programEquals := none
               whenTag := none
               description := none }] }
      delegateRemoteMcp := false
      activeRemoteOperationId := none
      activeRemotePayloadHash := none
      activeRemoteExpiresAtUnix := none
      activeRemoteDeviceId := some "dev_1" }
  facts :=
    { capability := "filesystem.read"
      kind := "read"
      path := none
      program := none
      elevated := false
      tags := []
      workspaceId := none
      tool := none }
  idempotencyKey := none
  request := .fsRead none .null
  client := "client:agent"

/-- A grant for one use lifts the first read and, after a crash, not the second. -/
theorem bounded_uses_sample : ∃ h, Run (GateStep sampleGate) blankGatehouse
        [.minted sampleMint, .gated sampleCall, .reloaded, .gated sampleCall] h ∧
      h.lifted = ["grant_1"] ∧
      ∀ grant ∈ h.minted, ∀ most, grant.maxUses = some most → h.lifted.count grant.id ≤ most := by
  have run : Run (GateStep sampleGate) blankGatehouse
      [.minted sampleMint, .gated sampleCall, .reloaded, .gated sampleCall] _ :=
    .next (.mint rfl sampleMint fun _ _ _ _ older => by cases older)
      (.next (.gated (by decide) sampleCall) (.next (.reload _)
        (.next (.gated (by decide) sampleCall) (.done _))))
  exact ⟨_, run, by decide, (bounded_uses ⟨rfl, rfl, rfl, rfl⟩ run).1⟩

end OwnMesh.Approvals
