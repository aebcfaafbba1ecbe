import OwnMesh.Approvals.ExactOnce
import OwnMesh.OpJournal.Effects

/-!
# Approvals whose time is over

A record may carry the time it expires at.  The three ways to approve it treat that time
differently: the local `approve` never looks at it, while the bridge and the decision of the
control plane refuse a record only when the clock is strictly past it.

`Spared` says that an admission started no request and minted no grant.  Up to the start of
the request nothing is given away for good, so what matters is what can stop an approval
before: `Begins` lists it, in terms of the record, the approver, the lockdown, the grant that
was asked for, the journal and the answers of the three writes.

**Main theorem.** `stale_spared_iff`: at or past the expiry, an `approve` spares the record
only when something other than the expiry stops it, and the other two spare it unless the
clock stands at the expiry and nothing else stops them.
-/

namespace OwnMesh.Approvals

open Foundations Ipc OpJournal List
open Policy (OperationFacts StoredGrant TemporaryGrant asciiLower)
open Program

variable {ω : Type} {env : Environment ω}

/-! ## What an approval gives away -/

/-- The requests that were started, and the grants in memory and on file. -/
def ApprovalRuntime.given (s : ApprovalRuntime ω) :
    List String × List StoredGrant × List StoredGrant :=
  (s.started, s.grants, s.grantsFile)

/-- No request was started and no grant was minted. -/
def Spared (s t : ApprovalRuntime ω) : Prop := Keeps ApprovalRuntime.given s t

instance : Std.Refl (Spared (ω := ω)) := ⟨fun _ => rfl⟩

instance : IsTrans (ApprovalRuntime ω) Spared :=
  ⟨fun _ _ _ first second => Eq.trans second first⟩

variable {s t : ApprovalRuntime ω} {α : Type} {expiry : Int}

theorem Spared.started (spared : Spared s t) : t.started = s.started :=
  congrArg Prod.fst spared

theorem Spared.grants (spared : Spared s t) : t.grants = s.grants :=
  congrArg (fun given => given.2.1) spared

theorem Spared.grantsFile (spared : Spared s t) : t.grantsFile = s.grantsFile :=
  congrArg (fun given => given.2.2) spared

theorem ask_spares {ε : Type} (question : ω → α × ω) : Moves Spared (ask (ε := ε) question) :=
  .query fun _ => rfl

theorem onJournal_spares {ε : Type} (m : Program (Journal ω) ε α) :
    Moves Spared (onJournal m) := fun _ => rfl

theorem changeRecord_spares (id : String) (change : ApprovalRecord → ApprovalRecord) :
    Moves Spared (changeRecord (ω := ω) id change) :=
  .modify fun _ => rfl

theorem restoreApprovalRecord_spares (id : String) (previous : Option ApprovalRecord) :
    Moves Spared (restoreApprovalRecord (ω := ω) id previous) := by
  cases previous with
  | none | some => exact .modify fun _ => rfl

variable (env) in
theorem persistApprovals_spares : Moves Spared (persistApprovals env) := by
  refine .bind (ask_spares _) fun failure => ?_
  cases failure with
  | none => exact .modify fun _ => rfl
  | some => exact .fail

theorem persistOrRestoreApprovals_spares (snapshot : ApprovalTable) :
    Moves Spared (persistOrRestoreApprovals env snapshot) := by
  refine .bind (.attempt (persistApprovals_spares env)) fun written => ?_
  cases written with
  | ok => exact .pure
  | error e => exact .bind (.modify fun _ => rfl) fun _ => .fail

/-- Putting back the grants that were there. -/
theorem setGrants_spares (s : ApprovalRuntime ω) :
    Moves (Preserves (Spared s)) (setGrants s.grants) := by
  intro t spared
  show (t.started, s.grants, t.grantsFile) = s.given
  rw [spared.started, spared.grantsFile]
  rfl

/-! ### The end of a request -/

theorem finalizeApprovedCompletion_spares (completion : ApprovedCompletion)
    (executed : Except IpcError Value) :
    Moves Spared (finalizeApprovedCompletion env completion executed) := by
  refine .bind (onJournal_spares _) fun _ => .bind .ofExcept fun result =>
    .bind (.attempt (onJournal_spares _)) fun stored => ?_
  cases stored with
  | error e =>
    exact .bind (onJournal_spares _) fun _ =>
      .bind (restoreApprovalRecord_spares _ _) fun _ => .fail
  | ok =>
    refine .bind .reads fun preTerminal =>
      .bind (changeRecord_spares _ _) fun _ =>
        .bind (.attempt (persistApprovals_spares env)) fun written => ?_
    cases written with
    | error e => exact .bind (restoreApprovalRecord_spares _ _) fun _ => .fail
    | ok => exact .pure

theorem finalizeCompletions_spares (completions : List AllowedCompletion)
    (outcome : Except IpcError Value) :
    Moves Spared (finalizeCompletions env completions outcome) := by
  induction completions generalizing outcome with
  | nil => exact .pure
  | cons completion rest ih =>
    refine .bind (.attempt ?_) fun next => ih next
    cases completion with
    | operation => exact onJournal_spares _
    | approval => exact finalizeApprovedCompletion_spares _ _
    | controlPlaneApproval => exact .ofExcept

theorem finalizeAllowed_spares (work : AllowedWork) (executed : Except IpcError Value) :
    Moves Spared (finalizeAllowed env work executed) :=
  .bind (finalizeCompletions_spares _ _) fun _ => .ofExcept

/-! ## Up to the start -/

/-- An approval up to its start: the request that is about to be started and what ends it. -/
def beginApproval (env : Environment ω) (params : ApproveParams) (client : String) :
    ApprovalM ω (PendingRequest × ApprovedCompletion) := do
  let approver := env.canonicalizePrincipalKey client
  let record ← approvableRecord env params.id approver
  let grant ← pendingGrant env params record
  let key := journalKeyOf env record
  let before ← reads fun s => s.approvals.lookup params.id
  let grantsBefore ← reads ApprovalRuntime.grants
  let journalBefore ← reads fun s => key.bind fun k => s.journal.entries.lookup k
  commitExecuting env params.id before grantsBefore
  reserveApprovedKey env params.id key record.operationId before grantsBefore
  storeApprovedGrant env params.id key before grantsBefore journalBefore grant
  let executingEntry ← reads fun s => key.bind fun k => s.journal.entries.lookup k
  let executingApproval ← reads fun s => s.approvals.lookup params.id
  pure (record.request,
    { journalKey := key
      operationId := record.operationId
      approvalId := params.id
      approver := approver
      grantedScope := grant.map grantScope
      executingJournalEntry := executingEntry
      executingApproval := executingApproval })

theorem approveWith_eq (onBridge : AdminApprovalBridgeParams → String → ApprovalM ω GateOutcome)
    (params : ApproveParams) (client : String) : approveWith env onBridge params client =
      beginApproval env params client >>= fun begun =>
        start params.id >>= fun _ =>
          runApproved env onBridge begun.1 (env.canonicalizePrincipalKey client)
            (.approval begun.2) := by
  simp only [approveWith, beginApproval, bind_bind, pure_bind_eq]

/-- How the stretch up to the start ends: given up, it gave nothing away; otherwise it
started nothing yet. -/
def Holds {α : Type} (s : ApprovalRuntime ω)
    (result : Except IpcError α × ApprovalRuntime ω) : Prop :=
  (∀ e, result.1 = .error e → Spared s result.2) ∧ result.2.started = s.started

/-- By the start at most one more grant is stored, a temporary one. -/
def Prepares {α : Type} (s : ApprovalRuntime ω) (result : Except IpcError α × ApprovalRuntime ω) :
    Prop :=
  Holds s result ∧ (result.2.grants = s.grants ∧ result.2.grantsFile = s.grantsFile ∨
    ∃ grant, result.2.grants = s.grants ++ [.temporary grant] ∧
      result.2.grantsFile = result.2.grants)

theorem prepares_of_spared {result : Except IpcError α × ApprovalRuntime ω}
    (spared : Spared s result.2) : Prepares s result :=
  ⟨⟨fun _ _ => spared, spared.started⟩, .inl ⟨spared.grants, spared.grantsFile⟩⟩

/-- What is given up after a spared stretch is spared. -/
theorem prepares_bind {β : Type} {m : ApprovalM ω α} {next : α → ApprovalM ω β}
    (spared : Spared s t) (first : Moves (Preserves (Spared s)) m)
    (second : ∀ a u, Spared s u → Prepares s ((next a).run u)) :
    Prepares s ((m >>= next).run t) := by
  have kept := first t spared
  rcases ran : m.run t with ⟨e | a, u⟩ <;> rw [ran] at kept
  · rw [run_bind_of_error ran]
    exact prepares_of_spared kept
  · rw [run_bind_of_ok ran]
    exact second a u kept

theorem commitExecuting_spares (id : String) (before : Option ApprovalRecord)
    (s : ApprovalRuntime ω) :
    Moves (Preserves (Spared s)) (commitExecuting env id before s.grants) := by
  refine .bind ((ask_spares _).continues s) fun now =>
    Moves.bind ((changeRecord_spares _ _).continues s) fun _ =>
      Moves.bind (Moves.attempt ((persistApprovals_spares env).continues s)) fun written => ?_
  cases written with
  | ok => exact .pure
  | error e =>
    exact Moves.bind ((restoreApprovalRecord_spares _ _).continues s) fun _ =>
      .bind (setGrants_spares s) fun _ => .fail

theorem reserveApprovedKey_spares (id : String) (key : Option String) (operationId : String)
    (before : Option ApprovalRecord) (s : ApprovalRuntime ω) : Moves (Preserves (Spared s))
      (reserveApprovedKey env id key operationId before s.grants) := by
  refine .bind (Moves.attempt ((onJournal_spares _).continues s)) fun reserved => ?_
  cases reserved with
  | ok => exact .pure
  | error =>
    exact Moves.bind ((restoreApprovalRecord_spares _ _).continues s) fun _ =>
      .bind (setGrants_spares s) fun _ =>
        Moves.bind (Moves.attempt ((persistApprovals_spares env).continues s)) fun _ =>
          .fail

/-- A write of the grants that fails leaves the file, and one that does not starts nothing. -/
theorem persistGrants_given {r : Except IpcError Unit} (ran : (persistGrants env).run s = (r, t)) :
    t.started = s.started ∧ t.grants = s.grants ∧
      t.grantsFile = r.casesOn (fun _ => s.grantsFile) fun _ => s.grants := by
  rw [persistGrants, ask, run_query_bind] at ran
  split at ran <;> cases ran <;> exact ⟨rfl, rfl, rfl⟩

variable (env) in
theorem storeApprovedGrant_prepares (id : String) (key : Option String)
    (before : Option ApprovalRecord) (journalBefore : Option Value) (grant : Option TemporaryGrant)
    (spared : Spared s t) :
    Prepares s ((storeApprovedGrant env id key before s.grants journalBefore grant).run t) := by
  cases grant with
  | none => exact prepares_of_spared spared
  | some grant =>
    rw [storeApprovedGrant, setGrants, run_modify_bind, run_attempt_bind]
    rcases ran : (persistGrants env).run { t with grants := s.grants ++ [.temporary grant] }
      with ⟨e | _, u⟩
    · obtain ⟨started, -, file⟩ := persistGrants_given ran
      -- the grant is in memory until it is taken back, so only then the state is spared
      have restored : Moves (Preserves fun v => v.started = s.started ∧
          v.grantsFile = s.grantsFile) (restoreApprovalRecord (ω := ω) id before) := by
        intro v kept
        have same := restoreApprovalRecord_spares id before v
        exact ⟨same.started.trans kept.1, same.grantsFile.trans kept.2⟩
      refine run_bind_cases (fun e' v failed => ?_) fun _ v ran' => ?_
      · cases before <;> cases failed
      have kept := restored.of_eq ran' ⟨started.trans spared.started, file.trans spared.grantsFile⟩
      have back : Spared s { v with grants := s.grants } := by
        rw [kept.1, kept.2]
        rfl
      have rollback : ∀ journal w, Spared s w → Prepares s
          ((attempt (persistApprovals env) >>= fun approvals =>
            (fail (withRollbackErrors e (failures [journal, approvals])) :
              ApprovalM ω Unit)).run w) := fun journal w spared₂ =>
        prepares_bind spared₂ (Moves.attempt ((persistApprovals_spares env).continues s))
          fun _ _ spared₃ => prepares_of_spared spared₃
      rw [setGrants, run_modify_bind]
      refine prepares_bind back ((onJournal_spares _).continues s) fun _ w spared₁ => ?_
      cases key with
      | none => exact rollback _ w spared₁
      | some =>
        exact prepares_bind spared₁ (Moves.attempt ((onJournal_spares _).continues s)) rollback
    · obtain ⟨started, grants, file⟩ := persistGrants_given ran
      refine ⟨⟨fun e failed => ?_, started.trans spared.started⟩, ?_⟩
      · cases failed
      · exact .inr ⟨grant, grants, file.trans grants.symm⟩

variable (env) in
/-- Up to the start nothing is given away for good. -/
theorem beginApproval_prepares (params : ApproveParams) (client : String)
    (s : ApprovalRuntime ω) : Prepares s ((beginApproval env params client).run s) := by
  refine prepares_bind rfl ((approvableRecord_moves _ _).continues s) fun record s₁ spared₁ => ?_
  refine prepares_bind spared₁ ((pendingGrant_moves ask_spares _ _).continues s)
    fun grant s₂ spared₂ => ?_
  rw [run_reads_bind, run_reads_bind, run_reads_bind, spared₂.grants]
  refine prepares_bind spared₂ (commitExecuting_spares _ _ s) fun _ s₃ spared₃ => ?_
  refine prepares_bind spared₃ (reserveApprovedKey_spares _ _ _ _ s) fun _ s₄ spared₄ => ?_
  have stored := storeApprovedGrant_prepares env params.id (journalKeyOf env record)
    (s₂.approvals.lookup params.id)
    ((journalKeyOf env record).bind fun k => s₂.journal.entries.lookup k) grant spared₄
  refine run_bind_cases (fun e t ran => ?_) fun _ t ran => ?_
  · rw [ran] at stored
    exact prepares_of_spared (stored.1.1 e rfl)
  · rw [ran] at stored
    exact ⟨⟨nofun, stored.1.2⟩, stored.2⟩

/-! ## From the start on -/

/-- What was started stays started. -/
def Grows (s t : ApprovalRuntime ω) : Prop := s.started <:+ t.started

instance : Std.Refl (Grows (ω := ω)) := ⟨fun _ => suffix_rfl⟩

instance : IsTrans (ApprovalRuntime ω) Grows := ⟨fun _ _ _ first second => first.trans second⟩

theorem grows_of_started (same : t.started = s.started) : Grows s t := by
  have whole : s.started <:+ s.started := suffix_rfl
  unfold Grows
  exact same.symm ▸ whole

theorem Spared.grows (spared : Spared s t) : Grows s t :=
  grows_of_started spared.started

section Moving

/-! An approval moves the state along any relation that its stretch up to the start, the
start, and what gives nothing away do. -/

variable {R : ApprovalRuntime ω → ApprovalRuntime ω → Prop} [Std.Refl R]
  [IsTrans (ApprovalRuntime ω) R]
  {onBridge : AdminApprovalBridgeParams → String → ApprovalM ω GateOutcome}

theorem runApproved_moves (calm : ∀ s t, Spared s t → R s t)
    (bridges : ∀ params approver, Moves R (onBridge params approver)) (request : PendingRequest)
    (approver : String) (completion : AllowedCompletion) :
    Moves R (runApproved env onBridge request approver completion) := by
  have ends : ∀ executed, Moves R
      (finalizeAllowed env { request := request, completions := [completion] } executed >>=
        fun body => (pure (.reply body) : ApprovalM ω GateOutcome)) := fun executed =>
    Moves.bind ((finalizeAllowed_spares _ executed).mono calm) fun _ => .pure
  cases request with
  | exec => exact .pure
  | adminApprovalBridge params =>
    refine .bind (bridges params approver) fun outcome => ?_
    cases outcome with
    | reply => exact ends _
    | run => exact .pure
  | _ => exact .bind ((ask_spares _).mono calm) ends

section

variable (calm : ∀ s t, Spared s t → R s t)
  (begins : ∀ params client, Moves R (beginApproval env params client))
  (starts : ∀ id, Moves R (start id))
include calm begins starts

theorem approveWith_moves
    (bridges : ∀ params approver, Moves R (onBridge params approver)) (params : ApproveParams)
    (client : String) : Moves R (approveWith env onBridge params client) := by
  rw [approveWith_eq]
  exact .bind (begins _ _) fun _ => .bind (starts _) fun _ =>
    runApproved_moves calm bridges _ _ _

theorem admitApprovalBridge_moves (params : AdminApprovalBridgeParams) (approver : String) :
    Moves R (admitApprovalBridge env params approver) := by
  have asks : ∀ {α : Type} (question : ω → α × ω), Moves R (ask (ε := IpcError) question) :=
    fun question => (ask_spares question).mono calm
  exact .bind (findRecord_moves _ _) fun target => .bind (asks _) fun now =>
    .bind .require fun _ => .bind .ofExcept fun _ =>
      .bind (checkPendingRequestLockdown_moves asks _) fun _ =>
        approveWith_moves calm begins starts (fun _ _ => .fail) _ _

end

end Moving

/-- An approval starts its request exactly when nothing stops it before, and otherwise
gives nothing away. -/
theorem approveWith_spared_iff
    {onBridge : AdminApprovalBridgeParams → String → ApprovalM ω GateOutcome}
    (bridges : ∀ params approver, Moves Grows (onBridge params approver)) (params : ApproveParams)
    (client : String) (s : ApprovalRuntime ω) :
    Spared s ((approveWith env onBridge params client).run s).2 ↔
      ¬ ∃ begun t, (beginApproval env params client).run s = (.ok begun, t) := by
  have held := (beginApproval_prepares env params client s).1
  rw [approveWith_eq]
  rcases ran : (beginApproval env params client).run s with ⟨e | begun, t⟩ <;> rw [ran] at held
  · rw [run_bind_of_error ran]
    refine iff_of_true (held.1 e rfl) ?_
    rintro ⟨_, _, ⟨⟩⟩
  · rw [run_bind_of_ok ran, start, run_modify_bind]
    refine iff_of_false (fun spared => ?_) (not_not_intro ⟨begun, t, rfl⟩)
    have grows : Moves Grows (runApproved env onBridge begun.1
        (env.canonicalizePrincipalKey client) (.approval begun.2)) :=
      runApproved_moves (fun _ _ => Spared.grows) bridges _ _ _
    have longer := (grows { t with started := params.id :: t.started }).length_le
    rw [spared.started] at longer
    have same : t.started = s.started := held.2
    simp only [same, length_cons] at longer
    omega

/-! ## What can stop an approval -/

section Conditions

/-- The runtime when a question has been asked. -/
def asked (question : ω → α × ω) (s : ApprovalRuntime ω) : ApprovalRuntime ω :=
  { s with journal := { s.journal with world := (question s.journal.world).2 } }

/-- The answer to a question. -/
def told (question : ω → α × ω) (s : ApprovalRuntime ω) : α := (question s.journal.world).1

variable (env : Environment ω)

/-- What the clock shows. -/
def clock (s : ApprovalRuntime ω) : Int := told env.journal.now s

/-- A locked device runs an unlock and a diagnosis only, one that is not locked no unlock. -/
def Unlocked (request : PendingRequest) (s : ApprovalRuntime ω) : Prop :=
  if told env.lockdown s = true then request.isUnlock = true ∨ request.isDiagnose = true
  else request.isUnlock = false

/-- The approver is an independent human, and no token of the requester is revoked. -/
structure Approvable (record : ApprovalRecord) (approver : String) : Prop where
  pending : record.state = .pending
  independent : ensureIndependentHumanApprover env approver record.requesterPrincipal = .ok ()
  foreign : ∀ principal digest, record.request = .adminTokenRevoke principal digest →
    env.canonicalizePrincipalKey principal ≠ record.requesterPrincipal

/-- The temporary grant, as the facts of the record make it. -/
def grantFrom (params : ApproveParams) (record : ApprovalRecord) (facts : OperationFacts)
    (s : ApprovalRuntime ω) : Except String TemporaryGrant :=
  env.temporaryGrantFromFacts (told env.newId (asked env.journal.now s))
    (if record.requesterPrincipal = "" then localPrincipal else record.requesterPrincipal)
    (saturatingAdd (clock env s) (params.grantSeconds.getD defaultGrantSecs)) facts

/-- A temporary grant that was asked for can be made. -/
def Grantable (params : ApproveParams) (record : ApprovalRecord) (s : ApprovalRuntime ω) : Prop :=
  params.temporaryGrant = true → ∃ facts grant, record.facts = some facts ∧
    trim facts.capability = trim record.capability ∧
    grantFrom env params record facts s = .ok grant

/-- The runtime when the grant has been made. -/
def granted (params : ApproveParams) (s : ApprovalRuntime ω) : ApprovalRuntime ω :=
  if params.temporaryGrant then asked env.newId (asked env.journal.now s) else s

/-- The runtime when the record is about to be written as executing. -/
def committing (params : ApproveParams) (s : ApprovalRuntime ω) : ApprovalRuntime ω :=
  asked env.journal.now (granted env params (asked env.lockdown s))

/-- The journal when the key of the request is about to be reserved. -/
def reserving (params : ApproveParams) (s : ApprovalRuntime ω) : Journal ω :=
  (asked env.writeApprovals (committing env params s)).journal

/-- **Nothing stops the approval of a record before its request starts.** -/
structure Begins (params : ApproveParams) (client : String) (record : ApprovalRecord)
    (s : ApprovalRuntime ω) : Prop where
  approvable : Approvable env record (env.canonicalizePrincipalKey client)
  plain : ¬ (params.temporaryGrant = true ∧ record.request.isAdmin = true)
  unlocked : Unlocked env record.request s
  grantable : Grantable env params record (asked env.lockdown s)
  written : told env.writeApprovals (committing env params s) = none
  reservable : ∀ key, journalKeyOf env record = some key →
    Reservable env.journal key record.operationId (reserving env params s)
  stored : params.temporaryGrant = true →
    (env.writeGrants ((beginIdempotent env.journal (journalKeyOf env record)
      record.operationId).run (reserving env params s)).2.world).1 = none

end Conditions

theorem approvableRecord_answers {id approver : String} {record : ApprovalRecord}
    (found : s.approvals.lookup id = some record) :
    Answers (Approvable env record approver) (fun a t => a = record ∧ t = s)
      ((approvableRecord env id approver).run s) := by
  rw [approvableRecord, findRecord, bind_bind, run_reads_bind, found, pure_bind_eq]
  refine run_require_bind_cases (fun decided => .error fun may => decided may.pending)
    fun pending => ?_
  refine run_ofExcept_bind_cases (fun e refused => .error fun may => ?_) fun _ independent => ?_
  · cases refused.symm.trans may.independent
  split
  · rename_i principal digest revokes
    refine run_require_bind_cases (fun own => .error fun may => ?_) fun foreign => ?_
    · exact own (may.foreign principal digest revokes)
    · refine .ok ⟨pending, independent, fun principal' digest' revokes' => ?_⟩ ⟨rfl, rfl⟩
      cases revokes.symm.trans revokes'
      exact foreign
  · rename_i other
    exact .ok ⟨pending, independent, fun _ _ revokes => absurd revokes (other _ _)⟩ ⟨rfl, rfl⟩

theorem checkPendingRequestLockdown_answers (request : PendingRequest) (s : ApprovalRuntime ω) :
    Answers (Unlocked env request s) (fun _ t => t = asked env.lockdown s)
      ((checkPendingRequestLockdown env request).run s) := by
  rw [checkPendingRequestLockdown, ask, run_query_bind]
  refine run_require_bind_cases (fun refused => .error ?_) fun first => ?_
  · obtain ⟨unlocks, open_⟩ := not_not.mp refused
    rw [Unlocked, if_neg (by rw [told, open_]; decide), unlocks]
    decide
  by_cases second : ¬ ((env.lockdown s.journal.world).1 = true ∧ request.isUnlock = false ∧
      request.isDiagnose = false)
  · rw [run_require_of_holds second]
    refine .ok ?_ rfl
    unfold Unlocked told
    split
    · rename_i locked
      by_contra neither
      simp only [not_or, Bool.not_eq_true] at neither
      exact second ⟨locked, neither⟩
    · rename_i open_
      exact Bool.eq_false_iff.mpr fun unlocks => first ⟨unlocks, Bool.eq_false_iff.mpr open_⟩
  · rw [run_require_of_not second]
    obtain ⟨locked, locks, plain⟩ := not_not.mp second
    refine .error ?_
    rw [Unlocked, if_pos (show told env.lockdown s = true from locked), locks, plain]
    decide

theorem pendingGrant_answers (params : ApproveParams) (record : ApprovalRecord)
    (s : ApprovalRuntime ω) :
    Answers (¬ (params.temporaryGrant = true ∧ record.request.isAdmin = true) ∧
        Unlocked env record.request s ∧ Grantable env params record (asked env.lockdown s))
      (fun grant t => grant.isSome = params.temporaryGrant ∧
        t = granted env params (asked env.lockdown s))
      ((pendingGrant env params record).run s) := by
  refine .bind (answers_require _ s) fun _ t here => ?_
  subst here
  refine .bind (checkPendingRequestLockdown_answers record.request t) fun _ u here => ?_
  subst here
  generalize asked env.lockdown t = u
  unfold Grantable granted
  cases wanted : params.temporaryGrant with
  | false => exact .ok (by rintro ⟨⟩) ⟨rfl, rfl⟩
  | true =>
    rw [if_pos rfl, if_pos rfl, ask, ask, run_query_bind, run_query_bind]
    cases known : record.facts with
    | none => exact .error fun may => by obtain ⟨_, _, same, -⟩ := may rfl; cases same
    | some facts =>
      refine run_require_bind_cases (fun other => .error fun may => ?_) fun alike => ?_
      · obtain ⟨_, _, same, alike, -⟩ := may rfl
        cases same
        exact other alike
      dsimp only
      split
      next made =>
        refine .error fun may => ?_
        obtain ⟨_, grant, same, -, other⟩ := may rfl
        cases same
        cases made.symm.trans other
      next grant made => exact .ok (fun _ => ⟨facts, grant, rfl, alike, made⟩) ⟨rfl, rfl⟩

theorem persistApprovals_answers (env : Environment ω) (s : ApprovalRuntime ω) :
    Answers (told env.writeApprovals s = none)
      (fun _ t => t.journal = (asked env.writeApprovals s).journal)
      ((persistApprovals env).run s) := by
  rw [persistApprovals, ask, run_query_bind]
  cases failed : told env.writeApprovals s with
  | some reason =>
    rw [show (env.writeApprovals s.journal.world).1 = some reason from failed]
    exact .error (Option.some_ne_none reason)
  | none =>
    rw [show (env.writeApprovals s.journal.world).1 = none from failed]
    exact .ok rfl rfl

theorem commitExecuting_answers (id : String) (before : Option ApprovalRecord)
    (grants : List StoredGrant) (s : ApprovalRuntime ω) :
    Answers (told env.writeApprovals (asked env.journal.now s) = none)
      (fun _ t => t.journal = (asked env.writeApprovals (asked env.journal.now s)).journal)
      ((commitExecuting env id before grants).run s) := by
  rw [commitExecuting, ask, run_query_bind, changeRecord, run_modify_bind]
  exact .congr (.attempt_bind (persistApprovals_answers env _)
    (fun _ => .bind fun _ => .bind fun _ => .fail) fun _ _ stated => .ok trivial stated)
    (and_iff_left trivial)

theorem reserveApprovedKey_answers (id : String) (key : Option String) (operationId : String)
    (before : Option ApprovalRecord) (grants : List StoredGrant) (s : ApprovalRuntime ω) :
    Answers (∀ k, key = some k → Reservable env.journal k operationId s.journal)
      (fun _ t => t.journal = ((beginIdempotent env.journal key operationId).run s.journal).2)
      ((reserveApprovedKey env id key operationId before grants).run s) := by
  have reserves : Answers (∀ k, key = some k → Reservable env.journal k operationId s.journal)
      (fun _ _ => True) ((beginIdempotent env.journal key operationId).run s.journal) := by
    cases key with
    | none => exact .ok nofun trivial
    | some k =>
      refine (beginIdempotent_answers env.journal k operationId s.journal).congr ?_
      exact ⟨fun may _ same => by cases same; exact may, fun may => may k rfl⟩
  rw [reserveApprovedKey, run_attempt_bind, onJournal, run_zoom]
  generalize (beginIdempotent env.journal key operationId).run s.journal = r at reserves ⊢
  cases reserves with
  | ok may => exact .ok may rfl
  | error refused =>
    exact (Fails.bind fun _ => .bind fun _ => .bind fun _ => .fail).answers refused

theorem storeApprovedGrant_answers (id : String) (key : Option String)
    (before : Option ApprovalRecord) (grants : List StoredGrant) (journalBefore : Option Value)
    (grant : Option TemporaryGrant) (s : ApprovalRuntime ω) :
    Answers (grant.isSome = true → (env.writeGrants s.journal.world).1 = none) (fun _ _ => True)
      ((storeApprovedGrant env id key before grants journalBefore grant).run s) := by
  cases grant with
  | none => exact .ok nofun trivial
  | some grant =>
    rw [storeApprovedGrant, setGrants, run_modify_bind, run_attempt_bind, persistGrants, ask,
      run_query_bind]
    cases failed : (env.writeGrants s.journal.world).1 with
    | some =>
      refine Fails.answers (.bind fun _ => .bind fun _ => .bind fun _ => ?_) fun may => ?_
      · cases key with
        | none | some => exact .bind fun _ => .bind fun _ => .fail
      · cases may rfl
    | none => exact .ok (fun _ => rfl) trivial

/-- An approval gets as far as its start exactly when nothing stops it. -/
theorem beginApproval_answers {params : ApproveParams} {record : ApprovalRecord} (client : String)
    (found : s.approvals.lookup params.id = some record) :
    Answers (Begins env params client record s) (fun _ _ => True)
      ((beginApproval env params client).run s) := by
  refine .congr (.bind (approvableRecord_answers found) ?_)
    (D := Begins env params client record s)
    (C := _ ∧ (_ ∧ _ ∧ _) ∧ _ ∧ _ ∧ (params.temporaryGrant = true → _))
    ⟨fun ⟨approvable, ⟨plain, unlocked, grantable⟩, written, reservable, stored⟩ =>
        ⟨approvable, plain, unlocked, grantable, written, reservable, stored⟩,
      fun may => ⟨may.approvable, ⟨may.plain, may.unlocked, may.grantable⟩, may.written,
        may.reservable, may.stored⟩⟩
  rintro _ _ ⟨rfl, rfl⟩
  refine .bind (pendingGrant_answers params _ _) ?_
  rintro grant _ ⟨wanted, rfl⟩
  rw [run_reads_bind, run_reads_bind, run_reads_bind]
  refine .bind (commitExecuting_answers _ _ _ _) fun _ t committed => ?_
  refine .bind (.congr (reserveApprovedKey_answers _ _ _ _ _ t) ?_) fun _ u reserved => ?_
  · rw [committed]
    rfl
  refine .congr (.bind (D := True) (storeApprovedGrant_answers _ _ _ _ _ grant u) fun _ _ _ =>
    .ok trivial trivial) ?_
  rw [and_true, wanted, reserved, committed]
  rfl

/-! ## Stale records -/

/-- Nothing but the expiry stops a bridge before the request of its target starts. -/
structure BridgeAdmits (env : Environment ω) (params : AdminApprovalBridgeParams)
    (approver : String) (target : ApprovalRecord) (s : ApprovalRuntime ω) : Prop where
  pending : target.state = .pending
  unbound : target.targetPayloadHash = none
  plain : target.request.isAdmin = false
  independent : ensureIndependentHumanApprover env approver target.requesterPrincipal = .ok ()
  unlocked : Unlocked env target.request (asked env.journal.now s)
  begins : Begins env
    { id := params.approvalId
      grantSeconds := params.grantSeconds
      temporaryGrant := params.temporaryGrant } approver target
    (asked env.lockdown (asked env.journal.now s))

/-- Nothing stops a decision of the control plane on the record before its request starts. -/
structure DecisionAdmits (env : Environment ω) (params : DecisionParams) (id : String)
    (record : ApprovalRecord) (s : ApprovalRuntime ω) : Prop where
  approves : asciiLower (trim params.decision) = "approve"
  intended : checkBridgeIntent "approve" record.request = .ok ()
  targeted : checkTargetOperation (present params.targetOperationId) record = .ok ()
  pending : record.state = .pending
  bound : checkDecisionBinding env id (clock env s) record (present params.targetPayloadHash)
    (present params.targetExpiresAt) = .ok ()
  begins : Begins env { id := id, grantSeconds := none, temporaryGrant := false }
    (recoveryKey (present params.approverPrincipal)) record (asked env.journal.now s)

/-- An admission spares the record exactly when something stops it. -/
def SparedUnless {α : Type} (s : ApprovalRuntime ω) (admits : Prop)
    (result : Except IpcError α × ApprovalRuntime ω) : Prop :=
  Spared s result.2 ↔ ¬ admits

/-- A check that gives nothing away, and that all that is admitted passes. -/
theorem sparedUnless_check {β : Type} {admits : Prop} {check : Except IpcError Unit}
    {next : Unit → ApprovalM ω β} (spared : Spared s t) (needed : admits → check = .ok ())
    (passed : check = .ok () → SparedUnless s admits ((next ()).run t)) :
    SparedUnless s admits ((ofExcept check >>= next).run t) := by
  refine run_ofExcept_bind_cases (fun e refused => ?_) fun _ isOk => passed isOk
  refine iff_of_true spared fun admitted => ?_
  cases refused.symm.trans (needed admitted)

/-- A stretch that gives nothing away, before a choice. -/
theorem spared_after {u : ApprovalRuntime ω} (first : Spared s t) : Spared s u ↔ Spared t u :=
  ⟨fun spared => Eq.trans spared first.symm, fun spared => Eq.trans spared first⟩

theorem admitApprovalBridge_spared_iff (params : AdminApprovalBridgeParams) (approver : String)
    {target : ApprovalRecord} (found : s.approvals.lookup params.approvalId = some target)
    (expires : target.expiresAtUnix = some expiry) (stale : expiry ≤ clock env s) :
    SparedUnless s (clock env s = expiry ∧ BridgeAdmits env params approver target s)
      ((admitApprovalBridge env params approver).run s) := by
  have look : (findRecord params.approvalId (localApprovalNotFound params.approvalId)).run s =
      (.ok target, s) := by
    rw [findRecord, run_reads_bind, found]
    rfl
  rw [admitApprovalBridge, run_bind_of_ok look, ask, run_query_bind]
  refine run_require_bind_cases (fun refused => ?_) fun eligible => ?_
  · refine iff_of_true rfl ?_
    rintro ⟨isExpiry, admits⟩
    refine refused ?_
    rintro (decided | past | bound | admin)
    · exact decided admits.pending
    · rw [expires, Option.any_some, decide_eq_true_eq] at past
      exact absurd isExpiry (Int.ne_of_gt past)
    · rw [admits.unbound] at bound
      cases bound
    · rw [admits.plain] at admin
      cases admin
  simp only [not_or, not_ne_iff, expires, Option.any_some, decide_eq_true_eq, Bool.not_eq_true,
    Option.isSome_eq_false_iff, Option.isNone_iff_eq_none] at eligible
  obtain ⟨pending, notPast, unbound, plain⟩ := eligible
  have isExpiry : clock env s = expiry := Int.le_antisymm (Int.not_lt.mp notPast) stale
  refine sparedUnless_check rfl (fun both => both.2.independent) fun independent => ?_
  have unlocks : Answers (Unlocked env target.request (asked env.journal.now s))
      (fun _ t => t = asked env.lockdown (asked env.journal.now s)) _ :=
    checkPendingRequestLockdown_answers _ _
  have quiet : Moves Spared (checkPendingRequestLockdown env target.request) :=
    checkPendingRequestLockdown_moves ask_spares _
  refine run_bind_cases (fun e t refused => ?_) fun _ t checked => ?_
  · have spared : Spared s t := quiet.of_eq (s := asked env.journal.now s) refused
    rw [show (checkPendingRequestLockdown env target.request).run (asked env.journal.now s) = _
      from refused] at unlocks
    cases unlocks with
    | error locked => exact iff_of_true spared fun both => locked both.2.unlocked
  · rw [show (checkPendingRequestLockdown env target.request).run (asked env.journal.now s) = _
      from checked] at unlocks
    cases unlocks with
    | ok unlocked here =>
      subst here
      have spared : Spared s (asked env.lockdown (asked env.journal.now s)) := rfl
      rw [SparedUnless, spared_after spared]
      refine (approveWith_spared_iff (fun _ _ => .fail) _ _ _).trans (not_congr ?_)
      refine (beginApproval_answers approver found).ok_iff.trans ⟨fun begins => ?_, fun both => ?_⟩
      · exact ⟨isExpiry, pending, unbound, plain, independent, unlocked, begins⟩
      · exact both.2.begins

theorem handleApprovalDeny_spares (id client : String) :
    Moves Spared (handleApprovalDeny env id client) :=
  .bind .require fun _ => .bind .reads fun _ =>
    .bind (findRecord_moves _ _) fun _ => .bind .require fun _ =>
      .bind .ofExcept fun _ => .bind (ask_spares _) fun _ =>
        .bind (changeRecord_spares _ _) fun _ =>
          .bind (persistOrRestoreApprovals_spares _) fun _ => .pure

theorem denyApprovalBridge_spares (bridgeId : String) (params : AdminApprovalBridgeParams)
    (approver : String) : Moves Spared (denyApprovalBridge env bridgeId params approver) :=
  .bind (findRecord_moves _ _) fun _ => .bind (findRecord_moves _ _) fun _ =>
    .bind .require fun _ => .bind .ofExcept fun _ =>
      .bind .ofExcept fun _ => .bind .reads fun _ =>
        .bind (ask_spares _) fun _ => .bind (changeRecord_spares _ _) fun _ =>
          .bind (changeRecord_spares _ _) fun _ =>
            .bind (persistOrRestoreApprovals_spares _) fun _ => .pure

variable (env) in
theorem denyByControlPlane_spares (id : String) (record : ApprovalRecord) (recovery : String) :
    Moves Spared (denyByControlPlane env id record recovery) := by
  rw [denyByControlPlane]
  split
  · exact .bind (denyApprovalBridge_spares _ _ _) fun _ => .pure
  · exact .bind (handleApprovalDeny_spares _ _) fun _ => .pure

/-- A decision of the control plane leaves what its `approve` leaves. -/
theorem approveByControlPlane_state (id : String) (targetOperationId : Option String)
    (recovery : String) (s : ApprovalRuntime ω) :
    ((approveByControlPlane env id targetOperationId recovery).run s).2 =
      ((admitApprovalApprove env { id := id, grantSeconds := none, temporaryGrant := false }
        recovery).run s).2 := by
  rw [approveByControlPlane]
  rcases ran : (admitApprovalApprove env
    { id := id, grantSeconds := none, temporaryGrant := false } recovery).run s with
    ⟨e | outcome, t⟩
  · rw [run_bind_of_error ran]
  · rw [run_bind_of_ok ran]
    cases outcome <;> rfl

theorem admitApprovalApprove_spared_iff {params : ApproveParams} (client : String)
    {record : ApprovalRecord} (found : s.approvals.lookup params.id = some record) :
    Spared s ((admitApprovalApprove env params client).run s).2 ↔
      ¬ Begins env params client record s := by
  refine Iff.trans ?_ (not_congr (beginApproval_answers client found).ok_iff)
  exact approveWith_spared_iff (admitApprovalBridge_moves (fun _ _ => Spared.grows)
    (fun params client s => grows_of_started (beginApproval_prepares env params client s).1.2)
    fun _ _ => suffix_cons _ _) params client s

theorem admitControlPlaneApprovalDecision_spared_iff (params : DecisionParams) {id : String}
    {s₁ : ApprovalRuntime ω} {record : ApprovalRecord}
    (resolved : (resolveApproval env (present params.approvalId)
      (present params.targetOperationId)).run s = (.ok id, s₁))
    (found : s₁.approvals.lookup id = some record) (expires : record.expiresAtUnix = some expiry)
    (stale : expiry ≤ clock env s₁) :
    SparedUnless s (clock env s₁ = expiry ∧ DecisionAdmits env params id record s₁)
      ((admitControlPlaneApprovalDecision env params).run s) := by
  have look : (findRecord id (approvalNotFound id)).run s₁ = (.ok record, s₁) := by
    rw [findRecord, run_reads_bind, found]
    rfl
  have spared : Spared s s₁ := (resolveApproval_moves ask_spares _ _).of_eq resolved
  rw [admitControlPlaneApprovalDecision]
  generalize isDecision : asciiLower (trim params.decision) = decision
  refine run_require_bind_cases (fun unknown => ?_) fun known => ?_
  · refine iff_of_true rfl ?_
    rintro ⟨-, admits⟩
    refine unknown fun other => ?_
    exact other.1 (isDecision.symm.trans admits.approves)
  rw [run_bind_of_ok resolved, run_bind_of_ok look]
  refine sparedUnless_check spared (fun both => ?_) fun intended => ?_
  · rw [← isDecision, both.2.approves]
    exact both.2.intended
  refine sparedUnless_check spared (fun both => both.2.targeted) fun targeted => ?_
  by_cases pending : record.state = .pending
  case neg =>
    rw [if_pos pending]
    refine iff_of_true spared ?_
    rintro ⟨-, admits⟩
    exact pending admits.pending
  rw [if_neg (not_not_intro pending), ask, run_query_bind]
  refine sparedUnless_check spared (fun both => both.2.bound) fun bound => ?_
  by_cases denies : decision = "deny"
  · rw [if_pos denies]
    have denied := denyByControlPlane_spares env id record
      (recoveryKey (present params.approverPrincipal)) (asked env.journal.now s₁)
    refine iff_of_true (trans_of Spared spared denied) ?_
    rintro ⟨-, admits⟩
    rw [← isDecision, admits.approves] at denies
    exact absurd denies (by decide)
  · obtain rfl : decision = "approve" := by
      by_contra other
      exact known ⟨other, denies⟩
    rw [SparedUnless, if_neg denies, spared_after spared, approveByControlPlane_state]
    have isExpiry : clock env s₁ = expiry := by
      refine Int.le_antisymm (Int.not_lt.mp fun past => ?_) stale
      have checked := bound
      rw [checkDecisionBinding, expires] at checked
      simp only [if_pos (show expiry < (env.journal.now s₁.journal.world).1 from past)] at checked
      cases checked
    have here : (asked env.journal.now s₁).approvals.lookup id = some record := found
    refine (admitApprovalApprove_spared_iff _ here).trans (not_congr ?_)
    exact ⟨fun begins => ⟨isExpiry, isDecision, intended, targeted, pending, bound, begins⟩,
      fun both => both.2.begins⟩

/-- **At or past its expiry** a record is spared by the local `approve` exactly when something
other than the expiry stops it, and by the bridge and the control plane exactly when the
clock does not stand at the expiry or something else stops them. -/
theorem stale_spared_iff (env : Environment ω) (s : ApprovalRuntime ω) :
    (∀ (params : ApproveParams) (client : String) (record : ApprovalRecord) (expiry : Int),
      s.approvals.lookup params.id = some record → record.expiresAtUnix = some expiry →
      expiry ≤ clock env s → (Spared s ((admitApprovalApprove env params client).run s).2 ↔
          ¬ Begins env params client record s)) ∧
    (∀ (params : AdminApprovalBridgeParams) (approver : String) (target : ApprovalRecord)
      (expiry : Int),
      s.approvals.lookup params.approvalId = some target → target.expiresAtUnix = some expiry →
      expiry ≤ clock env s → (Spared s ((admitApprovalBridge env params approver).run s).2 ↔
          ¬ (clock env s = expiry ∧ BridgeAdmits env params approver target s))) ∧
    (∀ (params : DecisionParams) (id : String) (s₁ : ApprovalRuntime ω) (record : ApprovalRecord)
      (expiry : Int),
      (resolveApproval env (present params.approvalId)
        (present params.targetOperationId)).run s = (.ok id, s₁) →
      s.approvals.lookup id = some record → record.expiresAtUnix = some expiry →
      expiry ≤ clock env s₁ → (Spared s ((admitControlPlaneApprovalDecision env params).run s).2 ↔
          ¬ (clock env s₁ = expiry ∧ DecisionAdmits env params id record s₁))) := by
  refine ⟨?_, ?_, ?_⟩
  · intro params client record expiry found _ _
    exact admitApprovalApprove_spared_iff client found
  · intro params approver target expiry found expires stale
    exact admitApprovalBridge_spared_iff params approver found expires stale
  · intro params id s₁ record expiry resolved found expires stale
    have same := (resolveApproval_moves (R := Keeps ApprovalRuntime.approvals)
      (fun _ => .query fun _ => rfl) _ _).of_eq resolved
    exact admitControlPlaneApprovalDecision_spared_iff params resolved
      ((congrArg (fun table => table.lookup id) same).trans found) expires stale

/-! ### A record that expired -/

/-- A runtime with one pending record that expires at the time, in surroundings where every
write succeeds and the clock shows 100. -/
def expiringRuntime (expiry : Int) : ApprovalRuntime Nat :=
  { stoppedRuntime with
    approvals := stoppedRuntime.approvals.insert "apr_1"
      { sampleRecord with expiresAtUnix := some expiry }
    journal := { stoppedRuntime.journal with world := 1 }
    running := true }

def grantingApproval : ApproveParams where
  id := "apr_1"
  grantSeconds := none
  temporaryGrant := true

def samplePass : AdminApprovalBridgeParams where
  approvalId := "apr_1"
  decision := "approve"
  grantSeconds := none
  temporaryGrant := true
  idempotencyKey := "bridge_1"

def sampleDecision : DecisionParams where
  approvalId := some "apr_1"
  targetOperationId := none
  decision := "approve"
  targetPayloadHash := none
  targetExpiresAt := none
  approverPrincipal := none

/-- A record that expired at 50 is started by the local `approve` at 100, and its grant is
minted; one that expires at 100 is started then by the bridge and the control plane too. -/
theorem expired_record_started : clock sampleEnvironment (expiringRuntime 50) = 100 ∧
      (let t := ((admitApprovalApprove sampleEnvironment grantingApproval "user:1000").run
        (expiringRuntime 50)).2
       t.started = ["apr_1"] ∧ t.grantsFile.length = 1) ∧
      (let t := ((admitApprovalBridge sampleEnvironment samplePass "user:1000").run
        (expiringRuntime 100)).2
       t.started = ["apr_1"] ∧ t.grantsFile.length = 1) ∧
      ((admitControlPlaneApprovalDecision sampleEnvironment sampleDecision).run
        (expiringRuntime 100)).2.started = ["apr_1"] :=
  ⟨rfl, ⟨rfl, rfl⟩, ⟨rfl, rfl⟩, rfl⟩

theorem stale_spared_iff_expiring : ¬ Spared (expiringRuntime 50)
      ((admitApprovalApprove sampleEnvironment grantingApproval "user:1000").run
        (expiringRuntime 50)).2 ∧
    ¬ Begins sampleEnvironment grantingApproval "client:1000"
      { sampleRecord with expiresAtUnix := some 50 } (expiringRuntime 50) := by
  have exact_ := fun client => (stale_spared_iff sampleEnvironment (expiringRuntime 50)).1
    grantingApproval client _ 50 rfl rfl (by decide)
  refine ⟨fun spared => (exact_ "user:1000").mp spared ?_, (exact_ "client:1000").mp rfl⟩
  exact (beginApproval_answers "user:1000" rfl).ok_iff.mp ⟨_, _, rfl⟩

end OwnMesh.Approvals
