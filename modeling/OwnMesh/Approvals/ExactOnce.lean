import OwnMesh.Approvals.Effects
import OwnMesh.Foundations.Run

/-!
# An approved request starts at most once

Over every run of approvals, bridges, decisions of the control plane, denials, enqueued
records, finalizations, anything else that happens to the journal and the grants, failing
writes and reloads (`approval_exactOnce`): no record is started twice, none after it was
denied on file, and a started record is never pending again, in memory or on file.
-/

namespace OwnMesh.Approvals

open Foundations Ipc OpJournal Program List Table ApprovalRuntime

variable {ω : Type} {env : Environment ω}

/-! ## Denials -/

variable {s t : ApprovalRuntime ω}

/-- A write of changed records that puts the old ones back when it fails. -/
theorem persistOrRestore_reaches (sound : Sound s) (changed : Reaches s t)
    (same : { t with approvals := s.approvals }.records = s.records) :
    Reaches s ((persistOrRestoreApprovals env s.approvals).run t).2 := by
  rw [persistOrRestoreApprovals, run_attempt_bind]
  have written := changed.proceeds (persistApprovals_proceeds env t)
  rcases ran : (persistApprovals env).run t with ⟨e | u, t'⟩
  · have kept : { t' with approvals := s.approvals }.records = s.records := by
      have unchanged := persistApprovals_error ran
      simp only [records, Prod.mk.injEq] at unchanged same ⊢
      exact ⟨trivial, unchanged.2.1.trans same.2.1, unchanged.2.2.1.trans same.2.2.1,
        unchanged.2.2.2.1.trans same.2.2.2.1, unchanged.2.2.2.2.trans same.2.2.2.2⟩
    exact proceeds_of_records kept sound
  · rw [ran] at written
    exact written

/-- An answer put together at the end leaves the state alone. -/
theorem state_bind_pure {α β : Type} (m : ApprovalM ω α) (answer : α → β) (s : ApprovalRuntime ω) :
    ((m >>= fun a => (pure (answer a) : ApprovalM ω β)).run s).2 = (m.run s).2 := by
  rcases ran : m.run s with ⟨e | a, t⟩
  · rw [run_bind_of_error ran]
  · rw [run_bind_of_ok ran]
    rfl

/-- A checked stretch before a change. -/
theorem reaches_bind_quiet {α β : Type} {m : ApprovalM ω α} {next : α → ApprovalM ω β}
    (sound : Sound s) (quiet : Moves (Keeps records) m)
    (follows : ∀ a t, m.run s = (.ok a, t) → t.records = s.records → Sound t →
      Reaches t ((next a).run t).2) : Reaches s ((m >>= next).run s).2 := by
  have first : Reaches s (m.run s).2 := proceeds_of_records (quiet s) sound
  rcases ran : m.run s with ⟨e | a, t⟩
  · rw [run_bind_of_error ran]
    rw [ran] at first
    exact first
  · rw [run_bind_of_ok ran]
    rw [ran] at first
    exact first.trans (follows a t ran (quiet.of_eq ran) first.1)

theorem handleApprovalDeny_reaches (id client : String)
    (sound : Sound s) : Reaches s ((handleApprovalDeny env id client).run s).2 := by
  refine reaches_bind_quiet sound .require fun _ s₁ _ _ sound₁ => ?_
  rw [run_reads_bind]
  refine reaches_bind_quiet sound₁ (findRecord_moves _ _) fun record s₂ look _ sound₂ => ?_
  obtain ⟨rfl, found⟩ := findRecord_ok look
  refine reaches_bind_quiet sound₂ .require fun _ s₃ checked _ sound₃ => ?_
  obtain ⟨pending, rfl⟩ := require_ok_iff.mp checked
  refine reaches_bind_quiet sound₃ .ofExcept fun _ s₄ passed kept₄ sound₄ => ?_
  obtain rfl : s₂ = s₄ := congrArg Prod.snd passed
  rw [ask, run_query_bind, changeRecord, run_modify_bind]
  rw [state_bind_pure]
  have undecided : ∀ other ∈ [id], Undecided other s₂ :=
    forall_mem_singleton.mpr (undecided_of_pending sound₄ found pending)
  refine persistOrRestore_reaches sound₄ (reaches_of_undecided sound₄ undecided rfl ?_) rfl
  exact fun other different => lookup_adjust_ne (ne_of_not_mem_cons different) _ _

theorem denyApprovalBridge_reaches (bridgeId : String) (params : AdminApprovalBridgeParams)
    (approver : String) (sound : Sound s) :
    Reaches s ((denyApprovalBridge env bridgeId params approver).run s).2 := by
  refine reaches_bind_quiet sound (findRecord_moves _ _) fun bridge s₁ look _ sound₁ => ?_
  obtain ⟨rfl, foundBridge⟩ := findRecord_ok look
  refine reaches_bind_quiet sound₁ (findRecord_moves _ _) fun target s₂ look₂ _ sound₂ => ?_
  obtain ⟨rfl, foundTarget⟩ := findRecord_ok look₂
  refine reaches_bind_quiet sound₂ .require fun _ s₃ checked _ sound₃ => ?_
  obtain ⟨pending, rfl⟩ := require_ok_iff.mp checked
  rw [not_or, not_ne_iff, not_ne_iff] at pending
  refine reaches_bind_quiet sound₃ .ofExcept fun _ s₄ passed _ sound₄ => ?_
  obtain rfl := congrArg Prod.snd passed
  refine reaches_bind_quiet sound₄ .ofExcept fun _ s₅ passed₅ _ sound₅ => ?_
  obtain rfl := congrArg Prod.snd passed₅
  rw [run_reads_bind, ask, run_query_bind, changeRecord, run_modify_bind,
    changeRecord, run_modify_bind, state_bind_pure]
  have undecided : ∀ id ∈ [bridgeId, params.approvalId], Undecided id s₂ :=
    forall_mem_cons.mpr ⟨undecided_of_pending sound₅ foundBridge pending.1,
      forall_mem_singleton.mpr (undecided_of_pending sound₅ foundTarget pending.2)⟩
  refine persistOrRestore_reaches sound₅ (reaches_of_undecided sound₅ undecided rfl ?_) rfl
  intro other different
  have others := ne_and_not_mem_of_not_mem_cons different
  rw [lookup_adjust_ne (ne_of_not_mem_cons others.2), lookup_adjust_ne others.1]

/-! ## Decisions of the control plane -/

theorem approveByControlPlane_admitted (id : String) (targetOperationId : Option String)
    (recovery : String) (sound : Sound s) :
    Admitted s ((approveByControlPlane env id targetOperationId recovery).run s) := by
  have admitted := admitApprovalApprove_admitted env
    { id := id, grantSeconds := none, temporaryGrant := false } recovery sound
  rw [approveByControlPlane]
  rcases ran : (admitApprovalApprove env
    { id := id, grantSeconds := none, temporaryGrant := false } recovery).run s with
    ⟨e | outcome, t⟩
  · rw [ran] at admitted
    rw [run_bind_of_error ran]
    exact admitted_of_error admitted.1
  · rw [ran] at admitted
    rw [run_bind_of_ok ran]
    cases outcome with
    | reply => exact admitted_of_reply admitted.1
    | run work =>
      refine ⟨admitted.1, fun later same => ?_⟩
      cases same
      intro completion member
      rcases mem_append.mp member with inner | outer
      · exact admitted.2 work rfl completion inner
      · rw [mem_singleton] at outer
        subst outer
        trivial

theorem admitControlPlaneApprovalDecision_admitted (params : DecisionParams) (sound : Sound s) :
    Admitted s ((admitControlPlaneApprovalDecision env params).run s) := by
  rw [admitControlPlaneApprovalDecision]
  refine admitted_bind_quiet sound .require fun _ s₁ _ sound₁ => ?_
  refine admitted_bind_quiet sound₁ (resolveApproval_moves ask_records _ _) fun id s₂ _ sound₂ => ?_
  refine admitted_bind_quiet sound₂ (findRecord_moves _ _) fun record s₃ _ sound₃ => ?_
  refine admitted_bind_quiet sound₃ .ofExcept fun _ s₄ _ sound₄ => ?_
  refine admitted_bind_quiet sound₄ .ofExcept fun _ s₅ _ sound₅ => ?_
  split
  · exact admitted_of_reply (proceeds_of_records rfl sound₅)
  refine admitted_bind_quiet sound₅ (ask_records _) fun now s₆ _ sound₆ => ?_
  refine admitted_bind_quiet sound₆ .ofExcept fun _ s₇ _ sound₇ => ?_
  split
  · rw [denyByControlPlane]
    split
    · exact admitted_bind_reply _ sound₇ fun _ => denyApprovalBridge_reaches _ _ _ sound₇
    · exact admitted_bind_reply _ sound₇ fun _ => handleApprovalDeny_reaches _ _ sound₇
  · exact approveByControlPlane_admitted _ _ _ sound₇

/-! ## Steps -/

/-- Work handed out is in flight. -/
theorem launch_reaches {m : ApprovalM ω GateOutcome}
    (admitted : Admitted s (m.run s)) : Reaches s ((m >>= launch).run s).2 := by
  rcases ran : m.run s with ⟨e | outcome, t⟩ <;> rw [ran] at admitted
  · rw [run_bind_of_error ran]
    exact admitted.1
  · rw [run_bind_of_ok ran]
    cases outcome with
    | reply => exact admitted.1
    | run =>
      obtain ⟨⟨sound, grows, denied, running⟩, held⟩ := admitted
      refine ⟨⟨⟨sound.once, sound.begunOnFile, sound.denied⟩, sound.begun,
        sound.deniedInMemory, ?_⟩, grows, denied, running⟩
      intro other flying
      rcases mem_cons.mp flying with rfl | older
      · exact held other rfl
      · exact sound.held other older

theorem perform_reaches (request : ApprovalRequest) (sound : Sound s) :
    Reaches s ((request.perform env).run s).2 := by
  cases request with
  | approve params client =>
    exact launch_reaches (admitApprovalApprove_admitted env params client sound)
  | bridge params approver =>
    exact launch_reaches (admitApprovalBridge_admitted params approver sound)
  | decide params =>
    rw [ApprovalRequest.perform]
    exact launch_reaches (admitControlPlaneApprovalDecision_admitted params sound)
  | deny =>
    rw [ApprovalRequest.perform, state_bind_pure]
    exact handleApprovalDeny_reaches _ _ sound
  | denyBridge =>
    rw [ApprovalRequest.perform, state_bind_pure]
    exact denyApprovalBridge_reaches _ _ _ sound

theorem enqueueApproval_reaches {id : String} (record : ApprovalRecord) (sound : Sound s)
    (fresh : s.approvals.lookup id = none) :
    Reaches s ((enqueueApproval env id record).run s).2 := by
  have absent : ∀ {P : ApprovalState → Prop}, ¬ StateIn P id s.approvals := by
    rintro P ⟨found, present, -⟩
    rw [fresh] at present
    cases present
  have undecided : Undecided id s :=
    ⟨sound, fun started => absent (sound.begun id started),
      fun denied => absent (sound.deniedInMemory id denied)⟩
  exact persistOrRestore_reaches sound
    (undecided.reaches fun _ other => AList.lookup_insert_ne other) rfl

/-- What is true of the daemon, running or not. -/
structure Consistent (s : ApprovalRuntime ω) : Prop where
  file : SoundFile s
  memory : s.running = true → Sound s
  stopped : s.running = false → s.approvals = ∅

/-- What a step never takes back. -/
def Continues (s t : ApprovalRuntime ω) : Prop :=
  s.started ⊆ t.started ∧ ∀ id, s.DeniedOnFile id → t.DeniedOnFile id

theorem consistent_of_reaches (running : s.running = true)
    (reaches : Reaches s t) : Consistent t ∧ Continues s t := by
  obtain ⟨sound, grows, denied, same⟩ := reaches
  refine ⟨⟨sound.toSoundFile, fun _ => sound, fun stopped => ?_⟩, grows, denied⟩
  rw [same, running] at stopped
  cases stopped

/-- A start moves the state along any relation that asking the surroundings does. -/
theorem startDaemon_moves {R : ApprovalRuntime ω → ApprovalRuntime ω → Prop} [Std.Refl R]
    [IsTrans (ApprovalRuntime ω) R]
    (asks : ∀ {α : Type} (question : ω → α × ω), Moves R (ask (ε := String) question)) :
    Moves R (startDaemon env) := by
  have loads : Moves R (loadApprovals env) := by
    refine .bind .reads fun file => ?_
    cases file with
    | none => exact .pure
    | some =>
      refine .bind (asks _) fun answer => ?_
      cases answer with
      | some => exact .fail
      | none =>
        exact .bind .require fun _ => .bind .require fun _ =>
          .bind (.forEach (fun _ => .require) _) fun _ => .pure
  refine .bind loads fun approvals => .bind (asks _) fun answer => ?_
  cases answer with
  | none => exact .pure
  | some => exact .fail

theorem startDaemon_records : Moves (Keeps records) (startDaemon env) :=
  startDaemon_moves ask_records

/-- The records that are loaded are those of the file. -/
theorem loadApprovals_ok {approvals : ApprovalTable}
    (ran : (loadApprovals env).run s = (.ok approvals, t)) :
    s.approvalsFile.getD ∅ = approvals := by
  rw [loadApprovals, run_reads_bind] at ran
  split at ran
  next absent =>
    cases ran
    rw [absent]
    rfl
  next file present =>
    obtain ⟨answer, s₁, -, ran₁⟩ := bind_ok_iff.mp ran
    cases answer with
    | some => cases ran₁
    | none =>
      obtain ⟨_, s₂, -, ran₂⟩ := bind_ok_iff.mp ran₁
      obtain ⟨_, s₃, -, ran₃⟩ := bind_ok_iff.mp ran₂
      obtain ⟨_, s₄, -, ran₄⟩ := bind_ok_iff.mp ran₃
      cases ran₄
      rw [present]
      rfl

theorem startDaemon_ok {approvals : ApprovalTable}
    (ran : (startDaemon env).run s = (.ok approvals, t)) : s.approvalsFile.getD ∅ = approvals := by
  obtain ⟨loaded, s₁, first, ran₁⟩ := bind_ok_iff.mp ran
  obtain ⟨answer, s₂, -, ran₂⟩ := bind_ok_iff.mp ran₁
  cases answer with
  | some => cases ran₂
  | none =>
    cases ran₂
    exact loadApprovals_ok first

theorem stateIn_of_onFile {P : ApprovalState → Prop} {id : String}
    (onFile : s.OnFile P id) : StateIn P id (s.approvalsFile.getD ∅) := by
  obtain ⟨file, isFile, holds⟩ := onFile
  rw [isFile]
  exact holds

/-- What is on file and what was started decide the soundness of the file. -/
theorem soundFile_congr (sameFile : t.approvalsFile = s.approvalsFile)
    (sameStarted : t.started = s.started) (file : SoundFile s) : SoundFile t ∧ Continues s t := by
  have onFile : ∀ P id, t.OnFile P id ↔ s.OnFile P id := by
    intro P id
    rw [OnFile, OnFile, sameFile]
  refine ⟨⟨?_, ?_, ?_⟩, ?_, fun id => (onFile _ id).mpr⟩
  · rw [sameStarted]
    exact file.once
  · intro id member
    rw [sameStarted] at member
    exact (onFile _ id).mpr (file.begunOnFile id member)
  · intro id denied
    rw [sameStarted]
    exact file.denied id ((onFile _ id).mp denied)
  · rw [sameStarted]
    exact fun _ member => member

variable (env) in
theorem reload_consistent (file : SoundFile s) :
    Consistent (reload env s) ∧ Continues s (reload env s) := by
  rw [reload]
  rcases ran : (startDaemon env).run s with ⟨answer, t⟩
  have kept := startDaemon_records.of_eq ran
  have sameFile : t.approvalsFile = s.approvalsFile := congrArg (fun r => r.2.1) kept
  have sameStarted : t.started = s.started := started_of_records kept
  rcases answer with e | approvals
  · obtain ⟨sound, continues⟩ := soundFile_congr
      (t := { t with approvals := ∅, running := false, inFlight := [] }) sameFile sameStarted file
    exact ⟨⟨sound, nofun, fun _ => rfl⟩, continues⟩
  · obtain rfl := startDaemon_ok ran
    obtain ⟨sound, continues⟩ := soundFile_congr (t := { t with
        approvals := s.approvalsFile.getD ∅
        grants := t.grantsFile
        journal := restart env.journal t.journal
        running := true
        inFlight := [] }) sameFile sameStarted file
    rw [← sameFile] at sound continues ⊢
    refine ⟨⟨sound, fun _ => ⟨sound, ?_, ?_, nofun⟩, nofun⟩, continues⟩
    · exact fun id member => stateIn_of_onFile (sound.begunOnFile id member)
    · exact fun id denied => stateIn_of_onFile denied

/-- Every step keeps the daemon consistent and takes nothing back. -/
theorem consistent_step {event : ApprovalEvent} (consistent : Consistent s)
    (step : ApprovalStep env s event t) : Consistent t ∧ Continues s t := by
  cases step with
  | request running request =>
    exact consistent_of_reaches running (perform_reaches request (consistent.memory running))
  | enqueue running id record pending fresh =>
    exact consistent_of_reaches running
      (enqueueApproval_reaches record (consistent.memory running) fresh)
  | @finalize running before after work inFlight executed =>
    have sound := consistent.memory running
    -- the work leaves the list, what is left was in flight before
    have landed : Reaches s { s with inFlight := before ++ after } := by
      refine ⟨⟨⟨sound.once, sound.begunOnFile, sound.denied⟩, sound.begun,
        sound.deniedInMemory, ?_⟩, fun _ member => member, fun _ denied => denied, rfl⟩
      intro other flying
      refine sound.held other ?_
      rw [inFlight, mem_append, mem_cons]
      rcases mem_append.mp flying with left | right
      · exact .inl left
      · exact .inr (.inr right)
    have held : ∀ completion ∈ work.completions, Held s.started completion :=
      sound.held work (by rw [inFlight]; simp)
    exact consistent_of_reaches running (landed.proceeds (finalizeAllowed_proceeds executed held))
  | background running =>
    exact consistent_of_reaches running (proceeds_of_records rfl (consistent.memory running))
  | reload => exact reload_consistent env consistent.file

/-! ## Runs -/

instance : Std.Refl (Continues (ω := ω)) :=
  ⟨fun _ => ⟨fun _ member => member, fun _ denied => denied⟩⟩

instance : IsTrans (ApprovalRuntime ω) Continues :=
  ⟨fun _ _ _ first second => ⟨fun _ member => second.1 (first.1 member),
    fun id denied => second.2 id (first.2 id denied)⟩⟩

variable {events : List ApprovalEvent}

theorem continues_run (consistent : Consistent s)
    (run : Run (ApprovalStep env) s events t) : Consistent t ∧ Continues s t := by
  induction run with
  | done => exact ⟨consistent, refl_of Continues _⟩
  | next first _ ih =>
    obtain ⟨soundThen, moved⟩ := consistent_step consistent first
    obtain ⟨soundLast, rest⟩ := ih soundThen
    exact ⟨soundLast, trans_of Continues moved rest⟩

/-- A record that was started is not pending, in memory or on file. -/
theorem not_pending_of_started (consistent : Consistent s) {id : String} (member : id ∈ s.started) :
    ¬ StateIn (· = .pending) id s.approvals ∧ ¬ s.OnFile (· = .pending) id := by
  constructor
  · cases running : s.running with
    | true => exact ((consistent.memory running).begun id member).not_begun.1
    | false =>
      rw [consistent.stopped running]
      rintro ⟨record, found, -⟩
      cases found
  · rintro ⟨file, isFile, pending⟩
    obtain ⟨other, sameFile, begun⟩ := consistent.file.begunOnFile id member
    obtain rfl := Option.some.inj (isFile.symm.trans sameFile)
    exact begun.not_begun.1 pending

/-- **Approval is exact-once.**  In every run from a daemon that is not running yet, with any
files: no record is started twice; a record that is denied on file at some point is not
started by the end; and a record that was started at some point is not pending at the end. -/
theorem approval_exactOnce {s t : ApprovalRuntime ω}
    (stopped : s.running = false) (empty : s.approvals = ∅) (unstarted : s.started = [])
    (run : Run (ApprovalStep env) s events t) :
    t.started.Nodup ∧
      ∀ before after mid, events = before ++ after → Run (ApprovalStep env) s before mid →
        Run (ApprovalStep env) mid after t →
        (∀ id, mid.DeniedOnFile id → id ∉ t.started) ∧
        ∀ id ∈ mid.started,
          ¬ StateIn (· = .pending) id t.approvals ∧ ¬ t.OnFile (· = .pending) id := by
  have initial : Consistent s := by
    refine ⟨⟨?_, ?_, ?_⟩, fun running => ?_, fun _ => empty⟩
    · rw [unstarted]
      exact nodup_nil
    · rw [unstarted]
      exact nofun
    · rw [unstarted]
      exact fun _ _ => not_mem_nil
    · rw [stopped] at running
      cases running
  refine ⟨(continues_run initial run).1.file.once, ?_⟩
  rintro before after mid rfl reached rest
  obtain ⟨consistent, grows, denials⟩ := continues_run (continues_run initial reached).1 rest
  exact ⟨fun id denied => consistent.file.denied id (denials id denied),
    fun id member => not_pending_of_started consistent (grows member)⟩

/-! ### A run with a failed grant and a crash -/

/-- Surroundings in which the first write of grants fails and every other write succeeds. -/
def sampleEnvironment : Environment Nat where
  journal :=
    { now := fun n => (100, n)
      encode := fun _ => .ok 0
      primaryPath := "op-journal.json"
      backupPath := "op-journal.json.bak"
      removeBackup := fun n => (none, n)
      writePrimary := fun n => (none, n)
      readFile := fun n => (none, n)
      persistApprovals := fun n => (none, n)
      persistGrants := fun n => (none, n)
      consumeGrantUse := fun n => (none, n) }
  canonicalizePrincipalKey := id
  newId n := ("grant_1", n)
  writeApprovals n := (none, n)
  writeGrants n := (if n = 0 then some "disk full" else none, n + 1)
  lockdown n := (false, n)
  temporaryGrantFromFacts id principal expires facts :=
    .ok
      { id := id
        capability := facts.capability
        principalId := principal
        expiresUnix := expires
        pathPrefix := facts.path
        workspaceId := facts.workspaceId }
  executeRequest _ n := (.ok .null, n)
  parseTimestamp _ := none
  iterationStart n := (0, n)
  readApprovals n := (none, n)
  approvalsBytes _ := 0
  recordBytes _ := 0
  startup n := (none, n)

def sampleRecord : ApprovalRecord where
  id := "apr_1"
  operationId := "op_1"
  capability := "exec"
  state := .pending
  reason := "policy asks"
  createdAtUnix := 90
  decidedAtUnix := none
  expiresAtUnix := none
  targetPayloadHash := none
  matchedRuleId := none
  requesterPrincipal := "client:agent"
  facts := some
    { capability := "exec"
      kind := "exec"
      path := none
      program := none
      elevated := false
      tags := []
      workspaceId := none
      tool := none }
  request := .exec (some "key_1") .null
  result := none
  decidedByPrincipal := none

def stoppedRuntime : ApprovalRuntime Nat where
  approvals := ∅
  approvalsFile := none
  grants := []
  grantsFile := []
  journal := { entries := ∅, degraded := none, primary := none, backup := none, world := 0 }
  running := false
  inFlight := []
  started := []

def sampleApproval (temporaryGrant : Bool) : ApprovalEvent :=
  .request (.approve { id := "apr_1", grantSeconds := none, temporaryGrant := temporaryGrant }
    "user:1000")

/-- The grant of the first approval cannot be stored, so the record is pending again and the
second approval starts it; after a crash neither approving nor denying it does anything. -/
theorem approval_exactOnce_sample : ∃ t, Run (ApprovalStep sampleEnvironment) stoppedRuntime
        [.reloaded, .enqueued "apr_1" sampleRecord, sampleApproval true, sampleApproval false,
          .reloaded, sampleApproval false, .request (.deny "apr_1" "user:1000")] t ∧
      t.started = ["apr_1"] ∧ t.started.Nodup := by
  have run : Run (ApprovalStep sampleEnvironment) stoppedRuntime
      [.reloaded, .enqueued "apr_1" sampleRecord, sampleApproval true, sampleApproval false,
        .reloaded, sampleApproval false, .request (.deny "apr_1" "user:1000")] _ :=
    .next (.reload _) (.next (.enqueue rfl _ _ rfl rfl) (.next (.request rfl _)
      (.next (.request rfl _) (.next (.reload _) (.next (.request rfl _)
        (.next (.request rfl _) (.done _)))))))
  exact ⟨_, run, rfl, (approval_exactOnce rfl rfl rfl run).1⟩

end OwnMesh.Approvals
