import OwnMesh.Approvals.Decisions

/-!
# What the handlers do to the records

`Sound` says how the records in memory and on file fit the requests that were started: a
started record is executing or approved in both places, and a record denied on file is
denied in memory and was never started.  Every handler keeps it, whatever fails
(`Proceeds`).

The one delicate stretch is the approval itself.  Until its request starts the record is
`Undecided`, neither started nor denied on file, and may be set and put back freely; the
start comes when it is executing in memory and on file.
-/

namespace OwnMesh.Approvals

open Foundations Ipc OpJournal List AList Table ApprovalRuntime ApprovalRecord
open Policy (StoredGrant TemporaryGrant)
open Program

variable {ω : Type} {env : Environment ω}

/-! ## Soundness -/

/-- The states of a record whose request was started. -/
def ApprovalState.Begun (state : ApprovalState) : Prop := state = .executing ∨ state = .approved

/-- The table has the record in a state with the property. -/
def StateIn (P : ApprovalState → Prop) (id : String) (table : ApprovalTable) : Prop :=
  ∃ record, table.lookup id = some record ∧ P record.state

/-- The file has the record in a state with the property. -/
def ApprovalRuntime.OnFile (P : ApprovalState → Prop) (id : String) (s : ApprovalRuntime ω) :
    Prop :=
  ∃ file, s.approvalsFile = some file ∧ StateIn P id file

/-- The record is denied on file. -/
def ApprovalRuntime.DeniedOnFile (s : ApprovalRuntime ω) (id : String) : Prop :=
  s.OnFile (· = .denied) id

/-- The completion puts back a record that was started, and as it was then. -/
def Held (started : List String) : AllowedCompletion → Prop
  | .approval completion =>
    completion.approvalId ∈ started ∧
      ∃ record, completion.executingApproval = some record ∧ record.state.Begun
  | .operation _ _ _ | .controlPlaneApproval _ => True

/-- The file fits the requests that were started. -/
structure SoundFile (s : ApprovalRuntime ω) : Prop where
  once : s.started.Nodup
  begunOnFile : ∀ id ∈ s.started, s.OnFile ApprovalState.Begun id
  denied : ∀ id, s.DeniedOnFile id → id ∉ s.started

/-- Memory and file fit the requests that were started. -/
structure Sound (s : ApprovalRuntime ω) : Prop extends SoundFile s where
  begun : ∀ id ∈ s.started, StateIn ApprovalState.Begun id s.approvals
  deniedInMemory : ∀ id, s.DeniedOnFile id → StateIn (· = .denied) id s.approvals
  held : ∀ work ∈ s.inFlight, ∀ completion ∈ work.completions, Held s.started completion

/-- The part of the runtime that soundness is about. -/
def ApprovalRuntime.records (s : ApprovalRuntime ω) :
    ApprovalTable × Option ApprovalTable × List AllowedWork × List String × Bool :=
  (s.approvals, s.approvalsFile, s.inFlight, s.started, s.running)

variable {s t : ApprovalRuntime ω}

section

variable (same : t.records = s.records)
include same

theorem sound_of_records (sound : Sound s) : Sound t := by
  obtain ⟨approvals, approvalsFile, grants, grantsFile, journal, running, inFlight, started⟩ := t
  obtain ⟨rfl, rfl, rfl, rfl, rfl⟩ := same
  exact ⟨⟨sound.once, sound.begunOnFile, sound.denied⟩, sound.begun, sound.deniedInMemory,
    sound.held⟩

theorem onFile_of_records {P : ApprovalState → Prop} {id : String} :
    t.OnFile P id ↔ s.OnFile P id := by
  have file : t.approvalsFile = s.approvalsFile := congrArg (fun r => r.2.1) same
  rw [OnFile, OnFile, file]

theorem started_of_records : t.started = s.started :=
  congrArg (fun r => r.2.2.2.1) same

theorem approvals_of_records : t.approvals = s.approvals :=
  congrArg (fun r => r.1) same

end

/-! ## Sound moves -/

/-- What a run from a sound state leaves. -/
def Reaches (s t : ApprovalRuntime ω) : Prop :=
  Sound t ∧ s.started ⊆ t.started ∧ (∀ id, s.DeniedOnFile id → t.DeniedOnFile id) ∧
    t.running = s.running

theorem Reaches.trans {a b c : ApprovalRuntime ω} (first : Reaches a b) (second : Reaches b c) :
    Reaches a c :=
  ⟨second.1, fun _ member => second.2.1 (first.2.1 member),
    fun id denied => second.2.2.1 id (first.2.2.1 id denied), second.2.2.2.trans first.2.2.2⟩

/-- A sound state leads to a sound one; what was started stays started, what is denied on
file stays denied there, and the daemon goes on running. -/
def Proceeds (s t : ApprovalRuntime ω) : Prop :=
  Sound s → Sound t ∧ s.started ⊆ t.started ∧ (∀ id, s.DeniedOnFile id → t.DeniedOnFile id) ∧
    t.running = s.running

instance : Std.Refl (Proceeds (ω := ω)) := ⟨fun _ sound => ⟨sound, fun _ => id, fun _ => id, rfl⟩⟩

instance : IsTrans (ApprovalRuntime ω) Proceeds :=
  ⟨fun _ _ _ first second sound => Reaches.trans (first sound) (second (first sound).1)⟩

theorem proceeds_of_records (same : t.records = s.records) : Proceeds s t := by
  intro sound
  refine ⟨sound_of_records same sound, ?_, fun id => (onFile_of_records same).mpr,
    congrArg (fun r => r.2.2.2.2) same⟩
  rw [started_of_records same]
  exact fun _ => id

variable {approvals : ApprovalTable} {α : Type}

/-- A change of memory only. -/
theorem proceeds_memory
    (begun : Sound s → ∀ id ∈ s.started, StateIn ApprovalState.Begun id approvals)
    (denied : Sound s → ∀ id, s.DeniedOnFile id → StateIn (· = .denied) id approvals) :
    Proceeds s { s with approvals := approvals } := fun sound =>
  ⟨⟨⟨sound.once, sound.begunOnFile, sound.denied⟩, begun sound, denied sound, sound.held⟩,
    fun _ => id, fun _ => id, rfl⟩

variable {id : String}

theorem StateIn.congr {P : ApprovalState → Prop} {table other : ApprovalTable}
    (same : other.lookup id = table.lookup id) (holds : StateIn P id table) :
    StateIn P id other := by
  rw [StateIn, same]
  exact holds

theorem ask_records {ε : Type} (question : ω → α × ω) :
    Moves (Keeps records) (ask question : Program (ApprovalRuntime ω) ε α) :=
  .query fun _ => rfl

theorem onJournal_records {ε : Type} (m : Program (Journal ω) ε α) :
    Moves (Keeps records) (onJournal m) :=
  fun _ => rfl

theorem setGrants_records (grants : List StoredGrant) :
    Moves (Keeps records) (setGrants (ω := ω) grants) :=
  .modify fun _ => rfl

/-- Two properties of the state of one record are those of one state. -/
theorem StateIn.meets {P Q : ApprovalState → Prop} {table : ApprovalTable}
    (first : StateIn P id table) (second : StateIn Q id table) : ∃ state, P state ∧ Q state := by
  obtain ⟨record, found, holds⟩ := first
  obtain ⟨other, same, also_⟩ := second
  obtain rfl := Option.some.inj (found.symm.trans same)
  exact ⟨record.state, holds, also_⟩

/-- A record that has begun is neither pending nor denied. -/
theorem StateIn.not_begun {table : ApprovalTable} (begun : StateIn ApprovalState.Begun id table) :
    ¬ StateIn (· = .pending) id table ∧ ¬ StateIn (· = .denied) id table := by
  constructor
  all_goals
    intro other
    obtain ⟨state, began | began, rfl⟩ := begun.meets other <;> cases began

variable (env) in
theorem persistGrants_records : Moves (Keeps records) (persistGrants env) := by
  refine .bind (ask_records _) fun answer => ?_
  cases answer with
  | none => exact .modify fun _ => rfl
  | some => exact .fail

/-- Writing the records keeps the soundness: memory has all that must be on file. -/
theorem proceeds_persist (s : ApprovalRuntime ω) :
    Proceeds s { s with approvalsFile := some s.approvals } := by
  intro sound
  have notStarted : ∀ id, StateIn (· = .denied) id s.approvals → id ∉ s.started :=
    fun id denied member => (sound.begun id member).not_begun.2 denied
  have onFile : ∀ {P : ApprovalState → Prop} {id : String}, StateIn P id s.approvals →
      OnFile P id { s with approvalsFile := some s.approvals } :=
    fun holds => ⟨s.approvals, rfl, holds⟩
  refine ⟨⟨⟨sound.once, fun id member => onFile (sound.begun id member), ?_⟩, sound.begun, ?_,
    sound.held⟩, fun _ => id, fun id denied => onFile (sound.deniedInMemory id denied), rfl⟩
  · rintro id ⟨file, same, denied⟩
    cases same
    exact notStarted id denied
  · rintro id ⟨file, same, denied⟩
    cases same
    exact denied

variable (env) in
theorem persistApprovals_proceeds : Moves Proceeds (persistApprovals env) := by
  refine .bind ((ask_records _).mono fun _ _ => proceeds_of_records) fun answer => ?_
  cases answer with
  | none => exact .modify proceeds_persist
  | some => exact .fail

theorem persistApprovals_error {e : IpcError}
    (ran : (persistApprovals env).run s = (.error e, t)) : t.records = s.records := by
  rw [persistApprovals, ask, run_query_bind] at ran
  split at ran
  · cases ran
    rfl
  · cases ran

/-! ## Finalization -/

variable {completion : AllowedCompletion}

theorem held_mono {started more : List String} (grows : started ⊆ more)
    (held : Held started completion) : Held more completion := by
  cases completion with
  | approval => exact ⟨grows held.1, held.2⟩
  | operation | controlPlaneApproval => trivial

variable {record : ApprovalRecord}

/-- A started record may be set to any state of a started one. -/
theorem proceeds_begun (member : id ∈ s.started)
    (here : approvals.lookup id = some record) (begun : record.state.Begun)
    (others : ∀ other, other ≠ id → approvals.lookup other = s.approvals.lookup other) :
    Proceeds s { s with approvals := approvals } := by
  refine proceeds_memory (fun sound other started => ?_) (fun sound other denied => ?_)
  · by_cases same : other = id
    · exact ⟨record, same ▸ here, begun⟩
    · exact (sound.begun other started).congr (others other same)
  · have different : other ≠ id := by
      rintro rfl
      exact sound.denied other denied member
    exact (sound.deniedInMemory other denied).congr (others other different)

/-- A move from a sound state in which the request was started. -/
def Follows (id : String) (s t : ApprovalRuntime ω) : Prop :=
  Sound s → id ∈ s.started → Reaches s t

instance : Std.Refl (Follows (ω := ω) id) := ⟨fun s sound _ => refl_of Proceeds s sound⟩

instance : IsTrans (ApprovalRuntime ω) (Follows id) :=
  ⟨fun _ _ _ first second sound member => (first sound member).trans
    (second (first sound member).1 ((first sound member).2.1 member))⟩

theorem restore_begun (begun : record.state.Begun) (member : id ∈ s.started) :
    Proceeds s ((restoreApprovalRecord id (some record)).run s).2 :=
  proceeds_begun member (lookup_insert _) begun fun _ other => lookup_insert_ne other

theorem finishApproval_follows (completion : ApprovedCompletion) (body : Value) :
    Moves (Follows completion.approvalId) (do
      let preTerminal ← reads fun s : ApprovalRuntime ω =>
        s.approvals.lookup completion.approvalId
      changeRecord completion.approvalId (finished body completion.approver)
      match ← attempt (persistApprovals env) with
      | .error e => do
        restoreApprovalRecord completion.approvalId preTerminal
        fail e
      | .ok _ => pure body : ApprovalM ω Value) := by
  intro s sound member
  obtain ⟨record, found, begun⟩ := sound.begun _ member
  rw [run_reads_bind, changeRecord, run_modify_bind, run_attempt_bind, found]
  generalize isTable : s.approvals.adjust completion.approvalId
    (finished body completion.approver) = table
  have changed : Proceeds s { s with approvals := table } := by
    subst isTable
    have here : (s.approvals.adjust completion.approvalId (finished body
        completion.approver)).lookup completion.approvalId =
          some (record.finished body completion.approver) := by
      rw [lookup_adjust_self, found]
      rfl
    exact proceeds_begun member here (.inr rfl) fun _ other => lookup_adjust_ne other _ _
  have written := trans_of Proceeds changed (persistApprovals_proceeds env _)
  rcases ran : (persistApprovals env).run { s with approvals := table } with ⟨e | u, t⟩
  · rw [ran] at written
    have stays : completion.approvalId ∈ t.started := (written sound).2.1 member
    exact trans_of Proceeds written (restore_begun begun stays) sound
  · rw [ran] at written
    exact written sound

theorem finalizeApprovedCompletion_proceeds {completion : ApprovedCompletion}
    (executed : Except IpcError Value) (held : Held s.started (.approval completion)) :
    Proceeds s ((finalizeApprovedCompletion env completion executed).run s).2 := by
  obtain ⟨member, record, same, begun⟩ := held
  have quiet : ∀ {ε α : Type} (m : Program (Journal ω) ε α),
      Moves (Follows completion.approvalId) (onJournal m) :=
    fun m s sound _ => proceeds_of_records (onJournal_records m s) sound
  have follows : Moves (Follows completion.approvalId)
      (finalizeApprovedCompletion env completion executed) := by
    refine .bind (quiet _) fun _ => .bind .ofExcept fun result =>
      .bind (.attempt (quiet _)) fun stored => ?_
    cases stored with
    | error =>
      rw [same]
      exact .bind (quiet _) fun _ =>
        .bind (fun _ sound member => restore_begun begun member sound) fun _ => .fail
    | ok => exact finishApproval_follows completion _
  exact fun sound => follows s sound member

variable (env) in
theorem finalizeCompletion_proceeds
    (outcome : Except IpcError Value) (held : Held s.started completion) :
    Proceeds s ((finalizeCompletion env completion outcome).run s).2 := by
  cases completion with
  | operation => exact proceeds_of_records rfl
  | approval => exact finalizeApprovedCompletion_proceeds outcome held
  | controlPlaneApproval => exact refl_of Proceeds s

theorem finalizeCompletions_proceeds (completions : List AllowedCompletion)
    (outcome : Except IpcError Value)
    (held : ∀ completion ∈ completions, Held s.started completion) :
    Proceeds s ((finalizeCompletions env completions outcome).run s).2 := by
  -- by induction on the chain; what is held stays held as more is started
  induction completions generalizing outcome s with
  | nil => exact refl_of Proceeds s
  | cons completion rest ih =>
    intro sound
    have first := finalizeCompletion_proceeds env outcome (held completion mem_cons_self)
    have grows := (first sound).2.1
    exact trans_of Proceeds first (ih _ fun later member =>
      held_mono grows (held later (mem_cons_of_mem completion member))) sound

theorem finalizeAllowed_proceeds {work : AllowedWork} (executed : Except IpcError Value)
    (held : ∀ completion ∈ work.completions, Held s.started completion) :
    Proceeds s ((finalizeAllowed env work executed).run s).2 :=
  Moves.bind_at (finalizeCompletions_proceeds _ executed held) fun _ _ _ => refl_of Proceeds _

/-! ## The approval of a record -/

theorem Reaches.proceeds {a b c : ApprovalRuntime ω} (first : Reaches a b)
    (second : Proceeds b c) : Reaches a c :=
  first.trans (second first.1)

/-- The record is neither started nor denied on file. -/
structure Undecided (id : String) (s : ApprovalRuntime ω) : Prop where
  sound : Sound s
  notStarted : id ∉ s.started
  notDenied : ¬ s.DeniedOnFile id

theorem undecided_of_pending (sound : Sound s) (found : s.approvals.lookup id = some record)
    (pending : record.state = .pending) : Undecided id s := by
  have waits : StateIn (· = .pending) id s.approvals := ⟨record, found, pending⟩
  refine ⟨sound, fun member => (sound.begun id member).not_begun.1 waits, fun denied => ?_⟩
  obtain ⟨state, ⟨⟩, ⟨⟩⟩ := waits.meets (sound.deniedInMemory id denied)

theorem undecided_of_records (same : t.records = s.records)
    (undecided : Undecided id s) : Undecided id t := by
  refine ⟨sound_of_records same undecided.sound, ?_, ?_⟩
  · rw [started_of_records same]
    exact undecided.notStarted
  · exact fun denied => undecided.notDenied ((onFile_of_records same).mp denied)

/-- Undecided records may be set to anything in memory. -/
theorem reaches_of_undecided {ids : List String} (sound : Sound s)
    (undecided : ∀ id ∈ ids, Undecided id s)
    (same : { t with approvals := s.approvals }.records = s.records)
    (others : ∀ other, other ∉ ids → t.approvals.lookup other = s.approvals.lookup other) :
    Reaches s t := by
  have base : Reaches s { t with approvals := s.approvals } := proceeds_of_records same sound
  refine base.proceeds (proceeds_memory (fun _ other started => ?_) fun _ other denied => ?_)
  · have different : other ∉ ids := by
      intro member
      refine (undecided other member).notStarted ?_
      rw [← started_of_records same]
      exact started
    exact (base.1.begun other started).congr (others other different)
  · have different : other ∉ ids := fun member =>
      (undecided other member).notDenied ((onFile_of_records same).mp denied)
    exact (base.1.deniedInMemory other denied).congr (others other different)

section

variable {id : String} (undecided : Undecided id s)
  (others : ∀ other, other ≠ id → approvals.lookup other = s.approvals.lookup other)
include undecided others

theorem Undecided.reaches : Reaches s { s with approvals := approvals } :=
  reaches_of_undecided undecided.sound (forall_mem_singleton.mpr undecided) rfl
    fun other different => others other (ne_of_not_mem_cons different)

theorem Undecided.set : Undecided id { s with approvals := approvals } :=
  ⟨(undecided.reaches others).1, undecided.notStarted, undecided.notDenied⟩

end

/-- The record is executing in memory and on file, and its request is not started yet. -/
structure Committed (id : String) (s : ApprovalRuntime ω) : Prop extends Undecided id s where
  executing : StateIn (· = .executing) id s.approvals
  executingOnFile : s.OnFile (· = .executing) id

theorem committed_of_records (same : t.records = s.records)
    (committed : Committed id s) : Committed id t := by
  refine ⟨undecided_of_records same committed.toUndecided, ?_,
    (onFile_of_records same).mpr committed.executingOnFile⟩
  rw [approvals_of_records same]
  exact committed.executing

/-- The end of a stretch that leads to a commitment, or gives up. -/
def Commits {α : Type} (id : String) (s : ApprovalRuntime ω)
    (result : Except IpcError α × ApprovalRuntime ω) : Prop :=
  Reaches s result.2 ∧ ∀ a, result.1 = .ok a → Committed id result.2

/-- Giving up: the record is put back as it was, and what follows changes no record but
may write them. -/
theorem Undecided.givesUp (undecided : Undecided id s)
    (previous : Option ApprovalRecord) {rest : Unit → ApprovalM ω α}
    (quiet : Moves Proceeds (rest ())) (fails : ∀ t a, ((rest ()).run t).1 ≠ .ok a) :
    Commits id s ((restoreApprovalRecord id previous >>= rest).run s) := by
  cases previous with
  | none =>
    exact ⟨(undecided.reaches fun _ other => lookup_erase_ne other).proceeds (quiet _),
      fun a answered => absurd answered (fails _ a)⟩
  | some =>
    exact ⟨(undecided.reaches fun _ other => lookup_insert_ne other).proceeds (quiet _),
      fun a answered => absurd answered (fails _ a)⟩

theorem Commits.after {result : Except IpcError α × ApprovalRuntime ω}
    (first : Reaches s t) (second : Commits id t result) : Commits id s result :=
  ⟨first.trans second.1, second.2⟩

variable (env) in
theorem commitExecuting_commits (undecided : Undecided id s)
    (found : s.approvals.lookup id = some record) (before : Option ApprovalRecord)
    (grantsBefore : List StoredGrant) :
    Commits id s ((commitExecuting env id before grantsBefore).run s) := by
  rw [commitExecuting, ask, run_query_bind, changeRecord, run_modify_bind, run_attempt_bind]
  generalize (env.journal.now s.journal.world).1 = now
  generalize isAsked : ({ s with journal := { s.journal with
    world := (env.journal.now s.journal.world).2 } } : ApprovalRuntime ω) = asked
  have same : asked.records = s.records := by rw [← isAsked]; rfl
  have undecidedNow := undecided_of_records same undecided
  rw [← approvals_of_records same] at found
  have others : ∀ other, other ≠ id → (asked.approvals.adjust id (begun now)).lookup other =
        asked.approvals.lookup other := fun _ other => lookup_adjust_ne other _ _
  have here : (asked.approvals.adjust id (begun now)).lookup id = some (record.begun now) := by
    rw [lookup_adjust_self, found]
    rfl
  have changed : Reaches s
      { asked with approvals := asked.approvals.adjust id (begun now) } :=
    Reaches.trans (proceeds_of_records same undecided.sound) (undecidedNow.reaches others)
  have undecidedThen := undecidedNow.set others
  generalize asked.approvals.adjust id (begun now) = table at *
  have written := changed.proceeds (persistApprovals_proceeds env _)
  rcases ran : (persistApprovals env).run { asked with approvals := table } with ⟨e | u, t⟩
  · have kept : t.records = _ := persistApprovals_error ran
    rw [ran] at written
    refine Commits.after written ((undecided_of_records kept undecidedThen).givesUp before ?_ nofun)
    exact (Moves.bind (setGrants_records _) fun _ => .fail).mono fun _ _ => proceeds_of_records
  · -- a successful write puts the records on file and changes nothing else of them
    have kept : t.records =
        { asked with approvals := table, approvalsFile := some table }.records := by
      rw [persistApprovals, ask, run_query_bind] at ran
      split at ran <;> cases ran
      rfl
    rw [ran] at written
    refine ⟨written, fun _ _ => ⟨⟨written.1, ?_, ?_⟩, ?_, ?_⟩⟩
    · show id ∉ t.started
      rw [started_of_records kept]
      exact undecidedThen.notStarted
    · rintro denied
      obtain ⟨file, isFile, other, sameRecord, refused⟩ := (onFile_of_records kept).mp denied
      cases isFile
      obtain rfl := Option.some.inj (here.symm.trans sameRecord)
      cases refused
    · show StateIn _ id t.approvals
      rw [approvals_of_records kept]
      exact ⟨_, here, rfl⟩
    · exact (onFile_of_records kept).mpr ⟨table, rfl, _, here, rfl⟩

variable (env) in
theorem reserveApprovedKey_commits (committed : Committed id s) (key : Option String)
    (operationId : String) (before : Option ApprovalRecord) (grantsBefore : List StoredGrant) :
    Commits id s ((reserveApprovedKey env id key operationId before grantsBefore).run s) := by
  rw [reserveApprovedKey, run_attempt_bind]
  have kept := onJournal_records (beginIdempotent env.journal key operationId) s
  generalize (onJournal (beginIdempotent env.journal key operationId)).run s = outcome at kept
  obtain ⟨e | u, t⟩ := outcome
  · refine Commits.after (proceeds_of_records kept committed.sound) ?_
    exact (undecided_of_records kept committed.toUndecided).givesUp before
      (Moves.bind ((setGrants_records _).mono fun _ _ => proceeds_of_records) fun _ =>
        .bind (.attempt (persistApprovals_proceeds env)) fun _ => .fail) nofun
  · exact ⟨proceeds_of_records kept committed.sound, fun _ _ => committed_of_records kept committed⟩

variable (env) in
theorem storeApprovedGrant_commits (committed : Committed id s) (key : Option String)
    (before : Option ApprovalRecord) (grantsBefore : List StoredGrant)
    (journalBefore : Option Value) (grant : Option TemporaryGrant) : Commits id s
      ((storeApprovedGrant env id key before grantsBefore journalBefore grant).run s) := by
  have quiet : ∀ {ε α : Type} (m : Program (Journal ω) ε α), Moves Proceeds (onJournal m) :=
    fun m => (onJournal_records m).mono fun _ _ => proceeds_of_records
  cases grant with
  | none => exact ⟨proceeds_of_records rfl committed.sound, fun _ _ => committed⟩
  | some grant =>
    rw [storeApprovedGrant, setGrants, run_modify_bind, run_attempt_bind]
    have kept := persistGrants_records env { s with grants := grantsBefore ++ [.temporary grant] }
    generalize (persistGrants env).run { s with grants := grantsBefore ++ [.temporary grant] } =
      outcome at kept
    obtain ⟨e | u, t⟩ := outcome
    all_goals have same : t.records = s.records := kept
    · refine Commits.after (proceeds_of_records same committed.sound) ?_
      refine (undecided_of_records same committed.toUndecided).givesUp before ?_ ?_
      · refine .bind ((setGrants_records _).mono fun _ _ => proceeds_of_records) fun _ =>
          .bind (quiet _) fun _ => ?_
        cases key with
        | none =>
          exact .bind .pure fun _ =>
            .bind (.attempt (persistApprovals_proceeds env)) fun _ => .fail
        | some =>
          exact .bind (.attempt (quiet _)) fun _ =>
            .bind (.attempt (persistApprovals_proceeds env)) fun _ => .fail
      · intro t' a
        cases key <;> cases journalBefore <;> nofun
    · exact ⟨proceeds_of_records same committed.sound,
        fun _ _ => committed_of_records same committed⟩

/-- The start of a committed record. -/
theorem Committed.start (committed : Committed id s) :
    Reaches s { s with started := id :: s.started } := by
  have sound := committed.sound
  refine ⟨⟨⟨nodup_cons.mpr ⟨committed.notStarted, sound.once⟩, ?_, ?_⟩, ?_,
    sound.deniedInMemory, ?_⟩, fun _ => mem_cons_of_mem id, fun _ denied => denied, rfl⟩
  · intro other member
    rcases mem_cons.mp member with rfl | older
    · obtain ⟨file, isFile, record, found, executing⟩ := committed.executingOnFile
      exact ⟨file, isFile, record, found, .inl executing⟩
    · exact sound.begunOnFile other older
  · intro other denied member
    rcases mem_cons.mp member with rfl | older
    · exact committed.notDenied denied
    · exact sound.denied other denied older
  · intro other member
    rcases mem_cons.mp member with rfl | older
    · obtain ⟨record, found, executing⟩ := committed.executing
      exact ⟨record, found, .inl executing⟩
    · exact sound.begun other older
  · exact fun work flying completion member =>
      held_mono (fun _ => mem_cons_of_mem id) (sound.held work flying completion member)

/-! ## Admissions -/

/-- The end of an admission: the work it hands out holds the records it started. -/
def Admitted (s : ApprovalRuntime ω) (result : Except IpcError GateOutcome × ApprovalRuntime ω) :
    Prop :=
  Reaches s result.2 ∧ ∀ work, result.1 = .ok (.run work) →
    ∀ completion ∈ work.completions, Held result.2.started completion

theorem admitted_of_error {e : IpcError} (reaches : Reaches s t) : Admitted s (.error e, t) :=
  ⟨reaches, nofun⟩

theorem admitted_of_reply {body : Value} (reaches : Reaches s t) :
    Admitted s (.ok (.reply body), t) :=
  ⟨reaches, nofun⟩

theorem Admitted.after {result : Except IpcError GateOutcome × ApprovalRuntime ω}
    (first : Reaches s t) (second : Admitted t result) : Admitted s result :=
  ⟨first.trans second.1, second.2⟩

/-- A stretch of an admission: giving up ends it, and what follows starts from what it
leaves. -/
theorem admitted_bind {m : ApprovalM ω α} {next : α → ApprovalM ω GateOutcome}
    (reaches : Reaches s (m.run s).2)
    (follows : ∀ a t, m.run s = (.ok a, t) → Sound t → Admitted t ((next a).run t)) :
    Admitted s ((m >>= next).run s) := by
  rcases ran : m.run s with ⟨e | a, t⟩
  · rw [run_bind_of_error ran]
    rw [ran] at reaches
    exact admitted_of_error reaches
  · rw [run_bind_of_ok ran]
    rw [ran] at reaches
    exact Admitted.after reaches (follows a t ran reaches.1)

/-- What leaves the records alone, before the rest of an admission. -/
theorem admitted_bind_quiet {m : ApprovalM ω α} {next : α → ApprovalM ω GateOutcome}
    (sound : Sound s) (quiet : Moves (Keeps records) m)
    (follows : ∀ a t, m.run s = (.ok a, t) → Sound t → Admitted t ((next a).run t)) :
    Admitted s ((m >>= next).run s) :=
  admitted_bind (proceeds_of_records (quiet s) sound) follows

/-- A reply after a program that proceeds. -/
theorem admitted_bind_reply {m : ApprovalM ω Value} (body : Value → Value) (sound : Sound s)
    (proceeds : Proceeds s (m.run s).2) :
    Admitted s ((m >>= fun value => pure (.reply (body value))).run s) :=
  admitted_bind (proceeds sound) fun _ _ _ soundThen =>
    admitted_of_reply (proceeds_of_records rfl soundThen)

variable {onBridge : AdminApprovalBridgeParams → String → ApprovalM ω GateOutcome}

theorem runApproved_admitted
    (bridges : ∀ params approver s, Sound s → Admitted s ((onBridge params approver).run s))
    (request : PendingRequest) (approver : String)
    (sound : Sound s) (held : Held s.started completion) :
    Admitted s ((runApproved env onBridge request approver completion).run s) := by
  have holds : ∀ {t : ApprovalRuntime ω}, Reaches s t → ∀ later ∈ [completion],
      Held t.started later := by
    exact fun reaches => forall_mem_singleton.mpr (held_mono reaches.2.1 held)
  have plain : Admitted s ((ask (env.executeRequest request) >>= fun executed =>
      finalizeAllowed env { request := request, completions := [completion] } executed >>=
        fun body => pure (GateOutcome.reply body) : ApprovalM ω GateOutcome).run s) := by
    have kept := ask_records (ε := IpcError) (env.executeRequest request) s
    have asked := proceeds_of_records kept sound
    exact Admitted.after asked (admitted_bind_reply id asked.1
      (finalizeAllowed_proceeds _ (holds asked)))
  cases request with
  | exec =>
    refine ⟨proceeds_of_records rfl sound, fun work same => ?_⟩
    cases same
    exact holds (proceeds_of_records rfl sound)
  | adminApprovalBridge params =>
    have bridged := bridges params approver s sound
    rw [runApproved]
    rcases ran : (onBridge params approver).run s with ⟨e | outcome, t⟩ <;> rw [ran] at bridged
    · rw [run_bind_of_error ran]
      exact admitted_of_error bridged.1
    · rw [run_bind_of_ok ran]
      cases outcome with
      | reply =>
        exact Admitted.after bridged.1 (admitted_bind_reply id bridged.1.1
          (finalizeAllowed_proceeds _ (holds bridged.1)))
      | run work =>
        refine ⟨bridged.1, fun later same => ?_⟩
        cases same
        intro other member
        rcases mem_append.mp member with inner | outer
        · exact bridged.2 work rfl other inner
        · exact holds bridged.1 other outer
  | _ => exact plain

/-! ### Checks -/

theorem findRecord_ok {missing : IpcError} (ran : (findRecord id missing).run s = (.ok record, t)) :
    t = s ∧ s.approvals.lookup id = some record := by
  rw [findRecord, run_reads_bind] at ran
  split at ran
  next found =>
    cases ran
    exact ⟨rfl, found⟩
  · cases ran

section Checks

/-! Checks move the state along any relation that asking the surroundings does. -/

variable {R : ApprovalRuntime ω → ApprovalRuntime ω → Prop} [Std.Refl R]
  [IsTrans (ApprovalRuntime ω) R]

theorem findRecord_moves (id : String) (missing : IpcError) : Moves R (findRecord id missing) := by
  refine .bind .reads fun found => ?_
  cases found with
  | none => exact .fail
  | some => exact .pure

theorem approvableRecord_moves (id approver : String) :
    Moves R (approvableRecord env id approver) := by
  refine .bind (findRecord_moves _ _) fun record => .bind .require
    fun _ => .bind .ofExcept fun _ => ?_
  cases record.request <;> first
    | exact .bind .require fun _ => .pure
    | exact .pure

section

variable (asks : ∀ {α : Type} (question : ω → α × ω), Moves R (ask (ε := IpcError) question))
include asks

theorem checkPendingRequestLockdown_moves
    (request : PendingRequest) : Moves R (checkPendingRequestLockdown env request) :=
  .bind (asks _) fun _ => .bind .require fun _ => .require

theorem pendingGrant_moves (params : ApproveParams) (record : ApprovalRecord) :
    Moves R (pendingGrant env params record) := by
  refine .bind .require fun _ =>
    .bind (checkPendingRequestLockdown_moves asks _) fun _ => .ite (fun _ => ?_) fun _ => .pure
  refine .bind (asks _) fun now => .bind (asks _) fun grantId => ?_
  cases record.facts with
  | none => exact .fail
  | some =>
    refine .bind .require fun _ => ?_
    dsimp only
    split
    · exact .fail
    · exact .pure

theorem pendingOf_moves (operationId : String) : Moves R (pendingOf env operationId) :=
  .bind (asks _) fun _ => .reads

theorem resolveApproval_moves (approvalId targetOperationId : Option String) :
    Moves R (resolveApproval env approvalId targetOperationId) := by
  cases approvalId with
  | some =>
    refine .bind .reads fun known => .ite (fun _ => .pure) fun _ => ?_
    cases targetOperationId with
    | none => exact .fail
    | some =>
      refine .bind (pendingOf_moves asks _) fun found => ?_
      cases found with
      | nil => exact .fail
      | cons => exact .pure
  | none =>
    cases targetOperationId with
    | none => exact .fail
    | some =>
      refine .bind (pendingOf_moves asks _) fun found => ?_
      match found with
      | [] => exact .fail
      | [only] => exact .pure
      | _ :: _ :: _ => exact .fail

end

end Checks

theorem approvableRecord_ok {id approver : String}
    (ran : (approvableRecord env id approver).run s = (.ok record, t)) :
    s.approvals.lookup id = some record ∧ record.state = .pending := by
  obtain ⟨found, s₁, look, checked⟩ := bind_ok_iff.mp ran
  obtain ⟨rfl, present⟩ := findRecord_ok look
  obtain ⟨_, s₂, first, authorized⟩ := bind_ok_iff.mp checked
  obtain ⟨pending, -⟩ := require_ok_iff.mp first
  obtain ⟨_, s₃, -, last⟩ := bind_ok_iff.mp authorized
  have same : found = record := by
    split at last
    · obtain ⟨_, _, -, done⟩ := bind_ok_iff.mp last
      cases done
      rfl
    · cases last
      rfl
  exact same ▸ ⟨present, pending⟩

/-- The records are not touched before the approval is committed. -/
theorem approvableRecord_records (id approver : String) :
    Moves (Keeps records) (approvableRecord env id approver) :=
  approvableRecord_moves id approver

theorem pendingGrant_records (params : ApproveParams) (record : ApprovalRecord) :
    Moves (Keeps records) (pendingGrant env params record) :=
  pendingGrant_moves ask_records params record

/-! ### Approvals -/

theorem approveWith_admitted
    (bridges : ∀ params approver s, Sound s → Admitted s ((onBridge params approver).run s))
    (params : ApproveParams) (client : String) (sound : Sound s) :
    Admitted s ((approveWith env onBridge params client).run s) := by
  refine admitted_bind_quiet sound (approvableRecord_records _ _) fun record s₁ look sound₁ => ?_
  obtain ⟨found, pending⟩ := approvableRecord_ok look
  rw [← approvals_of_records ((approvableRecord_records _ _).of_eq look)] at found
  refine admitted_bind_quiet sound₁ (pendingGrant_records _ _) fun grant s₂ granted sound₂ => ?_
  rw [← approvals_of_records ((pendingGrant_records _ _).of_eq granted)] at found
  rw [run_reads_bind, run_reads_bind, run_reads_bind]
  have commits := commitExecuting_commits env (undecided_of_pending sound₂ found pending) found
    (s₂.approvals.lookup params.id) s₂.grants
  refine admitted_bind commits.1 fun _ s₃ ran₃ _ => ?_
  rw [ran₃] at commits
  have reserved := reserveApprovedKey_commits env (commits.2 _ rfl) (journalKeyOf env record)
    record.operationId (s₂.approvals.lookup params.id) s₂.grants
  refine admitted_bind reserved.1 fun _ s₄ ran₄ _ => ?_
  rw [ran₄] at reserved
  have stored := storeApprovedGrant_commits env (reserved.2 _ rfl) (journalKeyOf env record)
    (s₂.approvals.lookup params.id) s₂.grants
    ((journalKeyOf env record).bind fun k => s₂.journal.entries.lookup k) grant
  refine admitted_bind stored.1 fun _ s₅ ran₅ _ => ?_
  rw [ran₅] at stored
  have committed := stored.2 _ rfl
  refine Admitted.after committed.start
    (runApproved_admitted bridges _ _ committed.start.1 ⟨mem_cons_self, ?_⟩)
  obtain ⟨executingRecord, present, executing⟩ := committed.executing
  exact ⟨executingRecord, present, .inl executing⟩

theorem admitApprovalBridge_admitted (params : AdminApprovalBridgeParams) (approver : String)
    (sound : Sound s) : Admitted s ((admitApprovalBridge env params approver).run s) := by
  refine admitted_bind_quiet sound (findRecord_moves _ _) fun target s₁ _ sound₁ => ?_
  refine admitted_bind_quiet sound₁ (ask_records _) fun now s₂ _ sound₂ => ?_
  refine admitted_bind_quiet sound₂ .require fun _ s₃ _ sound₃ => ?_
  refine admitted_bind_quiet sound₃ .ofExcept fun _ s₄ _ sound₄ => ?_
  refine admitted_bind_quiet sound₄ (checkPendingRequestLockdown_moves ask_records _)
    fun _ s₅ _ sound₅ => ?_
  refine approveWith_admitted (fun _ _ t soundThen => ?_) _ _ sound₅
  exact admitted_of_error (proceeds_of_records rfl soundThen)

variable (env) in
theorem admitApprovalApprove_admitted (params : ApproveParams) (client : String) (sound : Sound s) :
    Admitted s ((admitApprovalApprove env params client).run s) :=
  approveWith_admitted (fun _ _ _ soundThen => admitApprovalBridge_admitted _ _ soundThen) _ _
    sound

end OwnMesh.Approvals
