import OwnMesh.DeviceRoom.CancelFence

/-!
# Rejected results

A device is told that its result was rejected when the result does not fit the operation, and
when the operation's status has changed under it.  The second is found out last, by the guarded
write of the row; what the result says about workspaces and about the device has been stored by
then, and stays stored.

`WorkspaceNote` lists what a result notes, by the tool and the status of its operation and by
the ids, generations and enforcement it reports, and `Changes` says when a note changes a stored
row.  `rejected_unchanged_iff` says that this is the only way: in every run in which a result is
rejected, its calls change no table, unless a note that it makes changes one and the row of the
operation has left the statuses a result may be written from when it is written.
`removal_survives_rejection` is such a run.
-/

namespace OwnMesh.DeviceRoom

open ControlPlane Foundations Routine List Routines

/-! ## Calls that change nothing -/

/-- The rows are the same. -/
structure SameTables (s t : Stores) : Prop where
  operations : t.operations = s.operations
  workspaces : t.workspaces = s.workspaces
  devices : t.devices = s.devices

theorem SameTables.refl (s : Stores) : SameTables s s := ⟨rfl, rfl, rfl⟩

/-- A call that only read, or whose change was refused. -/
def Harmless : (Σ c, StoreCall.Answer c) → Prop
  | ⟨.updateOperation _ _ _, answer⟩ =>
    (answer : Except OperationError (Option Operation)) = .ok none
  | ⟨c, _⟩ => isRead c

theorem Harmless.of_read {entry : Σ c, StoreCall.Answer c} (reads : isRead entry.1) :
    Harmless entry := by
  obtain ⟨c, answer⟩ := entry
  cases c
  case updateOperation => exact absurd reads id
  all_goals exact reads

variable {enc : Encoding} {s : Stores}

theorem serve_harmless {c : StoreCall} (harmless : Harmless ⟨c, (Stores.serve enc c s).1⟩) :
    SameTables s (Stores.serve enc c s).2 := by
  cases c
  case updateOperation operationId patch fromStatuses =>
    rcases s.changeOperation_cases enc operationId (patch.apply s.now) fromStatuses with
      ⟨-, kept⟩ | ⟨_, _, -, -, -, answered, -⟩
    · rw [Stores.serve, kept]
      exact SameTables.refl s
    · cases answered.symm.trans harmless
  case transitionOperation | observeWorkspaceGeneration | deactivateWorkspace |
    recordObservedWorkspaceEnforcement => exact absurd harmless id
  all_goals exact SameTables.refl s

/-! ## Notes that change a row -/

/-- The rows have distinct keys. -/
structure KeyedTables (s : Stores) : Prop where
  workspaces : Keyed (fun row : Workspace => (row.deviceId, row.workspaceId)) s.workspaces
  devices : Keyed Device.id s.devices

/-- The note changes a row: the generation of a workspace that the store does not know as such,
of an active device; a workspace that is active, or was last changed at another time; an
enforcement other than the known one, of an active device. -/
def Changes (s : Stores) : StoreCall → Prop
  | .observeWorkspaceGeneration deviceId id generation =>
    (parseWorkspaceId (some (.text id))).isSome = true ∧
      (parseWorkspaceGeneration (some (.text generation))).isSome = true ∧
      (∃ device, s.getDevice deviceId = some device ∧ Stores.isActive device = true) ∧
      ∀ row, s.getWorkspace deviceId id = some row → row.localGeneration ≠ some generation
  | .deactivateWorkspace deviceId id =>
    ∃ row, s.getWorkspace deviceId id = some row ∧ (row.active = true ∨ row.updatedAt ≠ s.now)
  | .recordObservedWorkspaceEnforcement deviceId enforce =>
    ∃ device, s.getDevice deviceId = some device ∧ Stores.isActive device = true ∧
      device.enforceWorkspace ≠ some enforce
  | _ => False

/-- An update of the rows with a property changes nothing if it changes none of them. -/
theorem map_ite_eq_self_iff {ρ : Type} {p : ρ → Bool} {edit : ρ → ρ} {rows : List ρ} :
    (rows.map fun row => if p row then edit row else row) = rows ↔
      ∀ row ∈ rows, p row = true → edit row = row := by
  conv_lhs => rhs; rw [← map_id rows]
  rw [map_inj_left]
  refine forall₂_congr fun row _ => ?_
  cases p row <;> simp

section Changes

variable (keyed : KeyedTables s) {deviceId id : String}
include keyed

/-- Writing over a stored workspace changes nothing if it is what is stored. -/
theorem putWorkspace_same_iff {row : Workspace} (written : Workspace)
    (stored : row ∈ s.workspaces)
    (same : (row.deviceId, row.workspaceId) = (written.deviceId, written.workspaceId)) :
    SameTables s (s.putWorkspace written) ↔ { written with
      createdAt := row.createdAt
      localGeneration := written.localGeneration <|> row.localGeneration } = row := by
  have present : (s.workspaces.any fun other =>
      (other.deviceId, other.workspaceId) = (written.deviceId, written.workspaceId)) = true :=
    any_eq_true.mpr ⟨row, stored, decide_eq_true same⟩
  rw [Stores.putWorkspace, if_pos present]
  constructor
  · intro tables
    exact map_ite_eq_self_iff.mp tables.workspaces row stored (decide_eq_true same)
  · intro kept
    refine ⟨rfl, map_ite_eq_self_iff.mpr fun other there isSame => ?_, rfl⟩
    obtain rfl := keyed.workspaces.eq_of_key_eq there stored
      ((of_decide_eq_true isSame).trans same.symm)
    exact kept

/-- Inserting a workspace that is not stored changes the table. -/
theorem putWorkspace_new {written : Workspace}
    (looked : s.getWorkspace written.deviceId written.workspaceId = none) :
    ¬ SameTables s (s.putWorkspace written) := by
  have absent : ¬ (s.workspaces.any fun row =>
      (row.deviceId, row.workspaceId) = (written.deviceId, written.workspaceId)) = true := by
    rw [any_eq_true]
    rintro ⟨row, stored, here⟩
    have found := keyed.workspaces.find?_key stored
    rw [of_decide_eq_true here] at found
    rw [Stores.getWorkspace, found] at looked
    cases looked
  intro same
  have longer := congrArg length same.workspaces
  rw [Stores.putWorkspace, if_neg absent, length_append] at longer
  exact absurd longer (Nat.succ_ne_self _)

omit keyed in
/-- A workspace that is found is stored, up to an empty generation. -/
theorem getWorkspace_stored {found : Workspace} (looked : s.getWorkspace deviceId id = some found) :
    ∃ row ∈ s.workspaces, (row.deviceId, row.workspaceId) = (deviceId, id) ∧
      found = { row with localGeneration := row.localGeneration.filter (· ≠ "") } := by
  obtain ⟨row, isRow, rfl⟩ := Option.map_eq_some_iff.mp looked
  obtain ⟨stored, here⟩ := mem_of_find?_key isRow
  exact ⟨row, stored, here, rfl⟩

theorem deactivate_changes_iff : ¬ SameTables s (s.deactivateWorkspace deviceId id).2 ↔
    Changes s (.deactivateWorkspace deviceId id) := by
  rw [Stores.deactivateWorkspace, Changes]
  cases looked : s.getWorkspace deviceId id with
  | none => simp [SameTables.refl]
  | some found =>
    obtain ⟨row, stored, here, rfl⟩ := getWorkspace_stored looked
    refine (not_congr (putWorkspace_same_iff keyed { row with
      localGeneration := row.localGeneration.filter (· ≠ "")
      active := false
      updatedAt := s.now } stored rfl)).trans ?_
    have generation : (row.localGeneration.filter (· ≠ "") <|> row.localGeneration) =
        row.localGeneration := by
      cases row.localGeneration with
      | none => rfl
      | some text =>
        rw [Option.filter_some]
        split <;> rfl
    simp only [generation, Option.some.injEq, exists_eq_left']
    obtain ⟨_, _, _, _, _, _, active, _, changed⟩ := row
    simp only [Workspace.mk.injEq, true_and]
    cases active <;> simp [eq_comm]

/-- A stored workspace is written as it is if it has the generation that is observed. -/
theorem observed_same_iff {row : Workspace} (stored : row ∈ s.workspaces)
    (tenant owner generation : String) : SameTables s (s.putWorkspace (applyObservedGeneration
      (some { row with localGeneration := row.localGeneration.filter (· ≠ "") }) id deviceId
      tenant owner generation s.now)) ↔
        row.localGeneration.filter (· ≠ "") = some generation := by
  by_cases same : row.localGeneration.filter (· ≠ "") = some generation
  · refine iff_of_true ?_ same
    have kept : row.localGeneration = some generation := (Option.filter_eq_some_iff.mp same).1
    have unmoved : applyObservedGeneration
        (some { row with localGeneration := row.localGeneration.filter (· ≠ "") }) id deviceId
        tenant owner generation s.now = row := by
      obtain ⟨_, _, _, _, _, _, active, _, _⟩ := row
      cases active <;> simp_all [applyObservedGeneration]
    rw [unmoved, putWorkspace_same_iff keyed row stored rfl, kept]
    exact congrArg (fun generation => { row with localGeneration := generation }) kept.symm
  · refine iff_of_false (fun tables => ?_) same
    simp only [applyObservedGeneration, same, decide_false, Bool.and_false, Bool.false_eq_true,
      if_false] at tables
    have written := (putWorkspace_same_iff keyed _ stored (by rfl)).mp tables
    have version : row.version + 1 = row.version := congrArg Workspace.version written
    omega

theorem observe_changes_iff {generation : String} :
    ¬ SameTables s (s.observeWorkspaceGeneration deviceId id generation).2 ↔
      Changes s (.observeWorkspaceGeneration deviceId id generation) := by
  rw [Stores.observeWorkspaceGeneration, Changes]
  by_cases invalid : ((parseWorkspaceId (some (.text id))).isNone ||
      (parseWorkspaceGeneration (some (.text generation))).isNone) = true
  · rw [if_pos invalid]
    refine iff_of_false (not_not_intro (SameTables.refl s)) ?_
    rintro ⟨isId, isGeneration, -⟩
    rw [← Option.not_isSome, ← Option.not_isSome, isId, isGeneration] at invalid
    cases invalid
  rw [if_neg invalid]
  rw [Bool.not_eq_true, Bool.or_eq_false_iff, Option.isNone_eq_false_iff,
    Option.isNone_eq_false_iff] at invalid
  simp only [invalid.1, invalid.2, true_and]
  cases known : s.getDevice deviceId with
  | none => simp [SameTables.refl]
  | some device =>
    cases active : Stores.isActive device with
    | false =>
      rw [Option.filter_some, if_neg (by simp [active])]
      simp [active, SameTables.refl]
    | true =>
      rw [Option.filter_some, if_pos active]
      simp only [Option.some.injEq, exists_eq_left', active, true_and]
      cases looked : s.getWorkspace deviceId id with
      | none => exact iff_of_true (putWorkspace_new keyed looked) (by rintro _ ⟨⟩)
      | some found =>
        obtain ⟨row, stored, here, rfl⟩ := getWorkspace_stored looked
        simp only [Option.some.injEq, forall_eq']
        exact not_congr (observed_same_iff keyed stored _ _ _)

theorem enforcement_changes_iff {enforce : Bool} :
    ¬ SameTables s (s.recordObservedWorkspaceEnforcement deviceId enforce).2 ↔
      Changes s (.recordObservedWorkspaceEnforcement deviceId enforce) := by
  rw [Stores.recordObservedWorkspaceEnforcement, Changes]
  cases known : s.getDevice deviceId with
  | none => simp [SameTables.refl]
  | some device =>
    obtain ⟨stored, here⟩ := mem_of_find?_key known
    cases active : Stores.isActive device with
    | false =>
      rw [Option.filter_some, if_neg (by simp [active])]
      simp [active, SameTables.refl]
    | true =>
      rw [Option.filter_some, if_pos active]
      simp only [Option.some.injEq, exists_eq_left', active, true_and]
      refine not_congr ⟨fun same => ?_, fun same => ?_⟩
      · have kept := map_ite_eq_self_iff.mp same.devices device stored (by simp [here, active])
        exact (congrArg Device.enforceWorkspace kept).symm
      · refine ⟨rfl, rfl, map_ite_eq_self_iff.mpr fun other there isDevice => ?_⟩
        simp only [Bool.and_eq_true, decide_eq_true_eq] at isDevice
        obtain rfl := keyed.devices.eq_of_key_eq there stored (isDevice.1.trans here.symm)
        rw [← same]

end Changes

/-- A note leaves the tables as they were unless it changes a row. -/
theorem note_changes_iff (keyed : KeyedTables s) {c : StoreCall} (note : isSideEffect c) :
    ¬ SameTables s (Stores.serve enc c s).2 ↔ Changes s c := by
  cases c
  case observeWorkspaceGeneration => exact observe_changes_iff keyed
  case deactivateWorkspace => exact deactivate_changes_iff keyed
  case recordObservedWorkspaceEnforcement => exact enforcement_changes_iff keyed
  all_goals exact absurd note id

/-! ## What a rejected result has called -/

/-- What a result reports. -/
def resultRecord (payload : Fields) : Fields := (asRecord (payload.get "result")).getD payload

variable {rules : ResultRules} {opts : ResultOptions} {trace : Trace StoreCall.Answer}

/-- If the call is a note, it is one that the result makes about the first row it was
answered. -/
def NoteCall (rules : ResultRules) (opts : ResultOptions) (trace : Trace StoreCall.Answer)
    (c : StoreCall) : Prop :=
  isSideEffect c → ∃ op deviceId, firstRow trace = some op ∧ given op.deviceId = some deviceId ∧
    WorkspaceNote op (resultRecord opts.payload) (resultStatus rules opts.payload op.status)
      deviceId trace c

theorem NoteCall.of_read (trace : Trace StoreCall.Answer) (c : StoreCall) (reads : isRead c) :
    NoteCall rules opts trace c := by
  intro effect
  cases c <;> first | exact absurd reads id | exact absurd effect id

/-- A tool whose results are noted. -/
def isNotedTool (tool : String) : Prop :=
  isWorkspaceRecordTool tool = true ∨ tool = "ownmesh_workspace_list" ∨
    tool = "ownmesh_workspace_remove" ∨ isPolicyTool tool = true

theorem WorkspaceNote.noted {op : Operation} {data : Fields} {status : OperationStatus}
    {deviceId : String} {c : StoreCall} (note : WorkspaceNote op data status deviceId trace c) :
    isNotedTool op.tool ∧ (status = .completed ∨ status = .failed) := by
  cases note with
  | recorded done tool => exact ⟨.inl tool, .inl done⟩
  | listed done tool => exact ⟨.inr (.inl tool), .inl done⟩
  | removed done tool => exact ⟨.inr (.inr (.inl tool)), .inl done⟩
  | dropped failed tool => exact ⟨.inr (.inr (.inl tool)), .inr failed⟩
  | enforced done tool => exact ⟨.inr (tool.imp_right .inr), .inl done⟩

/-- What is noted is what was reported. -/
theorem resultData_noted {op : Operation} {payload : Fields} {status : OperationStatus}
    (noted : isNotedTool op.tool) (ends : status = .completed ∨ status = .failed) :
    resultData rules op payload status = pure (.ok { data := resultRecord payload }) := by
  have plain : op.tool ≠ "ownmesh_system_diagnose" ∧ isInternalTransferTool op.tool = false := by
    generalize op.tool = tool at noted
    rcases noted with record | rfl | rfl | policy
    · simp only [isWorkspaceRecordTool, Bool.or_eq_true, decide_eq_true_eq] at record
      rcases record with (rfl | rfl) | rfl <;> decide
    · decide
    · decide
    · simp only [isPolicyTool, Bool.or_eq_true, decide_eq_true_eq] at policy
      rcases policy with rfl | rfl <;> decide
  obtain ⟨notDiagnosis, notTransfer⟩ := plain
  simp only [isInternalTransferTool, Bool.or_eq_false_iff, decide_eq_false_iff_not] at notTransfer
  obtain ⟨⟨⟨⟨notStart, notPreflight⟩, notArtifact⟩, notCancel⟩, notCleanup⟩ := notTransfer
  have notApproval : status ≠ .approvalRequired := by
    rintro rfl
    rcases ends with isOther | isOther <;> cases isOther
  simp only [resultData, notDiagnosis, notPreflight, notArtifact, notStart, notCancel, notCleanup,
    notApproval, if_false, Bool.false_eq_true]
  cases errorDetails payload <;> rfl

/-- Nothing but harmless calls has been made. -/
def HarmlessTrace (trace : Trace StoreCall.Answer) : Prop := ∀ entry ∈ trace, Harmless entry

/-- What the trace of a rejection holds: harmless calls only, or notes about workspaces as well,
and then the write of the row was refused. -/
def RejectedTrace (trace : Trace StoreCall.Answer) (outcome : ResultOutcome) : Prop :=
  ∀ error, outcome = .rejected error → HarmlessTrace trace ∨
    (∀ entry ∈ trace, Harmless entry ∨ isSideEffect entry.1) ∧
      ∃ op patch, firstRow trace = some op ∧
        ⟨.updateOperation op.operationId patch resultFromStatuses, .ok none⟩ ∈ trace

section

variable (harmless : HarmlessTrace trace)
include harmless

theorem HarmlessTrace.rejected (outcome : ResultOutcome) : RejectedTrace trace outcome :=
  fun _ _ => .inl harmless

/-- A change that was refused leaves a harmless trace harmless. -/
theorem HarmlessTrace.refused (operationId : String) (patch : OperationPatch) : HarmlessTrace
      (trace ++ [⟨.updateOperation operationId patch resultFromStatuses, .ok none⟩]) := by
  intro other mem
  rcases mem_append.mp mem with before | isLast
  · exact harmless other before
  · rw [mem_singleton.mp isLast]
    rfl

/-- A routine that reads leaves a harmless trace harmless, and the first row the first. -/
theorem HarmlessTrace.read {α : Type} {m : RoomRoutine α} (reads : m.Only isRead) :
    m.Meets (NoteCall rules opts) (fun later _ => HarmlessTrace later ∧
      ∀ op, firstRow trace = some op → firstRow later = some op) trace := by
  refine (reads.meets NoteCall.of_read trace).mono (fun _ _ held => held) ?_
  rintro later _ ⟨more, rfl, each⟩
  refine ⟨fun entry mem => ?_, fun op isFirst => ?_⟩
  · rcases mem_append.mp mem with before | after
    · exact harmless entry before
    · exact .of_read (each entry after)
  · rw [firstRow_append, isFirst]
    rfl

theorem applyDecision_rejected (result : Fields) (applied : Bool)
    (targetId decision incoming : String) :
    (applyDecision rules opts result applied targetId decision incoming).Meets
      (NoteCall rules opts) RejectedTrace trace := by
  rw [applyDecision]
  split
  · exact harmless.rejected _
  refine (harmless.read (getOperation_only targetId)).bind ?_
  rintro found target ⟨harmless, -⟩
  split
  · exact harmless.rejected _
  split
  · exact harmless.rejected _
  split
  · exact harmless.rejected _
  refine meets_updateOperation_bind.mpr ⟨by rintro ⟨⟩, fun answer => ?_⟩
  -- the target is written, or the write is refused and its row is read again
  split
  · intro error isRejected
    cases isRejected
  · intro error isRejected
    cases isRejected
  · refine ((harmless.refused _ _).read (getOperation_only targetId)).bind ?_
    rintro again cur ⟨harmless, -⟩
    repeat' split
    all_goals exact harmless.rejected _

theorem applyWithoutRow_rejected :
    (applyWithoutRow rules opts).Meets (NoteCall rules opts) RejectedTrace trace := by
  rw [applyWithoutRow]
  split
  · exact harmless.rejected _
  split
  · exact harmless.rejected _
  dsimp only
  split
  · split
    · split
      · exact applyDecision_rejected harmless _ _ _ _ _
      · split
        all_goals exact harmless.rejected _
    · split
      all_goals exact harmless.rejected _
  · exact harmless.rejected _

theorem writeResult_rejected {op : Operation} (isFirst : firstRow trace = some op)
    (kept : ResultData)
    (reported : isNotedTool op.tool →
      (resultStatus rules opts.payload op.status = .completed ∨
        resultStatus rules opts.payload op.status = .failed) →
      kept.data = resultRecord opts.payload) :
    (writeResult rules opts op (resultStatus rules opts.payload op.status) kept).Meets
      (NoteCall rules opts) RejectedTrace trace := by
  have first : ∀ more, firstRow (trace ++ more) = some op := by
    intro more
    rw [firstRow_append, isFirst]
    rfl
  have notes := (resultEffects_notes op (resultStatus rules opts.payload op.status) kept.data
    trace).extending
  have calls := (resultEffects_only op (resultStatus rules opts.payload op.status)
    kept.data).meets (P := fun _ _ => True) (fun _ _ _ => trivial) trace
  refine Routine.Meets.bind (P := NoteCall rules opts)
    ((notes.and calls).mono ?_ fun _ _ held => held) ?_
  · rintro later c ⟨⟨⟨more, rfl⟩, reads | ⟨deviceId, isDevice, note⟩⟩, -⟩
    · exact NoteCall.of_read _ _ reads
    · obtain ⟨tool, ends⟩ := note.noted
      rw [reported tool ends] at note
      exact fun _ => ⟨op, deviceId, first more, isDevice, note⟩
  rintro later data ⟨-, more, rfl, each⟩
  refine meets_updateOperation_bind.mpr ⟨by rintro ⟨⟩, fun answer => ?_⟩
  split
  · intro error isRejected
    cases isRejected
  · intro error isRejected
    cases isRejected
    rw [append_assoc]
    refine .inr ⟨fun entry mem => ?_, op, _, first _,
      mem_append_right _ (mem_append_right _ (mem_singleton_self _))⟩
    rcases mem_append.mp mem with before | mem
    · exact .inl (harmless entry before)
    rcases mem_append.mp mem with effect | isLast
    · exact (each entry effect).imp .of_read id
    · rw [mem_singleton.mp isLast]
      exact .inl rfl
  · intro error isRejected
    cases isRejected

end

/-- The trace of a rejected result. -/
theorem applyMcpOperationResult_rejected :
    (applyMcpOperationResult rules opts).Meets (NoteCall rules opts) RejectedTrace [] := by
  have nothing : HarmlessTrace [] := fun _ mem => absurd mem not_mem_nil
  refine ((nothing.read (findOperation_only opts)).and (findOperation_firstRow opts)).mono
    (fun _ _ held => held.1) (fun _ _ held => held) |>.bind ?_
  rintro found op ⟨⟨harmless, -⟩, isFirst⟩
  cases op with
  | none => exact applyWithoutRow_rejected harmless
  | some op =>
    refine (harmless.read (bindOperation_only opts op)).bind ?_
    rintro bound mismatch ⟨harmless, later⟩
    split
    · exact harmless.rejected _
    split
    · exact harmless.rejected _
    by_cases noted : isNotedTool op.tool ∧
        (resultStatus rules opts.payload op.status = .completed ∨
          resultStatus rules opts.payload op.status = .failed)
    · dsimp only
      rw [resultData_noted noted.1 noted.2]
      exact writeResult_rejected harmless (later op isFirst) _ fun _ _ => rfl
    refine (harmless.read (resultData_only op opts.payload _)).bind ?_
    rintro checked data ⟨harmless, still⟩
    split
    · exact harmless.rejected _
    · exact writeResult_rejected harmless (still op (later op isFirst)) _ fun tool ends =>
        absurd ⟨tool, ends⟩ noted

/-! ## Runs -/

section Runs

variable {ι : Type} [DecidableEq ι]

/-- In the state, the result has read the row and makes a note that changes a stored row. -/
def NotesChange (rules : ResultRules) (opts : ResultOptions) (i : ι) (op : Operation)
    (mid : Routines StoreCall.Answer ResultOutcome Stores ι) : Prop :=
  ∃ deviceId c next, firstRow (mid.trace i) = some op ∧ given op.deviceId = some deviceId ∧
    WorkspaceNote op (resultRecord opts.payload) (resultStatus rules opts.payload op.status)
      deviceId (mid.trace i) c ∧
    mid.routine i = .ask c next ∧ Changes mid.store c

/-- In the state, the result is written onto a row that is gone, or that has left the statuses
a result may be written from. -/
def WriteRefused (i : ι) (operationId : String)
    (mid : Routines StoreCall.Answer ResultOutcome Stores ι) : Prop :=
  ∃ patch next, mid.routine i = .ask (.updateOperation operationId patch resultFromStatuses) next ∧
    ∀ cur, mid.store.getOperation operationId = some cur → cur.status ∉ resultFromStatuses

/-- A guarded change that found no row to change. -/
theorem changeOperation_refused {enc : Encoding} {s : Stores} {operationId : String}
    {change : Operation → Operation}
    (refused : (s.changeOperation enc operationId change resultFromStatuses).1 = .ok none)
    {cur : Operation} (found : s.getOperation operationId = some cur) :
    cur.status ∉ resultFromStatuses := by
  intro allowed
  rw [Stores.changeOperation, found] at refused
  dsimp only at refused
  rw [if_pos (show allowedFrom (some resultFromStatuses) cur.status = true from
    decide_eq_true allowed)] at refused
  split at refused <;> cases refused

/-- **Rejected results.**  Let a result be brought onto its operation while others do anything
to the stores, and let it be rejected.  Its calls have changed no operation, workspace or device
if and only if it is not the case that one of its notes about workspaces changed a stored row
and that the row it had read was gone, or had left the statuses a result may be written from,
when the result was written. -/
theorem rejected_unchanged_iff (enc : Encoding) (opts : ResultOptions) (i : ι)
    {s t : Routines StoreCall.Answer ResultOutcome Stores ι} {turns : List (Turn Stores ι)}
    (begins : s.routine i = applyMcpOperationResult rules opts) (fresh : s.trace i = [])
    (run : Run (Routines.Step (Stores.serve enc) fun _ _ => True) s turns t)
    (keyed : ∀ mid, Run.Visits (Routines.Step (Stores.serve enc) fun _ _ => True) s turns mid →
      KeyedTables mid.store) {error : String} (rejected : t.routine i = .done (.rejected error)) :
    (∀ mid, Run.Takes (Routines.Step (Stores.serve enc) fun _ _ => True) s turns mid (.resume i) →
        SameTables mid.store (mid.resume (Stores.serve enc) i).store) ↔
      ¬ ∃ op, (∃ mid, Run.Takes (Routines.Step (Stores.serve enc) fun _ _ => True) s turns mid
          (.resume i) ∧ NotesChange rules opts i op mid) ∧
        ∃ mid, Run.Takes (Routines.Step (Stores.serve enc) fun _ _ => True) s turns mid
          (.resume i) ∧ WriteRefused i op.operationId mid := by
  have meets : ∀ {before mid}, Run (Routines.Step (Stores.serve enc) fun _ _ => True) s before mid →
      (mid.routine i).Meets (NoteCall rules opts) RejectedTrace (mid.trace i) := by
    intro before mid reached
    refine Routines.Meet.run_of i ?_ reached
    rw [begins, fresh]
    exact applyMcpOperationResult_rejected
  have ends := meets run
  rw [rejected] at ends
  constructor
  · rintro same ⟨op, ⟨mid, takes, deviceId, c, next, -, -, note, asks, changes⟩, -⟩
    have kept := same mid takes
    rw [resume_ask asks] at kept
    exact (note_changes_iff (keyed mid takes.visits) note.isSideEffect).mpr changes kept
  · intro none_ mid takes
    cases shape : mid.routine i with
    | done =>
      rw [resume_done shape]
      exact SameTables.refl _
    | ask c next =>
      rw [resume_ask shape]
      have made := mem_trace_of_takes run takes shape
      by_contra changes
      rcases ends error rfl with harmless | ⟨calls, op, patch, isFirst, refused⟩
      · exact changes (serve_harmless (harmless _ made))
      have effect : isSideEffect c :=
        (calls _ made).resolve_left fun harmless => changes (serve_harmless harmless)
      obtain ⟨⟨before, reached⟩, after, rest⟩ := split_at_takes run takes
      have asked := meets reached
      rw [shape] at asked
      obtain ⟨read, deviceId, first, isDevice, note⟩ := asked.1 effect
      obtain rfl : read = op := by
        have own : Step (Stores.serve enc) (fun _ _ => True) mid (.resume i) _ := turn_taken i mid
        obtain ⟨more, grown⟩ := own.trace_grows i |>.trans (trace_grows rest i)
        rw [← grown, firstRow_append, first] at isFirst
        exact Option.some.inj isFirst
      refine none_ ⟨read, ⟨mid, takes, deviceId, c, next, first, isDevice, note, shape, ?_⟩, ?_⟩
      · exact (note_changes_iff (keyed mid takes.visits) effect).mp changes
      · rcases takes_of_mem_trace run refused with before | ⟨last, next, taken, asks, answered⟩
        · rw [fresh] at before
          exact absurd before not_mem_nil
        · exact ⟨last, taken, patch, next, asks, fun cur => changeOperation_refused answered.symm⟩

end Runs

/-! ## A removal that is rejected and stays -/

/-- An operation that removes a workspace of a device. -/
def removal (status : OperationStatus) : Operation where
  operationId := "op_1"
  tenantId := "tenant_1"
  principalId := "user_1"
  deviceId := some "dev_1"
  tool := "ownmesh_workspace_remove"
  status := status
  summary := ""
  data := []
  truncated := false
  approvalRequired := false
  warnings := []
  correlationId := some "op_1"
  workspaceId := some "ws"
  claimVersion := 1
  createdAt := 0
  updatedAt := 0

def removedWorkspace : Workspace where
  workspaceId := "ws"
  tenantId := "tenant_1"
  deviceId := "dev_1"
  ownerPrincipalId := "user_1"
  version := 1
  localGeneration := some "wsg_1"
  active := true
  createdAt := 0
  updatedAt := 0

def removalStores (status : OperationStatus) : Stores where
  now := 1
  operations := [removal status]
  workspaces := [removedWorkspace]
  devices := []
  authority := ⟨fun _ _ => .ok, fun _ => .ok⟩

/-- The device reports that it has removed the workspace. -/
def removalResult : ResultOptions where
  operationId := some "op_1"
  correlationId := none
  payload := [("operation_id", .text "op_1"), ("status", .text "completed")]
  deviceId := some "dev_1"
  expectedApprovalDecision := none
  issuer := none

def removalStart : Routines StoreCall.Answer ResultOutcome Stores Unit where
  store := removalStores .running
  routine := fun _ => applyMcpOperationResult plainRules removalResult
  trace := fun _ => []

/-- The operation is cancelled after the result has found it running. -/
def removalBefore : List (Turn Stores Unit) := [.resume (), .other (removalStores .cancelled)]

def removalTurns : List (Turn Stores Unit) :=
  removalBefore ++ .resume () :: [.resume (), .resume (), .resume ()]

abbrev removalStep : Routines StoreCall.Answer ResultOutcome Stores Unit → Turn Stores Unit →
    Routines StoreCall.Answer ResultOutcome Stores Unit → Prop :=
  Routines.Step (Stores.serve plainRules.enc) fun _ _ => True

def removalEnd : Routines StoreCall.Answer ResultOutcome Stores Unit :=
  removalTurns.foldl (Routines.after (Stores.serve plainRules.enc)) removalStart

theorem removal_run : Run removalStep removalStart removalTurns removalEnd :=
  run_played (fun _ _ => trivial) removalTurns removalStart

theorem removal_changes : ∃ mid, Run.Takes removalStep removalStart removalTurns mid (.resume ()) ∧
      ¬ SameTables mid.store (mid.resume (Stores.serve plainRules.enc) ()).store := by
  refine ⟨_, ⟨removalBefore, _, rfl, run_played (fun _ _ => trivial) _ _⟩, ?_⟩
  intro same
  have kept := congrArg (List.map Workspace.active) same.workspaces
  exact absurd kept (by decide)

/-- The result is rejected, and the workspace has been deactivated. -/
theorem removal_survives_rejection : Run removalStep removalStart removalTurns removalEnd ∧
      removalEnd.routine () = .done (.rejected "cas_conflict") ∧
      removalEnd.store.workspaces = [{ removedWorkspace with active := false, updatedAt := 1 }] ∧
      ∃ mid, Run.Takes removalStep removalStart removalTurns mid (.resume ()) ∧
        ¬ SameTables mid.store (mid.resume (Stores.serve plainRules.enc) ()).store :=
  ⟨removal_run, rfl, rfl, removal_changes⟩

/-- There is one workspace and no device at any time. -/
theorem removal_keyed {mid : Routines StoreCall.Answer ResultOutcome Stores Unit}
    (visits : Run.Visits removalStep removalStart removalTurns mid) : KeyedTables mid.store := by
  obtain ⟨before, after, split, reached⟩ := visits
  have played : Run removalStep removalStart before _ := run_played (fun _ _ => trivial) _ _
  obtain rfl := Run.deterministic (fun _ _ _ _ left right => left.functional right) reached played
  have begins : before ∈ removalTurns.inits := by
    rw [mem_inits, split]
    exact prefix_append before after
  have few : ∀ before ∈ removalTurns.inits, (before.foldl
      (Routines.after (Stores.serve plainRules.enc)) removalStart).store.workspaces.length = 1 ∧
      (before.foldl (Routines.after (Stores.serve plainRules.enc))
        removalStart).store.devices.length = 0 := by
    decide
  obtain ⟨one, none_⟩ := few before begins
  obtain ⟨row, isRow⟩ := length_eq_one_iff.mp one
  refine ⟨?_, ?_⟩
  · rw [isRow]
    exact pairwise_singleton _ row
  · rw [length_eq_zero_iff.mp none_]
    exact .nil

/-- A note about the workspace changed its row, and the write of the result was refused. -/
theorem removal_notes_change :
    ∃ op, (∃ mid, Run.Takes removalStep removalStart removalTurns mid (.resume ()) ∧
        NotesChange plainRules removalResult () op mid) ∧
      ∃ mid, Run.Takes removalStep removalStart removalTurns mid (.resume ()) ∧
        WriteRefused () op.operationId mid := by
  have unchanged := rejected_unchanged_iff plainRules.enc removalResult () rfl rfl removal_run
    (fun _ => removal_keyed) rfl
  by_contra none_
  obtain ⟨mid, takes, changes⟩ := removal_changes
  exact changes (unchanged.mpr none_ mid takes)

end OwnMesh.DeviceRoom
