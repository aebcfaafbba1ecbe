import OwnMesh.DeviceRoom.Results

/-!
# The cancel fence

Once the cancellation of an operation has been requested, its row should only come to rest: no
result, expiry or redelivery may take it back to a status in which it waits or runs.  The write
of a result allows a row in `cancel_requested`, so that a late last word is still recorded; the
status it writes is read off the payload and off a row that was read earlier.

`cancel_fence_iff` says which writes break the fence: those of a result that asks for an
approval, or that is not the device's last word and was computed from a row read before the
cancellation.  `approval_lifts_cancel` is a run of the first kind, in which nothing races.
-/

namespace OwnMesh.DeviceRoom

open ControlPlane Foundations Routine List

/-! ## Tasks of a room -/

/-- What a room does to the rows of operations. -/
inductive RoomTask where
  | result (rules : ResultRules) (opts : ResultOptions)
  | expiry (rules : ResultRules) (parseDate : String → Option Int) (deviceId : String)
      (pending : List PendingOperation)
  | redelivery (invalidation : Fields → String × Fields) (pending : List PendingOperation)

def RoomTask.routine : RoomTask → RoomRoutine Unit
  | .result rules opts => do
    let _ ← applyMcpOperationResult rules opts
    pure ()
  | .expiry rules parseDate deviceId pending => do
    let _ ← reconcileExpiredPending rules parseDate deviceId pending
    pure ()
  | .redelivery invalidation pending => do
    let _ ← recheckPending invalidation pending
    pure ()

/-- The first row that a routine was answered. -/
def firstRow : Trace StoreCall.Answer → Option Operation
  | [] => none
  | ⟨.getOperation _, answer⟩ :: rest =>
    match (answer : Option Operation) with
    | some op => some op
    | none => firstRow rest
  | ⟨.getByCorrelation _, answer⟩ :: rest =>
    match (answer : Option Operation) with
    | some op => some op
    | none => firstRow rest
  | _ :: rest => firstRow rest

theorem firstRow_append (trace more : Trace StoreCall.Answer) :
    firstRow (trace ++ more) = (firstRow trace <|> firstRow more) := by
  induction trace with
  | nil => rfl
  | cons entry rest ih =>
    obtain ⟨c, answer⟩ := entry
    cases c
    case getOperation | getByCorrelation =>
      rcases (answer : Option Operation) with _ | op
      · exact ih
      · rfl
    all_goals exact ih

/-! ## The statuses that are written -/

/-- If the call writes a status, it is one of the fence. -/
def WritesFenced : StoreCall → Prop
  | .updateOperation _ patch _ => ∃ status, patch.status = some status ∧ isDispatchFence status
  | .transitionOperation _ transition _ => isDispatchFence transition.status
  | _ => True

variable {c : StoreCall}

theorem WritesFenced.of_other (other : isReadOrSideEffect c) : WritesFenced c := by
  cases c
  case updateOperation | transitionOperation =>
    exact absurd other (by rintro (read | effect) <;> assumption)
  all_goals trivial

/-- The call writes a status of the fence, or what a result makes of a row that was read. -/
def ResultCall (read : Trace StoreCall.Answer → Operation → Prop) (rules : ResultRules)
    (payload : Fields) (trace : Trace StoreCall.Answer) (c : StoreCall) : Prop :=
  WritesFenced c ∨ ∃ op patch, read trace op ∧
    c = .updateOperation op.operationId patch resultFromStatuses ∧
    patch.status = some (resultStatus rules payload op.status)

section ResultCalls

variable {rules : ResultRules} {read : Trace StoreCall.Answer → Operation → Prop}
  {payload : Fields} {trace : Trace StoreCall.Answer}

theorem ResultCall.of_other (trace : Trace StoreCall.Answer) (c : StoreCall)
    (other : isReadOrSideEffect c) : ResultCall read rules payload trace c :=
  .inl (WritesFenced.of_other other)

/-- A routine that reads, or takes notes, may be followed by anything its trace allows. -/
theorem only_resultCall {α β : Type} {m : RoomRoutine α} {next : α → RoomRoutine β}
    (only : m.Only isReadOrSideEffect)
    (goesOn : ∀ more a, (next a).Meets (ResultCall read rules payload) (fun _ _ => True)
      (trace ++ more)) :
    (m >>= next).Meets (ResultCall read rules payload) (fun _ _ => True) trace := by
  refine (only.meets ResultCall.of_other trace).bind ?_
  rintro later a ⟨more, rfl, -⟩
  exact goesOn more a

theorem applyDecision_calls (opts : ResultOptions) (result : Fields) (applied : Bool)
    (targetId decision incoming : String) :
    (applyDecision rules opts result applied targetId decision incoming).Meets
      (ResultCall read rules payload) (fun _ _ => True) trace := by
  rw [applyDecision]
  split
  · trivial
  refine only_resultCall ((getOperation_only targetId).mono fun _ => .inl) ?_
  intro more target
  split
  · trivial
  split
  · trivial
  split
  · trivial
  refine meets_updateOperation_bind.mpr ⟨?_, fun answer => ?_⟩
  · refine .inl ⟨_, rfl, ?_⟩
    rw [decidedStatus]
    repeat' split
    all_goals rfl
  split
  · trivial
  · trivial
  · refine only_resultCall ((getOperation_only targetId).mono fun _ => .inl) ?_
    intro again cur
    repeat' split
    all_goals trivial

theorem applyWithoutRow_calls (opts : ResultOptions) :
    (applyWithoutRow rules opts).Meets (ResultCall read rules payload) (fun _ _ => True)
      trace := by
  rw [applyWithoutRow]
  split
  · trivial
  split
  · trivial
  dsimp only
  split
  · split
    · split
      · exact applyDecision_calls opts _ _ _ _ _
      · split
        all_goals trivial
    · split
      all_goals trivial
  · trivial

/-- The calls for a result whose row has been read, if a row once read stays read. -/
theorem applyToRow_calls (opts : ResultOptions) (op : Operation)
    (stays : ∀ trace more, read trace op → read (trace ++ more) op) (found : read trace op) :
    (applyToRow rules opts op).Meets (ResultCall read rules opts.payload) (fun _ _ => True)
      trace := by
  refine only_resultCall ((bindOperation_only opts op).mono fun _ => .inl) ?_
  intro bound mismatch
  split
  · trivial
  split
  · trivial
  refine only_resultCall ((resultData_only op opts.payload _).mono fun _ => .inl) ?_
  intro checked kept
  split
  · trivial
  next kept =>
    refine only_resultCall (resultEffects_only op _ kept.data) ?_
    intro effects data
    refine meets_updateOperation_bind.mpr ⟨?_, fun answer => ?_⟩
    · refine .inr ⟨op, _, ?_, rfl, rfl⟩
      exact stays _ effects (stays _ checked (stays _ bound found))
    · split
      all_goals trivial

/-- A search that has come to the trace without a row answers the first row of its trace. -/
def Searches (search : RoomRoutine (Option Operation)) : Prop :=
  ∀ trace, firstRow trace = none →
    search.Meets (fun _ c => isReadOrSideEffect c) (fun later found => firstRow later = found) trace

theorem lookups_search (text : String) :
    Searches (getOperation text) ∧ Searches (getByCorrelation text) := by
  constructor
  all_goals
    intro trace nothing
    refine ⟨.inl trivial, fun answer => ?_⟩
    show firstRow _ = (answer : Option Operation)
    rw [firstRow_append, nothing]
    cases (answer : Option Operation)
    all_goals rfl

theorem ifGiven_searches (text : Option String) {ask : String → RoomRoutine (Option Operation)}
    (asks : ∀ text, Searches (ask text)) : Searches (ifGiven text ask) := by
  rw [ifGiven]
  split
  · exact asks _
  · exact fun _ nothing => nothing

/-- A search that goes on while nothing has been found. -/
theorem orSearch_firstRow {found : Option Operation} {search : RoomRoutine (Option Operation)}
    (searches : Searches search) (before : firstRow trace = found) :
    (orSearch found search).Meets (fun _ c => isReadOrSideEffect c)
      (fun later found => firstRow later = found) trace := by
  cases found with
  | none => exact searches trace before
  | some => exact before

theorem findOperation_firstRow (opts : ResultOptions) :
    (findOperation rules opts).Meets (fun _ c => isReadOrSideEffect c)
      (fun later found => firstRow later = found) [] := by
  have byId := fun given => ifGiven_searches given fun text => (lookups_search text).1
  refine (byId _ [] rfl).bind ?_
  intro first found isFirst
  refine (orSearch_firstRow (ifGiven_searches _ fun text => (lookups_search text).2)
    isFirst).bind ?_
  intro second byEither isSecond
  exact orSearch_firstRow (byId _) isSecond

/-- A result writes what it makes of the first row it has read. -/
theorem applyMcpOperationResult_calls (opts : ResultOptions) :
    (applyMcpOperationResult rules opts).Meets
      (ResultCall (fun trace op => firstRow trace = some op) rules opts.payload)
      (fun _ _ => True) [] := by
  refine ((findOperation_firstRow opts).mono ResultCall.of_other fun _ _ held => held).bind ?_
  intro later found isFirst
  cases found with
  | none => exact applyWithoutRow_calls opts
  | some op =>
    refine applyToRow_calls opts op ?_ isFirst
    intro trace more isFirst
    rw [firstRow_append, isFirst]
    rfl

/-- A result that is its device's last word writes statuses of the fence only. -/
theorem applyMcpOperationResult_fenced (opts : ResultOptions)
    (last : ∀ status, isDispatchFence (resultStatus rules opts.payload status))
    (trace : Trace StoreCall.Answer) :
    (applyMcpOperationResult rules opts).Meets (fun _ c => WritesFenced c) (fun _ _ => True)
      trace := by
  have calls : (applyMcpOperationResult rules opts).Meets
      (ResultCall (fun _ _ => True) rules opts.payload) (fun _ _ => True) trace := by
    refine only_resultCall ((findOperation_only opts).mono fun _ => .inl) ?_
    intro later found
    cases found with
    | none => exact applyWithoutRow_calls opts
    | some op => exact applyToRow_calls opts op (fun _ _ _ => trivial) trivial
  refine calls.mono ?_ fun _ _ held => held
  rintro _ _ (fenced | ⟨op, patch, -, rfl, written⟩)
  · exact fenced
  · exact ⟨_, written, last op.status⟩

/-! ## Expiry and redelivery -/

theorem reconcileExpiredPending_calls (parseDate : String → Option Int) (deviceId : String)
    (pending : List PendingOperation) (trace : Trace StoreCall.Answer) :
    (reconcileExpiredPending rules parseDate deviceId pending).Meets (fun _ c => WritesFenced c)
      (fun _ _ => True) trace := by
  induction pending generalizing trace with
  | nil => trivial
  | cons first rest ih =>
    rw [reconcileExpiredPending]
    split
    · exact ih trace
    split
    · exact ih trace
    refine (applyMcpOperationResult_fenced _ ?_ trace).bind ?_
    · exact fun _ => rfl
    intro later outcome _
    split
    · trivial
    · exact ih later
    · split
      · exact ih later
      · trivial

/-- An operation is failed, and a routine that writes statuses of the fence follows. -/
theorem undeliverable_calls {rest : RoomRoutine ReconcileOutcome} {operationId summary : String}
    {error : Fields}
    (follows : ∀ trace, rest.Meets (fun _ c => WritesFenced c) (fun _ _ => True) trace) :
    (Routine.ask (.transitionOperation operationId (undeliverable summary error)
        resultFromStatuses) fun
      | .error e => .done (.threw e)
      | .ok _ => rest : RoomRoutine ReconcileOutcome).Meets (fun _ c => WritesFenced c)
      (fun _ _ => True) trace := by
  refine ⟨rfl, fun answer => ?_⟩
  cases (answer : Except OperationError (Option Operation)) with
  | error => trivial
  | ok => exact follows _

theorem recheckPending_calls (invalidation : Fields → String × Fields)
    (pending : List PendingOperation) (trace : Trace StoreCall.Answer) :
    (recheckPending invalidation pending).Meets (fun _ c => WritesFenced c) (fun _ _ => True)
      trace := by
  induction pending generalizing trace with
  | nil => trivial
  | cons first rest ih =>
    rw [recheckPending]
    split
    · exact ih trace
    refine ⟨trivial, fun operation => ?_⟩
    dsimp only
    split
    · exact ih _
    -- an operation without authority is failed, and the rest is checked
    refine ⟨trivial, fun authority => ?_⟩
    cases (authority : WorkspaceAuthorityResult)
    case storageUnavailable => trivial
    case ok =>
      refine ⟨trivial, fun credential => ?_⟩
      cases (credential : CredentialGenerationResult)
      case ok => exact ih _
      case storageUnavailable => trivial
      all_goals exact undeliverable_calls ih
    all_goals exact undeliverable_calls ih

end ResultCalls

/-! ## The row -/

/-- The operation is in the fence, or has no row. -/
def Fenced (operationId : String) (s : Stores) : Prop :=
  ∀ op ∈ s.operations, op.operationId = operationId → isDispatchFence op.status

section Rows

variable {enc : Encoding} {operationId : String} {s : Stores}

theorem serve_operations (other : isReadOrSideEffect c) :
    (Stores.serve enc c s).2.operations = s.operations := by
  cases c
  case updateOperation | transitionOperation =>
    exact absurd other (by rintro (read | effect) <;> assumption)
  case observeWorkspaceGeneration | deactivateWorkspace | recordObservedWorkspaceEnforcement =>
    simp only [Stores.serve, Stores.observeWorkspaceGeneration, Stores.deactivateWorkspace,
      Stores.recordObservedWorkspaceEnforcement, Stores.putWorkspace]
    repeat' split
    all_goals rfl
  all_goals rfl

section

variable (target : String) (fromStatuses : List OperationStatus)

/-- A change leaves the operation in the fence exactly when what it writes there is. -/
theorem changeOperation_fenced_iff (fenced : Fenced operationId s) (change : Operation → Operation)
    (identifies : ∀ cur, (change cur).operationId = cur.operationId) :
    Fenced operationId (s.changeOperation enc target change fromStatuses).2 ↔
      ∀ record, (s.changeOperation enc target change fromStatuses).1 = .ok (some record) →
        target = operationId → isDispatchFence record.status := by
  rcases s.changeOperation_cases enc target change fromStatuses with
    ⟨refused, kept⟩ | ⟨cur, record, stored, isTarget, same, answered, written⟩
  · rw [kept]
    exact ⟨fun _ record answered => absurd answered (refused record), fun _ => fenced⟩
  · have identity : record.operationId = target :=
      same.operationId.trans ((identifies cur).trans isTarget)
    rw [written, answered]
    constructor
    · intro after _ isRecord isRow
      obtain rfl := Option.some.inj (Except.ok.inj isRecord)
      refine after record (mem_map.mpr ⟨cur, stored, ?_⟩) (identity.trans isRow)
      rw [if_pos isTarget]
    · intro allowed op mem isRow
      obtain ⟨row, rowStored, rfl⟩ := mem_map.mp mem
      by_cases isWritten : row.operationId = target
      · rw [if_pos isWritten] at isRow ⊢
        exact allowed record rfl (identity.symm.trans isRow)
      · rw [if_neg isWritten] at isRow ⊢
        exact fenced row rowStored isRow

theorem update_fenced_iff (fenced : Fenced operationId s) (patch : OperationPatch) :
    Fenced operationId (Stores.serve enc (.updateOperation target patch fromStatuses) s).2 ↔
      ∀ record, (s.changeOperation enc target (patch.apply s.now) fromStatuses).1 =
        .ok (some record) → target = operationId → isDispatchFence record.status :=
  changeOperation_fenced_iff target fromStatuses fenced (patch.apply s.now) fun _ => rfl

end

end Rows

/-! ## Runs -/

/-- The calls of a task. -/
def RoomTask.Calls : RoomTask → Trace StoreCall.Answer → StoreCall → Prop
  | .result rules opts =>
    ResultCall (fun trace op => firstRow trace = some op) rules opts.payload
  | .expiry _ _ _ _ => fun _ c => WritesFenced c
  | .redelivery _ _ => fun _ c => WritesFenced c

theorem RoomTask.meets (task : RoomTask) : task.routine.Meets task.Calls (fun _ _ => True) [] := by
  cases task with
  | result rules opts =>
    exact (applyMcpOperationResult_calls opts).bind fun _ _ _ => trivial
  | expiry rules parseDate deviceId pending =>
    exact (reconcileExpiredPending_calls parseDate deviceId pending []).bind fun _ _ _ => trivial
  | redelivery invalidation pending =>
    exact (recheckPending_calls invalidation pending []).bind fun _ _ _ => trivial

theorem resultStatus_fence_iff (rules : ResultRules) (payload : Fields) (read : OperationStatus) :
    isDispatchFence (resultStatus rules payload read) = false ↔
      reportedStatus rules payload = .approvalRequired ∨
        isReportable (reportedStatus rules payload) = false ∧ isDispatchFence read = false := by
  rw [resultStatus]
  by_cases reportable : isReportable (reportedStatus rules payload)
  · rw [if_pos reportable]
    cases reported : reportedStatus rules payload
    all_goals rw [reported] at reportable
    all_goals simp_all [isReportable, isDispatchFence]
  · have notApproval : reportedStatus rules payload ≠ .approvalRequired := by
      intro isApproval
      exact reportable (by rw [isApproval]; rfl)
    by_cases isPending : read = .pending
    · simp [isPending, notApproval, reportable, isDispatchFence]
    · simp [isPending, notApproval, reportable]

section Runs

variable {ι : Type} [DecidableEq ι] {enc : Encoding} {operationId : String}
  {tasks : ι → RoomTask} {s t : Routines StoreCall.Answer Unit Stores ι}
  {turn : Turn Stores ι} {turns : List (Turn Stores ι)}

/-- The room before its tasks have made a call. -/
def opening (tasks : ι → RoomTask) (stores : Stores) : Routines StoreCall.Answer Unit Stores ι where
  store := stores
  routine := fun i => (tasks i).routine
  trace := fun _ => []

/-- Others keep the fence of the operation. -/
def KeepsFence (operationId : String) (s t : Stores) : Prop :=
  Fenced operationId s → Fenced operationId t

/-- A task is about to write a result onto the operation, and the write goes through: the result
asks for an approval, or it is not the device's last word and comes from a row that was read
outside the fence. -/
def LiftsFence (enc : Encoding) (tasks : ι → RoomTask) (operationId : String)
    (s : Routines StoreCall.Answer Unit Stores ι) (i : ι) : Prop :=
  ∃ rules opts op patch next record, tasks i = .result rules opts ∧ firstRow (s.trace i) = some op ∧
    s.routine i = .ask (.updateOperation operationId patch resultFromStatuses) next ∧
    patch.status = some (resultStatus rules opts.payload op.status) ∧
    (s.store.changeOperation enc operationId (patch.apply s.store.now) resultFromStatuses).1 =
      .ok (some record) ∧
    (reportedStatus rules opts.payload = .approvalRequired ∨
      isReportable (reportedStatus rules opts.payload) = false ∧ isDispatchFence op.status = false)

variable {stores : Stores}

/-- The status of what a change writes. -/
theorem written_status {target : String} {change : Operation → Operation}
    {fromStatuses : List OperationStatus} {status : OperationStatus} {record : Operation}
    (answered : (stores.changeOperation enc target change fromStatuses).1 = .ok (some record))
    (sets : ∀ cur, (change cur).status = status) : record.status = status := by
  rcases stores.changeOperation_cases enc target change fromStatuses with
    ⟨refused, -⟩ | ⟨cur, written, -, -, same, isWritten, -⟩
  · exact absurd answered (refused record)
  · obtain rfl := Option.some.inj (Except.ok.inj (isWritten.symm.trans answered))
    rw [same.status, sets]

theorem patch_status {patch : OperationPatch} {status : OperationStatus}
    (sets : patch.status = some status) (now : Int) (cur : Operation) :
    (patch.apply now cur).status = status := by
  rw [OperationPatch.apply, sets]
  rfl

/-- A call that writes statuses of the fence keeps the fence. -/
theorem serve_fenced (fenced : Fenced operationId stores)
    (writes : WritesFenced c) : Fenced operationId (Stores.serve enc c stores).2 := by
  cases c
  case updateOperation target patch fromStatuses =>
    obtain ⟨status, sets, isFence⟩ := writes
    refine (update_fenced_iff target fromStatuses fenced patch).mpr ?_
    intro record answered _
    rwa [written_status answered (patch_status sets _)]
  case transitionOperation target transition fromStatuses =>
    refine (changeOperation_fenced_iff target fromStatuses fenced (transition.apply stores.now)
      fun _ => rfl).mpr ?_
    intro record answered _
    rwa [written_status answered fun _ => rfl]
  all_goals
    rw [Fenced, serve_operations]
    · exact fenced
    · first
        | exact .inl trivial
        | exact .inr trivial

/-- The turn of a task keeps the fence unless it lifts it. -/
theorem resume_fenced_iff (fenced : Fenced operationId s.store) (i : ι)
    (meets : (s.routine i).Meets (tasks i).Calls (fun _ _ => True) (s.trace i)) :
    Fenced operationId (s.resume (Stores.serve enc) i).store ↔
      ¬ LiftsFence enc tasks operationId s i := by
  constructor
  · rintro after ⟨rules, opts, op, patch, next, record, -, -, asks, sets, answered, unsettled⟩
    rw [Routines.resume_ask asks] at after
    have written := (update_fenced_iff operationId _ fenced patch).mp after record answered rfl
    rw [written_status answered (patch_status sets _),
      (resultStatus_fence_iff _ _ _).mpr unsettled] at written
    cases written
  · intro keeps
    cases shape : s.routine i with
    | done =>
      rw [Routines.resume_done shape]
      exact fenced
    | ask c next =>
      rw [Routines.resume_ask shape]
      rw [shape] at meets
      by_cases writes : WritesFenced c
      · exact serve_fenced fenced writes
      · -- what is left is the write of a result
        cases isTask : tasks i with rw [isTask] at meets
        | expiry | redelivery =>
          exact absurd meets.1 writes
        | result rules opts =>
          obtain ⟨op, patch, isFirst, rfl, sets⟩ := meets.1.resolve_left writes
          refine (update_fenced_iff op.operationId _ fenced patch).mpr ?_
          intro record answered isRow
          by_contra unfenced
          rw [written_status answered (patch_status sets _)] at unfenced
          subst isRow
          exact keeps ⟨rules, opts, op, patch, next, record, isTask, isFirst, shape, sets,
            answered, (resultStatus_fence_iff _ _ _).mp (Bool.eq_false_of_not_eq_true unfenced)⟩

/-- **The cancel fence.**  Let any tasks of a room run, and let the operation be in the fence
(its cancellation requested, or at rest) at some point.  It stays in the fence in every later
state if and only if no task writes a result onto it that asks for an approval, or that is not
the device's last word and comes from a row read outside the fence. -/
theorem cancel_fence_iff (enc : Encoding) (tasks : ι → RoomTask) (operationId : String)
    {earlier : List (Turn Stores ι)}
    (before : Run (Routines.Step (Stores.serve enc) (KeepsFence operationId))
      (opening tasks stores) earlier s)
    (fenced : Fenced operationId s.store)
    (run : Run (Routines.Step (Stores.serve enc) (KeepsFence operationId)) s turns t) :
    (∀ mid, Run.Visits (Routines.Step (Stores.serve enc) (KeepsFence operationId)) s turns mid →
        Fenced operationId mid.store) ↔
      ∀ mid turn, Run.Takes (Routines.Step (Stores.serve enc) (KeepsFence operationId)) s turns
        mid turn → ∀ i, turn = .resume i → ¬ LiftsFence enc tasks operationId mid i := by
  have meet : Routines.Meet (fun i => (tasks i).Calls) (fun _ _ _ => True) s := by
    refine Routines.Meet.run ?_ before
    intro i
    exact (tasks i).meets
  have throughout := Run.throughout_iff (I := fun mid => Fenced operationId mid.store)
    (C := fun mid turn => ∀ i, turn = .resume i → ¬ LiftsFence enc tasks operationId mid i)
    (fun _ _ _ _ left right => left.functional right)
    (fun held step => held.step step) ?_ meet run
  · rw [throughout]
    exact and_iff_right fenced
  · rintro a turn b held holds ⟨allowed⟩
    cases turn with
    | other store =>
      refine ⟨fun _ i isResume => ?_, fun _ => allowed store rfl holds⟩
      cases isResume
    | resume i =>
      exact (resume_fenced_iff holds i (held i)).trans (by simp)

end Runs

/-! ## An approval after the cancellation -/

/-- An operation whose cancellation has been requested. -/
def cancelledWrite : Operation where
  operationId := "op_1"
  tenantId := "tenant_1"
  principalId := "user_1"
  deviceId := some "dev_1"
  tool := "ownmesh_fs_write"
  status := .cancelRequested
  summary := ""
  data := []
  truncated := false
  approvalRequired := false
  warnings := []
  correlationId := some "op_1"
  workspaceId := some "ws"
  claimVersion := 1
  createdAt := 0
  updatedAt := 0

/-- The device answers that it needs an approval. -/
def approvalAsked : ResultOptions where
  operationId := some "op_1"
  correlationId := none
  payload :=
    [("operation_id", .text "op_1"), ("status", .text "failed"),
      ("error", .object [("code", .text "OWNMESH_E_APPROVAL_REQUIRED")])]
  deviceId := some "dev_1"
  expectedApprovalDecision := none
  issuer := none

def approvalTasks : Unit → RoomTask := fun _ => .result plainRules approvalAsked

def cancelledStores : Stores where
  now := 1
  operations := [cancelledWrite]
  workspaces := []
  devices := []
  authority := ⟨fun _ _ => .ok, fun _ => .ok⟩

abbrev approvalStep : Routines StoreCall.Answer Unit Stores Unit → Turn Stores Unit →
    Routines StoreCall.Answer Unit Stores Unit → Prop :=
  Routines.Step (Stores.serve plainRules.enc) (KeepsFence "op_1")

def approvalEnd : Routines StoreCall.Answer Unit Stores Unit :=
  ((opening approvalTasks cancelledStores).resume (Stores.serve plainRules.enc) ()).resume
    (Stores.serve plainRules.enc) ()

theorem approval_run :
    Run approvalStep (opening approvalTasks cancelledStores) [.resume (), .resume ()] approvalEnd :=
  .next (Routines.turn_taken () _) (.next (Routines.turn_taken () _) (.done _))

theorem approvalEnd_unfenced : ¬ Fenced "op_1" approvalEnd.store := by
  intro fenced
  have fence : approvalEnd.store.operations.all fun op => isDispatchFence op.status := by
    rw [all_eq_true]
    intro op mem
    refine fenced op mem ?_
    have only : approvalEnd.store.operations.map Operation.operationId = ["op_1"] := rfl
    exact mem_singleton.mp (only ▸ mem_map_of_mem mem)
  exact absurd fence (by decide)

theorem cancelledStores_fenced : Fenced "op_1" cancelledStores := by
  intro op mem _
  rw [mem_singleton.mp mem]
  rfl

/-- The row goes from `cancel_requested` to `approval_required`. -/
theorem approval_lifts_cancel :
    cancelledStores.operations.map Operation.status = [.cancelRequested] ∧
      Run approvalStep (opening approvalTasks cancelledStores) [.resume (), .resume ()]
        approvalEnd ∧
      approvalEnd.store.operations.map Operation.status = [.approvalRequired] :=
  ⟨rfl, approval_run, rfl⟩

/-- The write is one that the condition names. -/
theorem approval_lifts_fence :
    ∃ mid, Run.Visits approvalStep (opening approvalTasks cancelledStores)
      [.resume (), .resume ()] mid ∧ LiftsFence plainRules.enc approvalTasks "op_1" mid () := by
  have fence := cancel_fence_iff plainRules.enc approvalTasks "op_1"
    (.done (opening approvalTasks cancelledStores)) cancelledStores_fenced approval_run
  by_contra none_
  push Not at none_
  have stays := fence.mpr fun mid turn takes i _ => none_ mid takes.visits
  exact approvalEnd_unfenced (stays approvalEnd ⟨_, [], (append_nil _).symm, approval_run⟩)

end OwnMesh.DeviceRoom
