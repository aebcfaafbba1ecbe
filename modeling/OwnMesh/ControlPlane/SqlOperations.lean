import OwnMesh.ControlPlane.Operation
import OwnMesh.Foundations.Routine

/-!
# Concurrent changes of an operation row

The SQL store changes an operation in three statements: it reads the row, merges the change
into what it has read, and writes the merged row under a guard on the stored status (and, where
asked, on the stored data); then it reads the row for its answer.  An update writes every column,
a transition the columns of the result.  A row is converted when it is read: an empty text in
some columns counts as none, and is none when it is written back.

`no_lost_update_iff` says what becomes of two such changes that both go through.  The guard does
not protect the other columns: a column that the second change writes back as it had read it
takes away what the first has put there.  `session_lost` is such an interleaving.
-/

namespace OwnMesh.ControlPlane

open Foundations List Routines

/-! ## Columns -/

/-- The columns that a change may write. -/
inductive Column where
  | tenantId
  | principalId
  | deviceId
  | tool
  | status
  | summary
  | data
  | truncated
  | nextCursor
  | approvalRequired
  | approvalUrl
  | approvalId
  | sessionId
  | warnings
  | correlationId
  | payloadHash
  | idempotencyKey
  | workspaceId
  | expiresAt
  | claimVersion
  | action
  | updatedAt
deriving DecidableEq

inductive ColumnValue where
  | text (value : String)
  | optional (value : Option String)
  | flag (value : Bool)
  | status (value : OperationStatus)
  | texts (value : List String)
  | fields (value : Option Fields)
  | count (value : Nat)
  | time (value : Int)

/-- What a row holds in a column. -/
def Column.value : Column → Operation → ColumnValue
  | tenantId, row => .text row.tenantId
  | principalId, row => .text row.principalId
  | deviceId, row => .optional row.deviceId
  | tool, row => .text row.tool
  | status, row => .status row.status
  | summary, row => .text row.summary
  | data, row => .fields row.data
  | truncated, row => .flag row.truncated
  | nextCursor, row => .optional row.nextCursor
  | approvalRequired, row => .flag row.approvalRequired
  | approvalUrl, row => .optional row.approvalUrl
  | approvalId, row => .optional row.approvalId
  | sessionId, row => .optional row.sessionId
  | warnings, row => .texts row.warnings
  | correlationId, row => .optional row.correlationId
  | payloadHash, row => .optional row.payloadHash
  | idempotencyKey, row => .optional row.idempotencyKey
  | workspaceId, row => .optional row.workspaceId
  | expiresAt, row => .optional row.expiresAt
  | claimVersion, row => .count row.claimVersion
  | action, row => .fields row.action
  | updatedAt, row => .time row.updatedAt

/-- The columns of the result, which a transition writes. -/
def Column.isResult : Column → Bool
  | status | summary | data | truncated | nextCursor | approvalRequired | approvalUrl
  | approvalId | sessionId | warnings | updatedAt => true
  | _ => false

/-- The columns that a patch sets; the time of the change is always set. -/
def OperationPatch.sets (patch : OperationPatch) : Column → Bool
  | .tenantId => patch.tenantId.isSome
  | .principalId => patch.principalId.isSome
  | .deviceId => patch.deviceId.isSome
  | .tool => patch.tool.isSome
  | .status => patch.status.isSome
  | .summary => patch.summary.isSome
  | .data => patch.data.isSome
  | .truncated => patch.truncated.isSome
  | .nextCursor => patch.nextCursor.isSome
  | .approvalRequired => patch.approvalRequired.isSome
  | .approvalUrl => patch.approvalUrl.isSome
  | .approvalId => patch.approvalId.isSome
  | .sessionId => patch.sessionId.isSome
  | .warnings => patch.warnings.isSome
  | .correlationId => patch.correlationId.isSome
  | .payloadHash => patch.payloadHash.isSome
  | .idempotencyKey => patch.idempotencyKey.isSome
  | .workspaceId => patch.workspaceId.isSome
  | .expiresAt => patch.expiresAt.isSome
  | .claimVersion => patch.claimVersion.isSome
  | .action => patch.action.isSome
  | .updatedAt => true

def OperationTransition.sets (transition : OperationTransition) : Column → Bool
  | .status => true
  | .summary => transition.summary.isSome
  | .data => transition.data.isSome
  | .truncated => transition.truncated.isSome
  | .nextCursor => transition.nextCursor.isSome
  | .approvalRequired => transition.approvalRequired.isSome
  | .approvalUrl => transition.approvalUrl.isSome
  | .approvalId => transition.approvalId.isSome
  | .sessionId => transition.sessionId.isSome
  | .warnings => transition.warnings.isSome
  | .updatedAt => true
  | _ => false

/-! ## What is written back -/

/-- A row as it is read. -/
def rowToMcpOperation (row : Operation) : Operation :=
  { row with
    deviceId := row.deviceId.filter (· ≠ "")
    approvalUrl := row.approvalUrl.filter (· ≠ "")
    approvalId := row.approvalId.filter (· ≠ "")
    correlationId := row.correlationId.filter (· ≠ "") }

/-- A record without an action is stored with an empty one. -/
def storedRow (next : Operation) : Operation := { next with action := some (next.action.getD []) }

def overBudget (enc : Encoding) (data : Fields) : Bool :=
  mcpOpsMaxDataJsonBytes < (enc.object (data.erase dispatchOutboxDataKey)).utf8ByteSize

/-- Data without the dispatch body, within the budget. -/
def clientPart (enc : Encoding) (data : Fields) : Fields :=
  let client := data.erase dispatchOutboxDataKey
  if overBudget enc data then
    boundClientVisibleOperationData client (enc.object client).utf8ByteSize
  else client

def boundedData (enc : Encoding) (data : Fields) : Fields :=
  match data.get dispatchOutboxDataKey with
  | none => clientPart enc data
  | some body => (clientPart enc data).set dispatchOutboxDataKey body

def boundedCursor (enc : Encoding) (data : Fields) (nextCursor : Option String) : Option String :=
  if overBudget enc data then continuation enc (clientPart enc data) nextCursor else nextCursor

def boundedWarnings (enc : Encoding) (data : Fields) (warnings : List String) : List String :=
  if overBudget enc data && !decide ("durable_result_truncated" ∈ warnings) then
    warnings ++ ["durable_result_truncated"]
  else warnings

/-- What the bounds make of a record, column by column. -/
theorem boundMcpOperationRecord_eq {enc : Encoding} {op next : Operation}
    (bounded : boundMcpOperationRecord enc op = .ok next) :
    next = { op with
      data := boundedData enc op.data
      truncated := overBudget enc op.data || op.truncated
      nextCursor := boundedCursor enc op.data op.nextCursor
      warnings := boundedWarnings enc op.data op.warnings
      action := op.action.map (boundAction enc)
      summary := clip 2000 op.summary } := by
  rw [boundMcpOperationRecord] at bounded
  split at bounded
  · cases bounded
  next kept attached =>
    obtain rfl := Except.ok.inj bounded
    have client : boundClientData enc op = { op with
        data := clientPart enc op.data
        truncated := overBudget enc op.data || op.truncated
        nextCursor := boundedCursor enc op.data op.nextCursor
        warnings := boundedWarnings enc op.data op.warnings } := by
      by_cases large : mcpOpsMaxDataJsonBytes <
        (enc.object (op.data.erase dispatchOutboxDataKey)).utf8ByteSize
      · simp [boundClientData, boundedCursor, boundedWarnings, clientPart, overBudget, large]
      · simp [boundClientData, boundedCursor, boundedWarnings, clientPart, overBudget, large]
    rw [client] at attached
    cases body : op.data.get dispatchOutboxDataKey with
    | none =>
      rw [body] at attached
      obtain rfl := Except.ok.inj attached
      simp only [boundedData, body]
    | some body' =>
      rw [body, reattachOutbox] at attached
      dsimp only at attached
      split at attached
      · cases attached
      · obtain rfl := Except.ok.inj attached
        simp only [boundedData, body]

/-- What a change whose merged data are `data` writes into a column that it does not set, when it
has read `cur`. -/
def Column.writtenBack (enc : Encoding) (data : Fields) (cur : Operation) : Column → ColumnValue
  | .summary => .text (clip 2000 cur.summary)
  | .data => .fields (boundedData enc cur.data)
  | .truncated => .flag (overBudget enc data || cur.truncated)
  | .nextCursor => .optional (boundedCursor enc data cur.nextCursor)
  | .warnings => .texts (boundedWarnings enc data cur.warnings)
  | .action => .fields (some ((cur.action.map (boundAction enc)).getD []))
  | column => column.value cur

/-! ## Statements -/

/-- Operations by their ids. -/
abbrev SqlTable : Type := String → Option Operation

inductive SqlCall where
  | select (operationId : String)
  /-- Write the result columns, or all, of a row whose status and data are as given. -/
  | update (operationId : String) (resultOnly : Bool) (next : Operation)
      (statusIn : List OperationStatus) (dataIs : Option Fields)

def SqlCall.Answer : SqlCall → Type
  | select _ => Option Operation
  | update _ _ _ _ _ => Bool

/-- The row after a statement has written its columns. -/
def overwrite (resultOnly : Bool) (next row : Operation) : Operation :=
  if resultOnly then
    { row with
      status := next.status
      summary := next.summary
      data := next.data
      truncated := next.truncated
      nextCursor := next.nextCursor
      approvalRequired := next.approvalRequired
      approvalUrl := next.approvalUrl
      approvalId := next.approvalId
      sessionId := next.sessionId
      warnings := next.warnings
      updatedAt := next.updatedAt }
  else { storedRow next with operationId := row.operationId, createdAt := row.createdAt }

def sameData (enc : Encoding) (row : Operation) (dataIs : Option Fields) : Bool :=
  dataIs.all fun data => enc.object row.data = enc.object data

def SqlCall.serve (enc : Encoding) : Service SqlCall.Answer SqlTable
  | .select operationId, table => ((table operationId).map rowToMcpOperation, table)
  | .update operationId resultOnly next statusIn dataIs, table =>
    match table operationId with
    | none => (false, table)
    | some row =>
      if (statusIn = [] || row.status ∈ statusIn) && sameData enc row dataIs then
        (true, Function.update table operationId (some (overwrite resultOnly next row)))
      else (false, table)

/-! ## Changes -/

/-- A change of an operation, at a time. -/
inductive SqlChange where
  | update (now : Int) (patch : OperationPatch) (fromStatuses : Option (List OperationStatus))
      (expectedData : Option Fields)
  | transition (now : Int) (transition : OperationTransition)
      (fromStatuses : Option (List OperationStatus))

/-- Read the row, merge the change into it, and write it under the guard. -/
def changeRow (enc : Encoding) (operationId : String) (apply : Operation → Operation)
    (resultOnly : Bool) (fromStatuses : Option (List OperationStatus))
    (expectedData : Option Fields) :
    Routine SqlCall.Answer (Except OperationError (Option Operation)) :=
  .ask (.select operationId) fun
    | none => .done (.ok none)
    | some cur =>
      if allowedFrom fromStatuses cur.status && sameData enc cur expectedData then
        match boundMcpOperationRecord enc (apply cur) with
        | .error e => .done (.error e)
        | .ok next =>
          .ask (.update operationId resultOnly next (fromStatuses.getD []) expectedData) fun
            | false => .done (.ok none)
            | true => .ask (.select operationId) fun row => .done (.ok row)
      else .done (.ok none)

def updateMcpOperation (enc : Encoding) (now : Int) (operationId : String)
    (patch : OperationPatch) (fromStatuses : Option (List OperationStatus))
    (expectedData : Option Fields) :
    Routine SqlCall.Answer (Except OperationError (Option Operation)) :=
  changeRow enc operationId (patch.apply now) false fromStatuses expectedData

def transitionMcpOperation (enc : Encoding) (now : Int) (operationId : String)
    (transition : OperationTransition) (fromStatuses : Option (List OperationStatus)) :
    Routine SqlCall.Answer (Except OperationError (Option Operation)) :=
  changeRow enc operationId (transition.apply now) true fromStatuses none

namespace SqlChange

def routine (enc : Encoding) (operationId : String) :
    SqlChange → Routine SqlCall.Answer (Except OperationError (Option Operation))
  | .update now patch fromStatuses expectedData =>
    updateMcpOperation enc now operationId patch fromStatuses expectedData
  | .transition now change fromStatuses =>
    transitionMcpOperation enc now operationId change fromStatuses

/-- The change merged into a row. -/
def apply : SqlChange → Operation → Operation
  | .update now patch _ _ => patch.apply now
  | .transition now change _ => change.apply now

/-- The data of the change merged into a row. -/
def data : SqlChange → Operation → Fields
  | .update _ patch _ _, cur => patch.data.getD cur.data
  | .transition _ change _, cur => change.data.getD cur.data

def resultOnly : SqlChange → Bool
  | .update _ _ _ _ => false
  | .transition _ _ _ => true

/-- The columns that the change sets. -/
def sets : SqlChange → Column → Bool
  | .update _ patch _ _ => patch.sets
  | .transition _ change _ => change.sets

/-- The columns that its statement writes. -/
def writes (q : SqlChange) (column : Column) : Bool := !q.resultOnly || column.isResult

/-- A column that is not set stays as it was read. -/
theorem apply_value {q : SqlChange} {column : Column} (unset : q.sets column = false)
    (cur : Operation) : column.value (q.apply cur) = column.value cur := by
  cases q with cases column
  | update =>
    all_goals
      simp only [sets, OperationPatch.sets, Option.isSome_eq_false_iff,
        Option.isNone_iff_eq_none, Bool.true_eq_false] at unset
      try simp [apply, OperationPatch.apply, Column.value, unset]
  | transition =>
    all_goals
      simp only [sets, OperationTransition.sets, Option.isSome_eq_false_iff,
        Option.isNone_iff_eq_none, Bool.true_eq_false] at unset
      try simp [apply, OperationTransition.apply, Column.value, unset]

/-- What the bounds leave of a column that is not set. -/
theorem bounded_value {enc : Encoding} {q : SqlChange} {cur next : Operation} {column : Column}
    (bounded : boundMcpOperationRecord enc (q.apply cur) = .ok next)
    (unset : q.sets column = false) :
    column.value (storedRow next) = column.writtenBack enc (q.data cur) cur := by
  have merged : (q.apply cur).data = q.data cur := by cases q <;> rfl
  have own := apply_value unset cur
  rw [boundMcpOperationRecord_eq bounded, merged]
  cases column
  all_goals
    simp only [Column.value, ColumnValue.text.injEq, ColumnValue.fields.injEq,
      ColumnValue.optional.injEq, ColumnValue.texts.injEq, ColumnValue.flag.injEq,
      Option.some.injEq, merged] at own
    simp only [Column.value, Column.writtenBack, storedRow, own]

theorem overwrite_value (q : SqlChange) (next row : Operation) (column : Column) :
    column.value (overwrite q.resultOnly next row) =
      if q.writes column then column.value (storedRow next) else column.value row := by
  cases q with
  | update | transition =>
    cases column
    all_goals rfl

/-- The calls of a change: one write, of what the bounds leave of the change merged into the row
that was read before. -/
def Calls (enc : Encoding) (operationId : String) (q : SqlChange)
    (trace : Trace SqlCall.Answer) : SqlCall → Prop
  | .select _ => True
  | .update target resultOnly next _ _ =>
    target = operationId ∧ resultOnly = q.resultOnly ∧ ∃ cur,
      trace = [⟨.select operationId, some cur⟩] ∧
        boundMcpOperationRecord enc (q.apply cur) = .ok next

theorem changeRow_meets {enc : Encoding} {operationId : String} (q : SqlChange)
    (fromStatuses : Option (List OperationStatus)) (expectedData : Option Fields) :
    (changeRow enc operationId q.apply q.resultOnly fromStatuses expectedData).Meets
      (q.Calls enc operationId) (fun _ _ => True) [] := by
  refine ⟨trivial, fun answer => ?_⟩
  rcases (answer : Option Operation) with _ | cur
  · trivial
  dsimp only
  split
  · split
    · trivial
    next next bounded =>
      refine ⟨⟨rfl, rfl, cur, rfl, bounded⟩, fun changed => ?_⟩
      rcases (changed : Bool) with _ | _
      · trivial
      · exact ⟨trivial, fun _ => trivial⟩
  · trivial

theorem routine_meets (enc : Encoding) (operationId : String) (q : SqlChange) :
    (q.routine enc operationId).Meets (q.Calls enc operationId) (fun _ _ => True) [] := by
  cases q with
  | update now patch fromStatuses expectedData =>
    exact changeRow_meets (.update now patch fromStatuses expectedData) fromStatuses expectedData
  | transition now change fromStatuses =>
    exact changeRow_meets (.transition now change fromStatuses) fromStatuses none

end SqlChange

/-! ## Two changes of one row -/

/-- Two calls on the statements of one table. -/
abbrev SqlCalls : Type :=
  Routines SqlCall.Answer (Except OperationError (Option Operation)) SqlTable Bool

abbrev SqlStep (enc : Encoding) : SqlCalls → Turn SqlTable Bool → SqlCalls → Prop :=
  Routines.Step (SqlCall.serve enc) fun _ _ => False

def twoCalls (enc : Encoding) (operationId : String) (calls : Bool → SqlChange)
    (table : SqlTable) : SqlCalls where
  store := table
  routine := fun i => (calls i).routine enc operationId
  trace := fun _ => []

/-- In the state, the call writes the row, and the guard lets it. -/
def Commits (enc : Encoding) (operationId : String) (i : Bool) (s : SqlCalls)
    (next : Operation) : Prop :=
  ∃ resultOnly statusIn dataIs resume,
    s.routine i = .ask (.update operationId resultOnly next statusIn dataIs) resume ∧
      (SqlCall.serve enc (.update operationId resultOnly next statusIn dataIs) s.store).1 = true

section Runs

variable {enc : Encoding} {operationId : String} {calls : Bool → SqlChange} {s t : SqlCalls}
  {turns : List (Turn SqlTable Bool)}

/-- The calls still have to meet what they meet alone. -/
def Sound (enc : Encoding) (operationId : String) (calls : Bool → SqlChange) : SqlCalls → Prop :=
  Routines.Meet (fun i => (calls i).Calls enc operationId) fun _ _ _ => True

/-- What a call that commits has read, and what it leaves in the row. -/
theorem Commits.effect {i : Bool} {next : Operation} (sound : Sound enc operationId calls s)
    (commits : Commits enc operationId i s next) :
    ∃ cur row, s.trace i = [⟨.select operationId, some cur⟩] ∧
      boundMcpOperationRecord enc ((calls i).apply cur) = .ok next ∧
      s.store operationId = some row ∧ (s.resume (SqlCall.serve enc) i).store operationId =
        some (overwrite (calls i).resultOnly next row) ∧
      2 ≤ ((s.resume (SqlCall.serve enc) i).trace i).length := by
  obtain ⟨resultOnly, statusIn, dataIs, resume, asks, changed⟩ := commits
  have mine := sound i
  rw [asks] at mine
  obtain ⟨-, rfl, cur, read, bounded⟩ := mine.1
  rw [resume_ask asks]
  simp only [SqlCall.serve] at changed ⊢
  rcases found : s.store operationId with _ | row
  · rw [found] at changed
    cases changed
  · simp only [found] at changed ⊢
    split at changed
    next guarded =>
      refine ⟨cur, row, read, bounded, rfl, ?_, ?_⟩
      · rw [if_pos guarded]
        exact Function.update_self ..
      · simp [read]
    · cases changed

/-- The reads of a call were answered from the table. -/
def Answered (table : SqlTable) (trace : Trace SqlCall.Answer) : Prop :=
  ∀ target answer, ⟨.select target, answer⟩ ∈ trace →
    answer = (table target).map rowToMcpOperation

/-- While no call writes, the table stays and reads are answered from it. -/
theorem store_of_selects (run : Run (SqlStep enc) s turns t)
    (selects : ∀ mid i c resume, Run.Takes (SqlStep enc) s turns mid (.resume i) →
      mid.routine i = .ask c resume → ∃ target, c = .select target) :
    t.store = s.store ∧ ∀ i, Answered s.store (s.trace i) → Answered s.store (t.trace i) := by
  refine Run.invariant_where
    (I := fun mid => mid.store = s.store ∧
      ∀ i, Answered s.store (s.trace i) → Answered s.store (mid.trace i))
    (C := fun mid turn => ∀ i c resume, turn = .resume i → mid.routine i = .ask c resume →
      ∃ target, c = .select target) ?_ ⟨rfl, fun _ held => held⟩ run ?_
  · rintro mid turn b ⟨same, answered⟩ each ⟨allowed⟩
    cases turn with
    | other store => exact absurd (allowed store rfl) id
    | resume i =>
      cases shape : mid.routine i with
      | done =>
        simp only [Routines.after, Routines.resume_done shape]
        exact ⟨same, answered⟩
      | ask c resume =>
        obtain ⟨target, rfl⟩ := each i c resume rfl shape
        simp only [Routines.after, Routines.resume_ask shape]
        refine ⟨same, fun j held => ?_⟩
        by_cases own : j = i
        · subst own
          rw [Function.update_self]
          intro other answer mem
          rcases mem_append.mp mem with earlier | isLast
          · exact answered j held other answer earlier
          · cases mem_singleton.mp isLast
            exact congrArg (Option.map rowToMcpOperation) (congrFun same target)
        · rw [Function.update_of_ne own]
          exact answered j held
  · rintro mid turn takes i c resume rfl asks
    exact selects mid i c resume takes asks

/-- A call that has made two calls writes no more. -/
theorem select_of_two {i : Bool} {c : SqlCall}
    {resume : c.Answer → Routine SqlCall.Answer (Except OperationError (Option Operation))}
    (sound : Sound enc operationId calls s) (two : 2 ≤ (s.trace i).length)
    (asks : s.routine i = .ask c resume) : ∃ target, c = .select target := by
  have mine := sound i
  rw [asks] at mine
  cases c with
  | select target => exact ⟨target, rfl⟩
  | update =>
    obtain ⟨-, -, cur, read, -⟩ := mine.1
    rw [read] at two
    exact absurd two (by simp)

theorem two_of_run {i : Bool} (run : Run (SqlStep enc) s turns t)
    (two : 2 ≤ (s.trace i).length) : 2 ≤ (t.trace i).length :=
  Nat.le_trans two (trace_grows run i).length_le

end Runs

/-- What the first change has put into the row is there after the second, in every column that
the second does not set. -/
def Keeps (first second : SqlChange) (before after : Operation) : Prop :=
  ∀ column, first.sets column → second.sets column = false →
    column.value after = column.value before

theorem keeps_overwrite_iff {enc : Encoding} (first : SqlChange) {second : SqlChange}
    {cur next : Operation} (committed : Operation)
    (bounded : boundMcpOperationRecord enc (second.apply cur) = .ok next) :
    Keeps first second committed (overwrite second.resultOnly next committed) ↔
      ∀ column, first.sets column → second.sets column = false → second.writes column →
        column.writtenBack enc (second.data cur) cur = column.value committed := by
  refine forall_congr' fun column => forall_congr' fun _ => forall_congr' fun unset => ?_
  rw [SqlChange.overwrite_value, SqlChange.bounded_value bounded unset]
  split
  next written => exact ⟨fun same _ => same, fun same => same written⟩
  next kept => exact iff_of_true rfl fun written => absurd written kept

/-- **Lost updates.**  Let two changes of one operation run in any interleaving, and let `a`
commit first.  What it has put into the row stays if and only if, in each column that `a` has set
and the other has not, and that the other's statement writes, what the other writes back of the
row it has read is what `a` has put there.  If it read after `a` had committed, the row it has
read is that of `a`, converted. -/
theorem no_lost_update_iff (enc : Encoding) (operationId : String) (calls : Bool → SqlChange)
    (table : SqlTable) (a : Bool) {earlier between after : List (Turn SqlTable Bool)}
    {s m t : SqlCalls} {nextA nextB : Operation}
    (before : Run (SqlStep enc) (twoCalls enc operationId calls table) earlier s)
    (first : Commits enc operationId a s nextA)
    (middle : Run (SqlStep enc) (s.resume (SqlCall.serve enc) a) between m)
    (second : Commits enc operationId (!a) m nextB)
    (rest : Run (SqlStep enc) (m.resume (SqlCall.serve enc) (!a)) after t) :
    ∃ cur committed final, m.trace (!a) = [⟨.select operationId, some cur⟩] ∧
      (s.resume (SqlCall.serve enc) a).store operationId = some committed ∧
      t.store operationId = some final ∧
      (Keeps (calls a) (calls (!a)) committed final ↔
        ∀ column, (calls a).sets column → (calls (!a)).sets column = false →
          (calls (!a)).writes column →
            column.writtenBack enc ((calls (!a)).data cur) cur = column.value committed) ∧
      (s.trace (!a) = [] → cur = rowToMcpOperation committed) := by
  have sound : Sound enc operationId calls s :=
    Routines.Meet.run (fun i => (calls i).routine_meets enc operationId) before
  have resumed (i : Bool) (mid : SqlCalls) :
      SqlStep enc mid (.resume i) (mid.resume (SqlCall.serve enc) i) := turn_taken i mid
  have soundA : Sound enc operationId calls (s.resume (SqlCall.serve enc) a) :=
    sound.step (resumed a s)
  have soundM : Sound enc operationId calls m := soundA.run middle
  have soundB : Sound enc operationId calls (m.resume (SqlCall.serve enc) (!a)) :=
    soundM.step (resumed (!a) m)
  obtain ⟨_, _, -, -, -, -, twoA⟩ := first.effect sound
  obtain ⟨cur, row, read, bounded, isRow, isFinal, twoB⟩ := second.effect soundM
  have kept := store_of_selects middle (by
    rintro mid i c resume takes asks
    obtain ⟨earlier, later, split, reached⟩ := id takes
    by_cases own : i = a
    · subst own
      exact select_of_two (soundA.run reached) (two_of_run reached twoA) asks
    · obtain rfl := Bool.eq_not.mpr own
      have made := mem_trace_of_takes middle takes asks
      rw [read] at made
      exact ⟨operationId, congrArg Sigma.fst (mem_singleton.mp made)⟩)
  have last := store_of_selects rest (by
    rintro mid i c resume ⟨earlier, later, split, reached⟩ asks
    refine select_of_two (soundB.run reached) (two_of_run reached ?_) asks
    by_cases own : i = a
    · subst own
      exact two_of_run (.next (resumed (!i) m) (.done _)) (two_of_run middle twoA)
    · obtain rfl := Bool.eq_not.mpr own
      exact twoB)
  rw [kept.1] at isRow
  refine ⟨cur, row, _, read, isRow, (congrFun last.1 _).trans isFinal,
    keeps_overwrite_iff (calls a) row bounded, fun unread => ?_⟩
  have start : (s.resume (SqlCall.serve enc) a).trace (!a) = [] := by
    obtain ⟨_, _, _, _, asks, -⟩ := first
    rw [resume_ask asks]
    simp [unread]
  have answered := kept.2 (!a) (by simp [Answered, start]) operationId (some cur) (by simp [read])
  rw [isRow] at answered
  exact Option.some.inj answered

/-! ## A session that is lost -/

def sharedRow : Operation where
  operationId := "op_1"
  tenantId := "tenant_1"
  principalId := "user_1"
  deviceId := some "dev_1"
  tool := "ownmesh_command_run"
  status := .pending
  summary := ""
  data := []
  truncated := false
  approvalRequired := false
  warnings := []
  correlationId := some "op_1"
  claimVersion := 1
  createdAt := 0
  updatedAt := 0

/-- One call records the session of the operation, the other that it runs. -/
def racingCalls : Bool → SqlChange
  | true => .update 1 { sessionId := some (some "ses_1") } (some [.pending, .running]) none
  | false => .transition 2 { status := .running } (some [.pending])

def plainEncoding : Encoding := ⟨fun _ => "", fun _ => "", fun _ => ""⟩

def racingStart : SqlCalls :=
  twoCalls plainEncoding "op_1" racingCalls fun id => if id = "op_1" then some sharedRow else none

/-- The calls take turns: both read, then each writes and reads its answer. -/
def racingTurns (turns : List Bool) : SqlCalls :=
  turns.foldl (fun s i => s.resume (SqlCall.serve plainEncoding) i) racingStart

theorem racing_run (turns more : List Bool) :
    Run (SqlStep plainEncoding) (racingTurns turns) (more.map Turn.resume)
      (racingTurns (turns ++ more)) := by
  induction more generalizing turns with
  | nil =>
    rw [append_nil]
    exact .done _
  | cons i rest ih =>
    refine .next (turn_taken i _) ?_
    have follows := ih (turns ++ [i])
    rw [racingTurns, foldl_append, append_assoc] at follows
    exact follows

/-- Both calls succeed, and the session that the first has recorded is gone. -/
theorem session_lost : Run (SqlStep plainEncoding) racingStart
        ([true, false, true, false, true, false].map Turn.resume)
        (racingTurns [true, false, true, false, true, false]) ∧
      (∃ record, (racingTurns [true, false, true, false, true, false]).routine true =
        .done (.ok (some record))) ∧
      (∃ record, (racingTurns [true, false, true, false, true, false]).routine false =
        .done (.ok (some record))) ∧
      ((racingTurns [true, false, true]).store "op_1").map Operation.sessionId =
        some (some "ses_1") ∧
      ((racingTurns [true, false, true, false, true, false]).store "op_1").map
        Operation.sessionId = some none :=
  ⟨racing_run [] _, ⟨_, rfl⟩, ⟨_, rfl⟩, rfl, rfl⟩

/-- The second call writes back a session that it had read before. -/
theorem session_written_back :
    ∃ committed final, (racingTurns [true, false, true]).store "op_1" = some committed ∧
      (racingTurns [true, false, true, false]).store "op_1" = some final ∧
      ¬ Keeps (racingCalls true) (racingCalls false) committed final := by
  obtain ⟨cur, committed, final, isRead, isCommitted, isFinal, keeps, -⟩ :=
    no_lost_update_iff plainEncoding "op_1" racingCalls _ true (racing_run [] [true, false])
      ⟨_, _, _, _, rfl, rfl⟩ (.done _) ⟨_, _, _, _, rfl, rfl⟩ (.done _)
  refine ⟨committed, final, isCommitted, isFinal, fun kept => ?_⟩
  have same := keeps.mp kept .sessionId rfl rfl rfl
  obtain rfl := Option.some.inj isCommitted
  cases isRead
  cases same

end OwnMesh.ControlPlane
