import OwnMesh.Foundations.Table
import OwnMesh.Ipc.Value

/-!
# Entries of the operation journal

The daemon remembers, per idempotency key, whether the side effect of that key is
running, finished, or in a state it cannot interpret.  An entry is a JSON value;
`opJournalEntryState` classifies it and fails closed, so that only an entry with
positive proof of completion counts as completed.

Before an entry is written to disk a completed one is reduced to a bounded
receipt (`durableReceipt`).  The two facts the rest of the journal rests on are
`durableReceipt_completed`, a receipt is again a completed entry, and
`durableReceipt_idem`, reducing a receipt changes nothing.
-/

namespace OwnMesh.OpJournal

open Foundations Ipc

/-! ## Field names and budgets -/

def stateField : String := "__ownmesh_operation_state"
def inProgressMark : String := "in_progress"
def recoveryStateField : String := "__ownmesh_recovery_state"
def recoveredUnixField : String := "__ownmesh_recovered_unix"
def recoverableOrphaned : String := "recoverable_orphaned"
def completedUnixField : String := "__ownmesh_completed_unix"

def maxOpJournalEntries : Nat := 4096
def maxOpJournalFileBytes : Nat := 4 * 1024 * 1024
def completedTtlSecs : Int := 30 * 24 * 60 * 60

/-! ## Classification -/

/-- What an entry says about the side effect of its key. -/
inductive OpJournalEntryState where
  | inProgress
  | uncertain
  | completed
deriving DecidableEq, Repr

/-- The string at a field of an object. -/
def stringAt (value : Value) (field : String) : Option String :=
  (value.get field).bind Value.asStr

/-- A field that holds a non-empty string. -/
def hasText (value : Value) (field : String) : Bool :=
  match stringAt value field with
  | some text => text != ""
  | none => false

def hasExactOnceOperationId (value : Value) : Bool := hasText value "operation_id"

/-- Completion proof of result bodies written before receipts had a marker. -/
def legacyCompletedBody (value : Value) : Bool :=
  hasText value "operation_id" &&
    (hasText value "decision" ||
      ((value.get "approval_required").any Value.isBoolean) ||
      hasText value "review_id")

/-- The classification of an entry; whatever has no positive proof is uncertain. -/
def opJournalEntryState (value : Value) : OpJournalEntryState :=
  if value.isObject then
    match value.get stateField with
    | none =>
      if (value.get "durable_receipt").bind Value.asBool = some true &&
          hasExactOnceOperationId value then .completed
      else if legacyCompletedBody value then .completed
      else .uncertain
    | some mark =>
      match mark.asStr with
      | some text =>
        if text = inProgressMark then .inProgress
        else if text = "completed" && hasExactOnceOperationId value then .completed
        else .uncertain
      | none => .uncertain
  else .uncertain

def isOpJournalUncertain (value : Value) : Bool :=
  opJournalEntryState value != .completed

def isOpJournalRecoverableOrphan (value : Value) : Bool :=
  opJournalEntryState value == .inProgress &&
    stringAt value recoveryStateField == some recoverableOrphaned

/-- The completion stamp of an entry, if it holds a 64-bit integer. -/
def completedUnix (value : Value) : Option Int :=
  (value.get completedUnixField).bind Value.asI64

/-- The retention window of a stamped entry has passed. -/
def expiredAt (now : Int) (value : Value) : Bool :=
  match completedUnix value with
  | some stamp => decide (0 < stamp ∧ completedTtlSecs ≤ now - stamp)
  | none => false

/-! ## Receipts -/

/-- The terminal phase a review receipt carries. -/
def receiptPhase (value : Value) : Option Value :=
  (value.get "phase").filter Value.isString

/-- The status a receipt reports: the entry's own, unless a terminal phase says
otherwise. -/
def receiptStatus (value : Value) : Value :=
  match (receiptPhase value).bind Value.asStr with
  | some phase =>
    if (phase = "completed" ∨ phase = "failed" ∨ phase = "cancelled") ∧
        (phase ≠ "completed" ∨ value.get "status" = none) then .string phase
    else (value.get "status").getD (.string "completed")
  | none => (value.get "status").getD (.string "completed")

/-- A terminal flag survives when it is a boolean or a number. -/
def terminalFlag (value : Value) (flag : String) : Option Value :=
  (value.get flag).filter fun v => v.isBoolean || v.isNumber

/-- An identifier survives when it is a string of 1 to 256 bytes. -/
def boundedId (value : Value) (field : String) : Option Value :=
  (value.get field).filter fun v =>
    match v.asStr with
    | some text => text != "" && decide (text.utf8ByteSize ≤ 256)
    | none => false

def objectAt (value : Value) (field : String) : Option Value :=
  (value.get field).filter Value.isObject

/-- The fields of the receipt of a completed entry, in the order they are set. -/
def receiptFields (value : Value) : List (String × Option Value) :=
  [("durable_receipt", some (.bool true)),
   ("truncated", some (.bool true)),
   ("status", some (receiptStatus value)),
   ("note", some (.string "op-journal entry compacted before durable persistence")),
   ("closed", terminalFlag value "closed"),
   ("detached", terminalFlag value "detached"),
   ("terminated", terminalFlag value "terminated"),
   ("reconciled", terminalFlag value "reconciled"),
   ("live_pty", terminalFlag value "live_pty"),
   ("operation_id", value.get "operation_id"),
   (completedUnixField, value.get completedUnixField),
   ("remote_payload_hash", value.get "remote_payload_hash"),
   ("review_id", value.get "review_id"),
   ("workspace_id", value.get "workspace_id"),
   ("phase", receiptPhase value),
   ("id", boundedId value "id"),
   ("session_id", boundedId value "session_id"),
   ("controller_epoch", (value.get "controller_epoch").filter Value.isInteger),
   ("controller", objectAt value "controller"),
   ("lease", objectAt value "lease"),
   ("session", objectAt value "session"),
   ("error", objectAt value "error")]

/-- The bounded receipt of a completed entry. -/
def durableReceipt (value : Value) : Value :=
  .object fun field =>
    ((receiptFields value).find? fun entry => entry.1 == field).bind Prod.snd

/-- What the disk keeps of an entry: a receipt of a completed one, any other entry
as it stands. -/
def durableEntry (value : Value) : Value :=
  if opJournalEntryState value = .completed then durableReceipt value else value

/-- What the disk keeps of a journal. -/
def opJournalDurableView (journal : Table String Value) : Table String Value :=
  journal.mapValues fun _ value => durableEntry value

/-! ## What a receipt keeps -/

section Receipts

variable (value : Value)

theorem durableReceipt_operationId :
    (durableReceipt value).get "operation_id" = value.get "operation_id" := rfl

theorem durableReceipt_phase : (durableReceipt value).get "phase" = receiptPhase value := rfl

theorem durableReceipt_status :
    (durableReceipt value).get "status" = some (receiptStatus value) := rfl

theorem hasExactOnceOperationId_durableReceipt :
    hasExactOnceOperationId (durableReceipt value) = hasExactOnceOperationId value := by
  simp only [hasExactOnceOperationId, hasText, stringAt, durableReceipt_operationId]

variable {value}

theorem hasExactOnceOperationId_of_completed (done : opJournalEntryState value = .completed) :
    hasExactOnceOperationId value = true := by
  unfold opJournalEntryState at done
  split at done
  · split at done
    · split at done
      · rename_i marked
        exact (Bool.and_eq_true _ _ ▸ marked).2
      · split at done
        · rename_i legacy
          exact (Bool.and_eq_true _ _ ▸ legacy).1
        · cases done
    · split at done
      · split at done
        · cases done
        · split at done
          · rename_i marked
            exact (Bool.and_eq_true _ _ ▸ marked).2
          · cases done
      · cases done
  · cases done

theorem durableReceipt_completed (done : opJournalEntryState value = .completed) :
    opJournalEntryState (durableReceipt value) = .completed := by
  have named := hasExactOnceOperationId_of_completed done
  have unmarked : (durableReceipt value).get stateField = none := rfl
  have receipt : (durableReceipt value).get "durable_receipt" = some (.bool true) := rfl
  have object : (durableReceipt value).isObject = true := rfl
  simp [opJournalEntryState, unmarked, receipt, object, Value.asBool,
    hasExactOnceOperationId_durableReceipt, named]

theorem opJournalEntryState_durableEntry (value : Value) :
    opJournalEntryState (durableEntry value) = opJournalEntryState value := by
  by_cases done : opJournalEntryState value = .completed
  · rw [durableEntry, if_pos done, durableReceipt_completed done, done]
  · rw [durableEntry, if_neg done]

theorem receiptPhase_durableReceipt (value : Value) :
    receiptPhase (durableReceipt value) = receiptPhase value := by
  simp only [receiptPhase, durableReceipt_phase, Option.filter_filter, Bool.and_self]

theorem receiptStatus_durableReceipt (value : Value) :
    receiptStatus (durableReceipt value) = receiptStatus value := by
  rw [receiptStatus, receiptPhase_durableReceipt, durableReceipt_status]
  simp only [reduceCtorEq, or_false, Option.getD_some]
  cases phase : (receiptPhase value).bind Value.asStr with
  | none => rfl
  | some =>
    simp only
    split
    · rename_i terminal
      -- a terminal phase other than `completed` was already the status
      simp only [receiptStatus, phase]
      rw [if_pos ⟨terminal.1, .inl terminal.2⟩]
    · rfl

/-- Reducing a receipt again changes nothing. -/
theorem durableReceipt_idem (value : Value) :
    durableReceipt (durableReceipt value) = durableReceipt value := by
  have fields : receiptFields (durableReceipt value) = receiptFields value := by
    rw [receiptFields, receiptStatus_durableReceipt, receiptPhase_durableReceipt]
    simp [receiptFields, terminalFlag, boundedId, objectAt, durableReceipt,
      completedUnixField, Option.filter_filter]
  rw [durableReceipt, fields]
  rfl

theorem durableEntry_idem (value : Value) :
    durableEntry (durableEntry value) = durableEntry value := by
  by_cases done : opJournalEntryState value = .completed
  · simp only [durableEntry, done, if_true, durableReceipt_completed done, durableReceipt_idem]
  · simp only [durableEntry, done, if_false]

/-! ## Fields that do not classify -/

/-- The fields the classification of an entry reads. -/
def classifyingFields : List String :=
  [stateField, "durable_receipt", "operation_id", "decision", "approval_required", "review_id"]

variable {field : String}

/-- Setting any other field leaves the classification alone. -/
theorem opJournalEntryState_insert (other : field ∉ classifyingFields) (value set : Value) :
    opJournalEntryState (value.insert field set) = opJournalEntryState value := by
  have agree : ∀ name ∈ classifyingFields, (value.insert field set).get name = value.get name := by
    intro name member
    refine Value.get_insert_ne _ ?_ _
    rintro rfl
    exact other member
  simp only [classifyingFields, List.forall_mem_cons] at agree
  obtain ⟨state, receipt, operation, decision, approval, review, -⟩ := agree
  unfold opJournalEntryState legacyCompletedBody hasExactOnceOperationId hasText stringAt
  rw [Value.isObject_insert, state, receipt, operation, decision, approval, review]

/-- Two lists of optional fields with the same names that agree at a name give the
same value there. -/
theorem find_bind_congr {first second : List (String × Option Value)}
    (agree : List.Forall₂ (fun a b => a.1 = b.1 ∧ (a.1 = field → a.2 = b.2)) first second) :
    (first.find? fun entry => entry.1 == field).bind Prod.snd =
      (second.find? fun entry => entry.1 == field).bind Prod.snd := by
  induction agree with
  | nil => rfl
  | @cons a b _ _ head _ ih =>
    obtain ⟨sameName, sameValue⟩ := head
    by_cases here : a.1 = field
    · have there : b.1 = field := sameName ▸ here
      simp [here, there, sameValue here]
    · have there : b.1 ≠ field := sameName ▸ here
      simpa [here, there] using ih

/-- Entries that differ in their stamp only have receipts that do. -/
theorem receiptFields_congr {first second : Value}
    (agree : ∀ name, name ≠ completedUnixField → first.get name = second.get name)
    (elsewhere : field ≠ completedUnixField) :
    List.Forall₂ (fun a b => a.1 = b.1 ∧ (a.1 = field → a.2 = b.2))
      (receiptFields first) (receiptFields second) := by
  simp only [receiptFields, receiptStatus, receiptPhase, terminalFlag, boundedId, objectAt,
    agree "status" (by decide), agree "phase" (by decide), agree "closed" (by decide),
    agree "detached" (by decide), agree "terminated" (by decide), agree "reconciled" (by decide),
    agree "live_pty" (by decide), agree "operation_id" (by decide),
    agree "remote_payload_hash" (by decide), agree "review_id" (by decide),
    agree "workspace_id" (by decide), agree "id" (by decide), agree "session_id" (by decide),
    agree "controller_epoch" (by decide), agree "controller" (by decide),
    agree "lease" (by decide), agree "session" (by decide), agree "error" (by decide),
    List.forall₂_cons, List.forall₂_nil_right_iff, true_and, and_true, implies_true]
  exact fun same => absurd same.symm elsewhere

/-- The receipt of a stamped entry is the stamped receipt. -/
theorem durableReceipt_insert_completedUnix (value stamp : Value) (object : value.isObject) :
    durableReceipt (value.insert completedUnixField stamp) =
      (durableReceipt value).insert completedUnixField stamp := by
  refine congrArg Value.object (funext fun field => ?_)
  by_cases here : field = completedUnixField
  · rw [here, Function.update_self]
    exact Value.get_insert_self object _ _
  · rw [Function.update_of_ne here]
    exact find_bind_congr
      (receiptFields_congr (fun name different => Value.get_insert_ne _ different _) here)

end Receipts

end OwnMesh.OpJournal
