import OwnMesh.ControlPlane.Operation
import OwnMesh.Foundations.Routine
import OwnMesh.Foundations.Rows

/-!
# The stores that a device room calls

A device room reads and writes the operations, the workspaces and the devices of its owner
through calls to a store.  A call is one step of the store; between two calls of a room others
may call too.  `StoreCall` lists the calls, and `serve` says what each does to the tables.

`authority` stands for the tables that the checks of an operation's authority read: whether a
workspace binding and a credential generation are current is answered from outside.
-/

namespace OwnMesh.ControlPlane

open Foundations

/-! ## Workspaces and devices -/

structure Workspace where
  (workspaceId tenantId deviceId ownerPrincipalId : String)
  version : Nat
  localGeneration : Option String
  active : Bool
  (createdAt updatedAt : Int)
deriving DecidableEq

inductive DeviceStatus where
  | pending
  | active
  | revoked
deriving DecidableEq

structure Device where
  (id tenantId principalId name hostname os arch agentVersion protocolVersion : String)
  enforceWorkspace : Option Bool
  publicKey : String
  revoked : Bool
  createdAt : Int
  lastSeenAt : Option Int
  status : DeviceStatus
deriving DecidableEq

/-- The value as the generation of a workspace: `wsg_` and 32 hexadecimal digits. -/
def parseWorkspaceGeneration (value : Option Json) : Option String :=
  match value with
  | some (.text generation) =>
    let digits := generation.toList.drop 4
    if generation.toList.take 4 = "wsg_".toList && digits.length = 32 && digits.all isLowerHex
    then some generation
    else none
  | _ => none

/-- The value as the id of a workspace. -/
def parseWorkspaceId (value : Option Json) : Option String :=
  match value with
  | some (.text id) =>
    match id.toList with
    | first :: rest =>
      if first.isAlphanum && rest.length ≤ 127 &&
          rest.all fun c => c.isAlphanum || c = '.' || c = '_' || c = '-'
      then some id
      else none
    | [] => none
  | _ => none

/-- What is known of a workspace once a device has advertised a generation of it. -/
def applyObservedGeneration (existing : Option Workspace) (workspaceId deviceId tenantId
    ownerPrincipalId generation : String) (observedAt : Int) : Workspace :=
  match existing with
  | none =>
    { workspaceId := workspaceId
      tenantId := tenantId
      deviceId := deviceId
      ownerPrincipalId := ownerPrincipalId
      version := 1
      localGeneration := some generation
      active := true
      createdAt := observedAt
      updatedAt := observedAt }
  | some workspace =>
    -- a removed workspace keeps its generation, and a stale listing does not revive it
    if !workspace.active && workspace.localGeneration = some generation then workspace
    else if workspace.active && workspace.localGeneration = some generation then workspace
    else
      { workspace with
        active := true
        version := workspace.version + 1
        localGeneration := some generation
        updatedAt := observedAt }

/-! ## Calls -/

inductive WorkspaceAuthorityResult where
  | ok
  | bindingMismatch
  | changed
  | storageUnavailable
deriving DecidableEq

inductive CredentialGenerationResult where
  | ok
  | bindingMismatch
  | mismatch
  | storageUnavailable
deriving DecidableEq

/-- What the checks of an operation's authority answer. -/
structure Authority where
  workspace : Fields → Option Operation → WorkspaceAuthorityResult
  credential : Fields → CredentialGenerationResult

structure Stores where
  now : Int
  operations : List Operation
  workspaces : List Workspace
  devices : List Device
  authority : Authority

inductive StoreCall where
  | getOperation (operationId : String)
  | getByCorrelation (correlationId : String)
  | updateOperation (operationId : String) (patch : OperationPatch)
      (fromStatuses : List OperationStatus)
  | transitionOperation (operationId : String) (transition : OperationTransition)
      (fromStatuses : List OperationStatus)
  | getDevice (deviceId : String)
  | getWorkspace (deviceId workspaceId : String)
  | observeWorkspaceGeneration (deviceId workspaceId generation : String)
  | deactivateWorkspace (deviceId workspaceId : String)
  | recordObservedWorkspaceEnforcement (deviceId : String) (enforceWorkspace : Bool)
  | workspaceAuthorityCurrent (payload : Fields) (operation : Option Operation)
  | credentialGenerationCurrent (payload : Fields)

/-- What a call is answered with; a change of an operation may be refused by an error. -/
def StoreCall.Answer : StoreCall → Type
  | getOperation _ => Option Operation
  | getByCorrelation _ => Option Operation
  | updateOperation _ _ _ => Except OperationError (Option Operation)
  | transitionOperation _ _ _ => Except OperationError (Option Operation)
  | getDevice _ => Option Device
  | getWorkspace _ _ => Option Workspace
  | observeWorkspaceGeneration _ _ _ => Option Workspace
  | deactivateWorkspace _ _ => Option Workspace
  | recordObservedWorkspaceEnforcement _ _ => Option Device
  | workspaceAuthorityCurrent _ _ => WorkspaceAuthorityResult
  | credentialGenerationCurrent _ => CredentialGenerationResult

namespace Stores

variable (enc : Encoding) (s : Stores)

/-! ## Operations -/

def getOperation (operationId : String) : Option Operation :=
  s.operations.find? fun op => op.operationId = operationId

/-- The newest operation of a correlation. -/
def getByCorrelation (correlationId : String) : Option Operation :=
  (s.operations.filter fun op => op.correlationId = some correlationId).foldl
    (fun newest op =>
      match newest with
      | none => some op
      | some best => if best.createdAt < op.createdAt then some op else some best) none

/-- Write a changed operation in the place of the stored one. -/
def writeOperation (operationId : String) (next : Operation) : Stores :=
  { s with
    operations := s.operations.map fun op => if op.operationId = operationId then next else op }

/-- Change a stored operation, if its status allows it. -/
def changeOperation (operationId : String) (change : Operation → Operation)
    (fromStatuses : List OperationStatus) : Except OperationError (Option Operation) × Stores :=
  match s.getOperation operationId with
  | none => (.ok none, s)
  | some cur =>
    if allowedFrom (some fromStatuses) cur.status then
      match boundMcpOperationRecord enc (change cur) with
      | .error e => (.error e, s)
      | .ok next => (.ok (some next), s.writeOperation operationId next)
    else (.ok none, s)

/-- What a change of an operation does: nothing, or it writes the changed row. -/
theorem changeOperation_cases (target : String) (change : Operation → Operation)
    (fromStatuses : List OperationStatus) :
    ((∀ record, (s.changeOperation enc target change fromStatuses).1 ≠ .ok (some record)) ∧
        (s.changeOperation enc target change fromStatuses).2 = s) ∨
      ∃ cur record, cur ∈ s.operations ∧ cur.operationId = target ∧ SameRecord (change cur) record ∧
        (s.changeOperation enc target change fromStatuses).1 = .ok (some record) ∧
        (s.changeOperation enc target change fromStatuses).2 = s.writeOperation target record := by
  rw [changeOperation]
  split
  · exact .inl ⟨by simp, rfl⟩
  next cur found =>
    have isTarget : cur.operationId = target := by
      have selected := List.find?_some found
      exact of_decide_eq_true selected
    split
    · split
      · exact .inl ⟨by simp, rfl⟩
      next record bounded =>
        exact .inr ⟨cur, record, List.mem_of_find?_eq_some found, isTarget,
          boundMcpOperationRecord_same bounded, rfl, rfl⟩
    · exact .inl ⟨by simp, rfl⟩

/-! ## Workspaces and devices -/

def getDevice (deviceId : String) : Option Device :=
  s.devices.find? fun device => device.id = deviceId

/-- The stored workspace; an empty generation counts as none. -/
def getWorkspace (deviceId workspaceId : String) : Option Workspace :=
  (s.workspaces.find? fun row => (row.deviceId, row.workspaceId) = (deviceId, workspaceId)).map
    fun row => { row with localGeneration := row.localGeneration.filter (· ≠ "") }

/-- Insert a workspace, or write it over the one with its id.  The creation date of a stored
row stays, and so does its generation where the new one has none. -/
def putWorkspace (workspace : Workspace) : Stores :=
  let isSame (row : Workspace) : Bool :=
    (row.deviceId, row.workspaceId) = (workspace.deviceId, workspace.workspaceId)
  if s.workspaces.any isSame then
    { s with
      workspaces := s.workspaces.map fun row =>
        if isSame row then
          { workspace with
            createdAt := row.createdAt
            localGeneration := workspace.localGeneration <|> row.localGeneration }
        else row }
  else { s with workspaces := s.workspaces ++ [workspace] }

def isActive (device : Device) : Bool := !device.revoked && device.status = .active

def observeWorkspaceGeneration (deviceId workspaceId generation : String) :
    Option Workspace × Stores :=
  if (parseWorkspaceId (some (.text workspaceId))).isNone ||
      (parseWorkspaceGeneration (some (.text generation))).isNone then (none, s)
  else
    match (s.getDevice deviceId).filter isActive with
    | none => (none, s)
    | some device =>
      let existing := s.getWorkspace deviceId workspaceId
      let owner := ((existing.map (·.ownerPrincipalId)).filter (· ≠ "")).getD device.principalId
      let next := applyObservedGeneration existing workspaceId deviceId device.tenantId owner
        generation s.now
      let stored := s.putWorkspace next
      (stored.getWorkspace deviceId workspaceId, stored)

def deactivateWorkspace (deviceId workspaceId : String) : Option Workspace × Stores :=
  match s.getWorkspace deviceId workspaceId with
  | none => (none, s)
  | some existing =>
    let stored := s.putWorkspace { existing with active := false, updatedAt := s.now }
    (stored.getWorkspace deviceId workspaceId, stored)

def recordObservedWorkspaceEnforcement (deviceId : String) (enforceWorkspace : Bool) :
    Option Device × Stores :=
  match (s.getDevice deviceId).filter isActive with
  | none => (none, s)
  | some _ =>
    let stored : Stores :=
      { s with
        devices := s.devices.map fun device =>
          if device.id = deviceId && isActive device then
            { device with enforceWorkspace := some enforceWorkspace }
          else device }
    (stored.getDevice deviceId, stored)

/-! ## The service -/

/-- What a call answers and leaves. -/
def serve : Service StoreCall.Answer Stores
  | .getOperation operationId, s => (s.getOperation operationId, s)
  | .getByCorrelation correlationId, s => (s.getByCorrelation correlationId, s)
  | .updateOperation operationId patch fromStatuses, s =>
    s.changeOperation enc operationId (patch.apply s.now) fromStatuses
  | .transitionOperation operationId transition fromStatuses, s =>
    s.changeOperation enc operationId (transition.apply s.now) fromStatuses
  | .getDevice deviceId, s => (s.getDevice deviceId, s)
  | .getWorkspace deviceId workspaceId, s => (s.getWorkspace deviceId workspaceId, s)
  | .observeWorkspaceGeneration deviceId workspaceId generation, s =>
    s.observeWorkspaceGeneration deviceId workspaceId generation
  | .deactivateWorkspace deviceId workspaceId, s => s.deactivateWorkspace deviceId workspaceId
  | .recordObservedWorkspaceEnforcement deviceId enforceWorkspace, s =>
    s.recordObservedWorkspaceEnforcement deviceId enforceWorkspace
  | .workspaceAuthorityCurrent payload operation, s =>
    (s.authority.workspace payload operation, s)
  | .credentialGenerationCurrent payload, s => (s.authority.credential payload, s)

end Stores

end OwnMesh.ControlPlane
