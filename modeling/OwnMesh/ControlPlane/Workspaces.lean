import OwnMesh.ControlPlane.Stores

/-!
# The generations of a workspace

A device advertises a workspace under a generation, and a removal leaves the generation in the
row as a tombstone.  A call that observes a generation, or that deactivates the workspace, reads
the row and later writes all of it back.  Here the calls on one workspace take turns at the reads
and the writes.  The checks of the device and of the id come before the read: a call that they
refuse is left out.
-/

namespace OwnMesh.ControlPlane

open Foundations Function

/-- What `putWorkspace` makes of the row of the workspace. -/
def Workspace.replacing (next : Workspace) : Option Workspace → Workspace
  | none => next
  | some old =>
    { next with
      createdAt := old.createdAt, localGeneration := next.localGeneration <|> old.localGeneration }

structure Observation where
  (workspaceId deviceId tenantId ownerPrincipalId generation : String)
  observedAt : Int

/-- A call that has read the row. -/
inductive WorkspaceCall where
  | observe (existing : Option Workspace) (input : Observation)
  | deactivate (existing : Workspace) (now : Int)

/-- What the call writes. -/
def WorkspaceCall.next : WorkspaceCall → Workspace
  | .observe existing input =>
    applyObservedGeneration existing input.workspaceId input.deviceId input.tenantId
      input.ownerPrincipalId input.generation input.observedAt
  | .deactivate existing now => { existing with active := false, updatedAt := now }

/-- The row and the calls on their way.  `retired` has the generations that have been superseded
or deactivated; no call reads it. -/
structure Generations where
  row : Option Workspace
  calls : Nat → Option WorkspaceCall := fun _ => none
  retired : List String

/-- A call starts with its read, which may fail, or writes. -/
inductive GenerationEvent where
  | observe (call : Nat) (input : Observation) (failed : Bool)
  | deactivate (call : Nat) (now : Int) (failed : Bool)
  | write (call : Nat)

namespace Generations

/-- Before the calls a row that is there may be a tombstone already. -/
def start (row : Option Workspace) : Generations where
  row := row
  retired := ((row.filter (!·.active)).bind (·.localGeneration)).toList

/-- A generation that the row stops to serve is retired. -/
def put (g : Generations) (next : Workspace) : Generations :=
  { g with
    row := some next
    retired := g.retired ++ (g.row.bind (·.localGeneration)).toList.filter fun old =>
      !(next.active && next.localGeneration = some old) }

/-- A read that fails counts as no row. -/
def getWorkspace (g : Generations) (failed : Bool) : Option Workspace :=
  if failed then none else g.row

def step (g : Generations) : GenerationEvent → Generations
  | .observe call input failed =>
    if (parseWorkspaceGeneration (some (.text input.generation))).isNone then g
    else { g with calls := update g.calls call (some (.observe (g.getWorkspace failed) input)) }
  | .deactivate call now failed =>
    { g with calls := update g.calls call ((g.getWorkspace failed).map (.deactivate · now)) }
  | .write call =>
    match g.calls call with
    | none => g
    | some pending =>
      { g.put (pending.next.replacing g.row) with calls := update g.calls call none }

def Step (g : Generations) (event : GenerationEvent) (h : Generations) : Prop := h = g.step event

/-- The workspace is not active with a generation that has been retired. -/
def Unrevived (g : Generations) : Prop :=
  ∀ stored, g.row = some stored → stored.active = true →
    ∀ generation, stored.localGeneration = some generation → generation ∉ g.retired

/-- The row that was read is the tombstone of the generation. -/
def Buried (existing : Option Workspace) (generation : String) : Prop :=
  ∃ row, existing = some row ∧ row.active = false ∧ row.localGeneration = some generation

/-- An observation of a retired generation that is written now has read its tombstone. -/
def Heeds (g : Generations) : GenerationEvent → Prop
  | .write call => ∀ existing input, g.calls call = some (.observe existing input) →
      input.generation ∈ g.retired → Buried existing input.generation
  | _ => True

variable {g : Generations} {event : GenerationEvent}

/-- An observation activates its generation unless it has read the tombstone. -/
theorem next_serves (existing : Option Workspace) (input : Observation) :
    (WorkspaceCall.observe existing input).next.localGeneration = some input.generation ∧
      ((WorkspaceCall.observe existing input).next.active = true ↔
        ¬ Buried existing input.generation) := by
  cases existing with
  | none => simp [WorkspaceCall.next, applyObservedGeneration, Buried]
  | some row =>
    simp only [WorkspaceCall.next, applyObservedGeneration, Buried, Option.some.injEq,
      exists_eq_left']
    split_ifs <;> simp_all

/-- A write revives a generation only if it was retired before. -/
theorem unrevived_put_iff (g : Generations) (next : Workspace) :
    (g.put next).Unrevived ↔ (next.active = true → ∀ generation,
      next.localGeneration = some generation → generation ∉ g.retired) := by
  simp only [Unrevived, put, Option.some.injEq, forall_eq']
  refine forall_congr' fun active => forall_congr' fun generation => forall_congr' fun serves => ?_
  simp [active, serves]

/-- A step revives nothing exactly when it heeds the tombstones. -/
theorem unrevived_step_iff (unrevived : Unrevived g) :
    Unrevived (g.step event) ↔ g.Heeds event := by
  cases event with
  | observe =>
    rw [step]
    split <;> exact iff_of_true unrevived trivial
  | deactivate => exact iff_of_true unrevived trivial
  | write call =>
    cases found : g.calls call with
    | none => exact iff_of_true (by simpa [step, found] using unrevived) (by simp [Heeds, found])
    | some pending =>
      have active : (pending.next.replacing g.row).active = pending.next.active := by
        cases g.row <;> rfl
      have written := unrevived_put_iff g (pending.next.replacing g.row)
      rw [active] at written
      simp only [step, found]
      refine written.trans ?_
      cases pending with
      | deactivate => exact iff_of_true nofun (by simp [Heeds, found])
      | observe existing input =>
        obtain ⟨serves, activates⟩ := next_serves existing input
        have kept : ((WorkspaceCall.observe existing input).next.replacing g.row).localGeneration =
            some input.generation := by
          cases g.row <;> simp [Workspace.replacing, serves]
        simp only [kept, activates, Heeds, found]
        grind

end Generations

/-- **When no generation is revived.**  Throughout a run the workspace is not active with a
generation that has been superseded or deactivated, exactly when every observation of such a
generation that is written has read its tombstone. -/
theorem generation_unrevived_iff (row : Option Workspace) (events : List GenerationEvent) :
    (∀ mid, Run.Visits Generations.Step (.start row) events mid → mid.Unrevived) ↔
      ∀ mid event, Run.Takes Generations.Step (.start row) events mid event → mid.Heeds event := by
  have start : (Generations.start row).Unrevived := by
    rintro stored rfl active
    simp [Generations.start, Option.filter, active]
  refine (Run.throughout_iff (J := fun _ => True) ?_ (by simp) ?_ trivial
    (Run.played Generations.step events _)).trans (and_iff_right start)
  · rintro a event _ _ rfl rfl
    rfl
  · rintro a event _ - unrevived rfl
    exact Generations.unrevived_step_iff unrevived

/-- Only the last generation is remembered: a stale observation of the one before activates it
again. -/
theorem stale_generation_revived :
    let first := "wsg_00000000000000000000000000000000"
    let observe (call : Nat) (generation : String) : GenerationEvent :=
      .observe call ⟨"ws", "dev", "ten", "prin", generation, 0⟩ false
    let g := [observe 0 first, .write 0, observe 1 "wsg_11111111111111111111111111111111",
      .write 1, observe 2 first, .write 2].foldl Generations.step (.start none)
    (g.row.map fun row => (row.active, row.localGeneration)) = some (true, some first) ∧
      first ∈ g.retired := by
  decide +kernel

end OwnMesh.ControlPlane
