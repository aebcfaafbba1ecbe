import OwnMesh.Supervisor.Coherence

/-!
# The liveness probe

A probe asks whether a host is still tracked.  It looks at the table of hosts and then, if
the host is not there, at the marks of the sweeps; between the two looks it holds no lock,
so any steps of the supervisor may come in between.  A host that was spawned and whose
child was not confirmed to have ended is in the table or marked at every moment, but it
can change sides.  The probe misses it exactly when it was being ended at the first look
and is back in the table at the second (`hostLive_false_iff`), which happens when the
attempt to end it fails (`hostLive_misses`).
-/

namespace OwnMesh.Supervisor

open Foundations Foundations.Program Ipc

variable {ω : Type} {env : Environment ω} {m m' : Machine ω} {id : String}

/-- The answer of a probe that looks at the table in one state and at the marks in
another. -/
def hostLive (first second : SupervisorState ω) (id : String) : Bool :=
  if first.tracked id then true else second.inFlight id

/-! ## Histories grow -/

theorem Machine.foldl_take_histories (ids : List String) (m : Machine ω) :
    (ids.foldl Machine.take m).spawned = m.spawned ∧
      (ids.foldl Machine.take m).confirmed = m.confirmed := by
  induction ids generalizing m with
  | nil => exact ⟨rfl, rfl⟩
  | cons id rest ih =>
    obtain ⟨spawned, confirmed⟩ := ih (m.take id)
    have same : (m.take id).spawned = m.spawned ∧ (m.take id).confirmed = m.confirmed := by
      unfold Machine.take
      cases m.state.hosts.lookup id with
      | none | some => exact ⟨rfl, rfl⟩
    exact ⟨spawned.trans same.1, confirmed.trans same.2⟩

/-- What was spawned stays so, and what was confirmed too. -/
theorem histories_grow {event : MachineEvent} (step : MachineStep env m event m') :
    m.spawned ⊆ m'.spawned ∧ m.confirmed ⊆ m'.confirmed := by
  cases step with
  | call => exact ⟨List.subset_append_right _ _, List.subset_append_right _ _⟩
  | collect ids =>
    obtain ⟨spawned, confirmed⟩ := Machine.foldl_take_histories ids (m.clocked env)
    exact ⟨fun _ born => spawned ▸ born, fun _ dead => confirmed ▸ dead⟩
  | kill =>
    refine ⟨List.Subset.refl _, fun other dead => ?_⟩
    simp only [Machine.kill]
    split
    · exact List.mem_cons_of_mem _ dead
    · exact dead
  | settle id hosted outcome =>
    cases outcome with
    | none | some => exact ⟨List.Subset.refl _, List.Subset.refl _⟩

theorem histories_grow_run {events : List MachineEvent} (run : Run (MachineStep env) m events m') :
    m.spawned ⊆ m'.spawned ∧ m.confirmed ⊆ m'.confirmed := by
  induction run with
  | done => exact ⟨List.Subset.refl _, List.Subset.refl _⟩
  | next head _ ih =>
    obtain ⟨spawned, confirmed⟩ := histories_grow head
    exact ⟨List.Subset.trans spawned ih.1, List.Subset.trans confirmed ih.2⟩

/-! ## A host is on one side -/

theorem CoherentAt.tracked_iff (coherent : CoherentAt m id) (spawned : id ∈ m.spawned)
    (unconfirmed : id ∉ m.confirmed) : m.state.tracked id = true ↔ m.state.inFlight id = false := by
  have side := coherent.spawned spawned
  rw [SupervisorState.inFlight, decide_eq_false_iff_not, coherent.marked, not_not,
    SupervisorState.tracked, Option.isSome_iff_ne_none]
  constructor
  · intro live
    obtain ⟨hosted, found⟩ := Option.ne_none_iff_exists'.mp live
    exact (coherent.hosted found).2.2.2
  · intro unswept
    rcases side with live | swept | dead
    · exact live
    · exact absurd unswept swept
    · exact absurd dead unconfirmed

/-- **The probe misses a host that was spawned before it and whose child is not confirmed to
have ended exactly when the host was being ended at the first look and is back in the
table at the second.** -/
theorem hostLive_false_iff {directories : Table String (Option TerminationReceipt)} {w : ω}
    {before between : List MachineEvent} {first second : Machine ω}
    (run : Run (MachineStep env) (Machine.initial directories w) before first)
    (meanwhile : Run (MachineStep env) first between second)
    (spawned : id ∈ first.spawned) (unconfirmed : id ∉ second.confirmed) :
    hostLive first.state second.state id = false ↔
      first.state.inFlight id = true ∧ second.state.tracked id = true := by
  have coherent : Coherent first :=
    Run.invariant (fun coherent step => coherent.step step) (coherent_initial directories w) run
  have coherent' : Coherent second :=
    Run.invariant (fun coherent step => coherent.step step) coherent meanwhile
  obtain ⟨spawns, confirms⟩ := histories_grow_run meanwhile
  have firstSide := (coherent.each id).tracked_iff spawned fun dead => unconfirmed (confirms dead)
  have secondSide := (coherent'.each id).tracked_iff (spawns spawned) unconfirmed
  unfold hostLive
  cases tracked : first.state.tracked id with
  | true =>
    have unmarked := firstSide.mp tracked
    simp [unmarked]
  | false =>
    have marked : first.state.inFlight id = true := by
      rw [tracked] at firstSide
      simpa using firstSide
    simp [marked, secondSide]

/-! ## A failed attempt -/

/-- Surroundings in which no child can be ended and the clock advances in steps of a
hundred seconds. -/
def stubbornEnvironment : Environment Int :=
  { clockEnvironment with
    now := fun w => (w, w + 100)
    terminateHost := fun _ w => (some "busy", w) }

/-- A host that was spawned, one that a sweep has taken, one that could not be ended, and
one that is tracked again. -/
def bornMachine : Machine Int :=
  (Machine.initial ∅ 0).perform stubbornEnvironment (.spawn (sampleManifest "host" 64) .pty)

def sweptMachine : Machine Int := bornMachine.collect stubbornEnvironment ["host"]

def sampleHosted : Hosted where
  manifest := sampleManifest "host" 64
  custody := sampleManifest "host" 64
  spool := { base := 0, retained := [] }
  stderrSpool := none

def unendedMachine : Machine Int := sweptMachine.kill stubbornEnvironment "host" sampleHosted

def retrackedMachine : Machine Int := unendedMachine.settle "host" sampleHosted (some "busy")

theorem sweptMachine_reached : Run (MachineStep stubbornEnvironment) (Machine.initial ∅ 0)
    [.call (.spawn (sampleManifest "host" 64) .pty), .collect ["host"]] sweptMachine := by
  have expired : bornMachine.state.expired 100 = ["host"] := by decide
  refine .next (.call _ _) (.next (.collect bornMachine ["host"] ?_) (.done _))
  show bornMachine.state.Picks 100 ["host"]
  exact ⟨List.Subperm.refl _, rfl⟩

theorem retrackedMachine_reached : Run (MachineStep stubbornEnvironment) sweptMachine
    [.kill "host", .settle "host"] retrackedMachine :=
  .next (.kill _ _ _ rfl) (.next (.settle _ _ _ _ rfl) (.done _))

theorem hostLive_false_iff_retracked :
    ("host" ∈ sweptMachine.spawned ∧ "host" ∉ retrackedMachine.confirmed) ∧
      (hostLive sweptMachine.state retrackedMachine.state "host" = false ↔
        sweptMachine.state.inFlight "host" = true ∧ retrackedMachine.state.tracked "host" = true) :=
  ⟨⟨by decide, by decide⟩,
    hostLive_false_iff sweptMachine_reached retrackedMachine_reached (by decide) (by decide)⟩

/-- A probe whose first look comes before a failed attempt to end a host and whose second
look comes after it reports the host as gone. -/
theorem hostLive_misses : ∃ before first between second,
      Run (MachineStep stubbornEnvironment) (Machine.initial ∅ 0) before first ∧
        Run (MachineStep stubbornEnvironment) first between second ∧
        "host" ∈ first.spawned ∧ "host" ∉ second.confirmed ∧
        hostLive first.state second.state "host" = false :=
  ⟨_, _, _, _, sweptMachine_reached, retrackedMachine_reached, by decide, by decide, by decide⟩

end OwnMesh.Supervisor
