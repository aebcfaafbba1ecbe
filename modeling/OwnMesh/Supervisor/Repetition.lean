import OwnMesh.Supervisor.Coherence

/-!
# Asking for a transition again

A manifest remembers the transition it applied last.  Asking for that transition again
returns the binding it issued, and asking for another one under its identifier is
refused; neither changes anything.  Older transitions are forgotten.  An identifier that
advanced the generation of a host advances it a second time when another transition comes
in between and the identifier is then presented with the current binding
(`identifier_advances_twice`).  `transition_idempotence` says what holds of the last
transition and which runs let every identifier advance a host at most once.
-/

namespace OwnMesh.Supervisor

open Foundations Foundations.Program Ipc SupervisorState

variable {ω : Type} {env : Environment ω} {s t u : SupervisorState ω} {m m' : Machine ω}

section LastTransition

variable {previous : SupervisorBinding} {asked : Change} {receipt other : TransitionReceipt}
  {b : SupervisorBinding}

/-- A granted transition is the last one of its manifest, and the binding it issued is
that of the manifest. -/
theorem changeBinding_last
    (granted : (changeBinding env previous asked (some receipt)).run s = (.ok b, t)) :
    ∃ hosted, t.hosts.lookup previous.sessionId = some hosted ∧
      hosted.manifest.lastTransition = some receipt ∧ b = bindingOf hosted.manifest ∧
      validateTransition receipt = .ok () := by
  obtain ⟨hosted, found, ⟨replays, rfl, rfl⟩ | ⟨unrepeated, next, applied, rfl, rfl⟩⟩ :=
    changeBinding_ok_iff.mp granted
  · obtain ⟨valid, last⟩ := replays_true_iff.mp replays
    exact ⟨hosted, found, last, rfl, valid⟩
  · refine ⟨_, AList.lookup_insert _, ?_, rfl, valid_of_not_replays unrepeated⟩
    rw [applied.next_eq]

theorem replays_conflict {manifest : HostManifest} (last : manifest.lastTransition = some receipt)
    (reused : other.transitionId = receipt.transitionId)
    (altered : other.payloadDigest ≠ receipt.payloadDigest) :
    ∃ e, manifest.replays (some other) = .error e := by
  simp only [HostManifest.replays, HostManifest.matchesTransition]
  cases validateTransition other with
  | error e => exact ⟨e, rfl⟩
  | ok =>
    have apart : receipt ≠ other := fun same => altered (congrArg _ same.symm)
    refine ⟨"supervisor transition id payload conflict", ?_⟩
    simp [last, apart, reused, bind, Except.bind, throw, throwThe, MonadExceptOf.throw]

end LastTransition

/-! ## Identifiers over a run -/

variable (env) in
/-- A call that presents a receipt and advances the generation of its host. -/
def Advances (s : SupervisorState ω) (previous : SupervisorBinding) (asked : Change)
    (receipt : TransitionReceipt) : Prop :=
  asked.isRenew = false ∧ ∃ hosted next, s.hosts.lookup previous.sessionId = some hosted ∧
    hosted.manifest.replays (some receipt) = .ok false ∧
    Applies env asked previous (some receipt) hosted s.world next

variable (env) in
/-- A call under an identifier that has advanced its host before does not advance it. -/
def UsedIdentifierStays (m : Machine ω) (event : MachineEvent) : Prop :=
  ∀ previous asked receipt, event = .call (.change previous asked (some receipt)) →
    (previous.sessionId, receipt.transitionId) ∈ m.advanced →
      ¬ Advances env m.state previous asked receipt

variable (env s) in
/-- The calls with a receipt that advance a generation. -/
theorem epochAt_ne_iff (previous : SupervisorBinding) (asked : Change)
    (receipt : TransitionReceipt) :
    ((changeBinding env previous asked (some receipt)).run s).2.epochAt previous.sessionId ≠
        s.epochAt previous.sessionId ↔ Advances env s previous asked receipt := by
  rcases ran : (changeBinding env previous asked (some receipt)).run s with ⟨e | b, t⟩
  · have kept := changeBinding_keptIfFailed env previous asked (some receipt) s
    rw [ran] at kept
    refine iff_of_false (not_not_intro ?_) ?_
    · rw [epochAt, (books_eq_iff.mp (kept e rfl)).1, epochAt]
    rintro ⟨-, hosted, next, found, unrepeated, applied⟩
    cases ran.symm.trans (changeBinding_ok_iff.mpr
      ⟨hosted, found, .inr ⟨unrepeated, next, applied, rfl, rfl⟩⟩)
  · obtain ⟨hosted, found, ⟨replays, rfl, rfl⟩ | ⟨unrepeated, next, applied, rfl, rfl⟩⟩ :=
      changeBinding_ok_iff.mp ran
    · refine iff_of_false (not_not_intro rfl) ?_
      rintro ⟨-, hosted', next, found', unrepeated, -⟩
      cases found.symm.trans found'
      cases replays.symm.trans unrepeated
    · have after : (s.replaced previous.sessionId hosted next
          (env.writeManifest (env.beforeWrite s.world)).2).epochAt previous.sessionId =
            some next.controllerEpoch := by
        simp only [epochAt, replaced, AList.lookup_insert, Option.map_some]
      have before : s.epochAt previous.sessionId = some hosted.manifest.controllerEpoch := by
        simp only [epochAt, found, Option.map_some]
      rw [after, before, ne_eq, Option.some.injEq]
      cases renews : asked.isRenew with
      | true =>
        refine iff_of_false (not_not_intro (applied.epoch_renew renews)) ?_
        rintro ⟨advances, -⟩
        cases renews.symm.trans advances
      | false =>
        have increases := applied.epoch_advance renews
        exact iff_of_true (by omega) ⟨renews, hosted, next, found, unrepeated, applied⟩

theorem Machine.foldl_take_advanced (ids : List String) (m : Machine ω) :
    (ids.foldl Machine.take m).advanced = m.advanced := by
  induction ids generalizing m with
  | nil => rfl
  | cons id rest ih =>
    rw [List.foldl_cons, ih]
    unfold Machine.take
    cases m.state.hosts.lookup id with
    | none | some => rfl

/-- What a step adds to the transitions that advanced a generation. -/
theorem advanced_step {event : MachineEvent} (step : MachineStep env m event m') :
    (∃ previous asked receipt, event = .call (.change previous asked (some receipt)) ∧
        Advances env m.state previous asked receipt ∧
        m'.advanced = (previous.sessionId, receipt.transitionId) :: m.advanced) ∨
      (∀ previous asked receipt, event = .call (.change previous asked (some receipt)) →
        ¬ Advances env m.state previous asked receipt) ∧ m'.advanced = m.advanced := by
  cases step with
  | call call =>
    cases call with
    | change previous asked receipt =>
      cases receipt with
      | none => exact .inr ⟨by rintro _ _ _ ⟨⟩, rfl⟩
      | some receipt =>
        have exactly := epochAt_ne_iff env m.state previous asked receipt
        by_cases advances : Advances env m.state previous asked receipt
        · exact .inl ⟨previous, asked, receipt, rfl, advances,
            congrArg (· ++ m.advanced) (if_pos (exactly.mpr advances))⟩
        · refine .inr ⟨?_, congrArg (· ++ m.advanced) (if_neg (mt exactly.mp advances))⟩
          rintro _ _ _ ⟨⟩
          exact advances
    | spawn | reattach | write | resize | drain | terminate => exact .inr ⟨by rintro _ _ _ ⟨⟩, rfl⟩
  | collect ids =>
    exact .inr ⟨by rintro _ _ _ ⟨⟩, Machine.foldl_take_advanced ids (m.clocked env)⟩
  | kill => exact .inr ⟨by rintro _ _ _ ⟨⟩, rfl⟩
  | settle id hosted outcome =>
    refine .inr ⟨by rintro _ _ _ ⟨⟩, ?_⟩
    cases outcome with
    | none | some => rfl

/-- The steps after which every identifier still has advanced its host at most once. -/
theorem advanced_nodup_step_iff {event : MachineEvent} (once : m.advanced.Nodup)
    (step : MachineStep env m event m') : m'.advanced.Nodup ↔ UsedIdentifierStays env m event := by
  rcases advanced_step step with ⟨previous, asked, receipt, rfl, advances, added⟩ | ⟨stays, same⟩
  · rw [added, List.nodup_cons]
    constructor
    · rintro ⟨unused, -⟩ _ _ _ ⟨⟩ used
      exact absurd used unused
    · intro stays
      exact ⟨fun used => stays previous asked receipt rfl used advances, once⟩
  · rw [same]
    exact iff_of_true once fun previous asked receipt asks _ => stays previous asked receipt asks

/-- **What the supervisor remembers of transitions.**  The last transition of a host can be
asked for again by anyone, and under its identifier nothing else; no more happens in
either case.  Over a run, every identifier advances the generation of a host at most once
exactly when no call under a used identifier advances its host again. -/
theorem transition_idempotence (env : Environment ω) :
    (∀ (s t u : SupervisorState ω) (previous previous' : SupervisorBinding)
        (asked asked' : Change) (receipt : TransitionReceipt) (b : SupervisorBinding)
        (hosted hosted' : Hosted),
      (changeBinding env previous asked (some receipt)).run s = (.ok b, t) →
      t.hosts.lookup previous.sessionId = some hosted →
      u.hosts.lookup previous.sessionId = some hosted' → hosted'.manifest = hosted.manifest →
      previous'.sessionId = previous.sessionId →
        (changeBinding env previous' asked' (some receipt)).run u = (.ok b, u) ∧
          ∀ other : TransitionReceipt, other.transitionId = receipt.transitionId →
            other.payloadDigest ≠ receipt.payloadDigest →
            ∃ e, (changeBinding env previous' asked' (some other)).run u = (.error e, u)) ∧
      ∀ (directories : Table String (Option TerminationReceipt)) (w : ω)
        (events : List MachineEvent) (m : Machine ω),
        Run (MachineStep env) (Machine.initial directories w) events m →
        ((∀ mid, Run.Visits (MachineStep env) (Machine.initial directories w) events mid →
            mid.advanced.Nodup) ↔
          ∀ mid event,
            Run.Takes (MachineStep env) (Machine.initial directories w) events mid event →
              UsedIdentifierStays env mid event) := by
  constructor
  · intro s t u previous previous' asked asked' receipt b hosted hosted' granted here there same
      session
    obtain ⟨granted', found, last, rfl, valid⟩ := changeBinding_last granted
    cases here.symm.trans found
    rw [← session] at there
    rw [← same] at last ⊢
    refine ⟨changeBinding_ok_iff.mpr
      ⟨hosted', there, .inl ⟨replays_true_iff.mpr ⟨valid, last⟩, rfl, rfl⟩⟩, ?_⟩
    intro other reused altered
    obtain ⟨e, conflict⟩ := replays_conflict last reused altered
    refine ⟨e, ?_⟩
    rw [changeBinding, run_bind_of_ok (hostOf_ok_iff.mpr ⟨there, rfl⟩), conflict]
    rfl
  · intro directories w events m run
    have exactly := Run.throughout_iff (C := UsedIdentifierStays env) machineStep_functional
      (fun _ _ => trivial) (fun _ once step => advanced_nodup_step_iff once step) trivial run
    rw [exactly]
    exact and_iff_right List.nodup_nil

/-! ## An identifier that is used twice -/

/-- The binding of the sample host in a generation. -/
def sampleBinding (epoch : Nat) : SupervisorBinding :=
  { bindingOf (sampleManifest "host" 1000) with controllerEpoch := epoch }

/-- A handoff of the sample host to the next generation. -/
def handoffEvent (epoch : Nat) (transitionId payloadDigest : String) : MachineEvent :=
  .call (.change (sampleBinding epoch) (.rotate "owner" (epoch + 1) 1000)
    (some { transitionId := transitionId, payloadDigest := payloadDigest }))

def handoffEvents : List MachineEvent :=
  [.call (.spawn (sampleManifest "host" 1000) .pty), handoffEvent 1 "first" "1",
    handoffEvent 2 "second" "2", handoffEvent 3 "first" "3"]

/-- The machine after some calls. -/
def afterCalls (events : List MachineEvent) : Machine Int :=
  events.foldl (fun m event =>
    match event with
    | .call call => m.perform clockEnvironment call
    | _ => m) (Machine.initial ∅ 0)

theorem handoffEvents_run : Run (MachineStep clockEnvironment) (Machine.initial ∅ 0) handoffEvents
      (afterCalls handoffEvents) :=
  .next (.call _ _) (.next (.call _ _) (.next (.call _ _) (.next (.call _ _) (.done _))))

/-- Another handoff in between makes the supervisor forget an identifier. -/
theorem identifier_advances_twice :
    ∃ events m, Run (MachineStep clockEnvironment) (Machine.initial ∅ 0) events m ∧
      ¬ m.advanced.Nodup :=
  ⟨_, _, handoffEvents_run, by decide⟩

/-- The sample host after its first handoff. -/
def handedOff : Hosted where
  manifest := { sampleManifest "host" 1000 with
    controllerEpoch := 2
    lastTransition := some { transitionId := "first", payloadDigest := "1" } }
  custody := { sampleManifest "host" 1000 with
    controllerEpoch := 2
    lastTransition := some { transitionId := "first", payloadDigest := "1" } }
  spool := { base := 0, retained := [] }
  stderrSpool := none

theorem transition_idempotence_handoff :
    ((changeBinding clockEnvironment (sampleBinding 1) (.rotate "owner" 2 1000)
        (some { transitionId := "first", payloadDigest := "1" })).run
          (afterCalls (handoffEvents.take 2)).state =
        (.ok (sampleBinding 2), (afterCalls (handoffEvents.take 2)).state)) ∧
      ((∀ mid, Run.Visits (MachineStep clockEnvironment) (Machine.initial ∅ 0) handoffEvents mid →
          mid.advanced.Nodup) ↔
        ∀ mid event, Run.Takes (MachineStep clockEnvironment) (Machine.initial ∅ 0) handoffEvents
          mid event → UsedIdentifierStays clockEnvironment mid event) := by
  constructor
  · exact ((transition_idempotence clockEnvironment).1 (afterCalls (handoffEvents.take 1)).state
      (afterCalls (handoffEvents.take 2)).state (afterCalls (handoffEvents.take 2)).state
      (sampleBinding 1) (sampleBinding 1) (.rotate "owner" 2 1000) (.rotate "owner" 2 1000)
      { transitionId := "first", payloadDigest := "1" } (sampleBinding 2) handedOff handedOff
      rfl rfl rfl rfl rfl).1
  · exact (transition_idempotence clockEnvironment).2 ∅ 0 handoffEvents _ handoffEvents_run

end OwnMesh.Supervisor
