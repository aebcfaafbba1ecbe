import OwnMesh.Supervisor.Coherence

/-!
# A host has one live capability

A binding is a capability for a host.  Each change of controller but a renewal advances
the generation of the host and so outdates every binding issued before it.  What a host has
reached it keeps, whatever happens to it afterwards (`Reached.step`), so an outdated binding
stays outdated, and the operations of a controller refuse it.  The one place where the
supervisor answers without looking at the presented binding is the repetition of the last
transition; the digest of a renewal covers the binding, so that a renewal that repeats the
last transition presents a binding of the current generation.

An outdated binding can still be told that its host is terminated: a termination whose
receipt is in place while its write is reported as failed leaves the host alive, and the
receipt outlasts the next controller (`outdated_terminate_accepted`).

`capability_linearity` collects this.  It speaks of the calls as the supervisor's requests
make them (`dispatch_asRequested`), with digests derived from what is asked, and assumes that
the digests of the payloads at hand do not collide.
-/

namespace OwnMesh.Supervisor

open Foundations Foundations.Program Ipc List AList SupervisorState

variable {ω : Type} {env : Environment ω} {s t : SupervisorState ω} {m m' : Machine ω}
  {b : SupervisorBinding} {id : String} {event : MachineEvent}

/-! ## What is asked in a run -/

/-- The payload of a call that presents a receipt. -/
def MachineEvent.payload : MachineEvent → Option Payload
  | .call (.change previous asked (some _)) => some (asked.payload previous)
  | .call (.terminate binding _) => some (.terminate binding)
  | _ => none

/-- A call as the requests of the supervisor make it: a host is spawned with a new
manifest, and the digest of a receipt is that of the payload. -/
def MachineEvent.AsRequested (env : Environment ω) : MachineEvent → Prop
  | .call (.spawn manifest _) => manifest.lastTransition = none
  | .call (.change previous asked (some receipt)) =>
    receipt.payloadDigest = env.digest (asked.payload previous)
  | .call (.terminate binding receipt) => receipt.payloadDigest = env.digest (.terminate binding)
  | _ => True

variable (env) in
/-- A request was refused with no more than a look at the surroundings, or carried out by a
call as requests make them. -/
def Performs (s : SupervisorState ω)
    (result : Except IpcError (Option SupervisorBinding) × SupervisorState ω) : Prop :=
  (∃ e w, result = (.error e, { s with world := w })) ∨
    ∃ call w, (MachineEvent.call call).AsRequested env ∧
      result = (((call.perform env).run { s with world := w }).1.mapError invalid,
        ((call.perform env).run { s with world := w }).2)

theorem Performs.serve {α : Type} {p : SupervisorM ω α} {f : α → Option SupervisorBinding} {w : ω}
    (call : SupervisorCall) (performs : call.perform env = mapAnswer f p)
    (requested : (MachineEvent.call call).AsRequested env) :
    Performs env s (((serve p).run { s with world := w }).1.map f,
      ((serve p).run { s with world := w }).2) := by
  refine .inr ⟨call, w, requested, ?_⟩
  rw [performs, Supervisor.serve, run_mapError, run_mapAnswer]
  rcases p.run { s with world := w } with ⟨_ | _, _⟩ <;> rfl

theorem new_lastTransition {sessionId deviceId workspaceId owner fresh : String} {epoch : Nat}
    {expires hostExpires : Int} {manifest : HostManifest}
    (made : HostManifest.new sessionId deviceId workspaceId owner epoch expires hostExpires fresh =
      .ok manifest) : manifest.lastTransition = none := by
  unfold HostManifest.new at made
  dsimp only at made
  generalize HostManifest.validate _ = checked at made
  cases checked with
  | error => cases made
  | ok =>
    cases made
    rfl

/-- **The requests of the supervisor make only calls as assumed here**: manifests are new, and
digests are derived from what is asked. -/
theorem dispatch_asRequested (request : SupervisorRequest) (s : SupervisorState ω) :
    Performs env s ((dispatch env request).run s) := by
  have refused : ∀ (e : IpcError) (w : ω), Performs env s (.error e, { s with world := w }) :=
    fun e w => .inl ⟨e, w, rfl⟩
  cases request with
  | spawn request =>
    let P (r : Except IpcError SupervisorBinding × SupervisorState ω) : Prop :=
      Performs env s (r.1.map some, r.2)
    refine run_ofExcept_bind_cases (P := P) (fun e _ => refused e s.world) fun _ _ => ?_
    rw [run_ask_bind]
    rcases made : HostManifest.new request.sessionId request.deviceId request.workspaceId
        request.ownerPrincipal request.controllerEpoch request.bindingExpiresUnix
        request.hostExpiresUnix (env.fresh s.world).1 with e | manifest
    · exact refused (invalid e) _
    · refine Performs.serve (.spawn { manifest with ioMode := request.ioMode } _) rfl ?_
      have unasked := new_lastTransition made
      exact unasked
  | status binding => exact Performs.serve (.reattach binding) (w := s.world) rfl trivial
  | write binding bytes =>
    let P (r : Except IpcError Unit × SupervisorState ω) : Prop :=
      Performs env s (r.1.map fun _ => none, r.2)
    refine run_require_bind_cases (P := P) (fun _ => refused _ s.world) fun _ => ?_
    exact Performs.serve (.write binding bytes) (w := s.world) rfl trivial
  | resize binding cols rows =>
    exact Performs.serve (.resize binding cols rows) (w := s.world) rfl trivial
  | drain binding offset maxBytes stream =>
    let P (r : Except IpcError SpoolPage × SupervisorState ω) : Prop :=
      Performs env s (r.1.map fun _ => none, r.2)
    refine run_require_bind_cases (P := P) (fun _ => refused _ s.world) fun _ => ?_
    refine run_ofExcept_bind_cases (P := P) (fun e _ => refused e s.world) fun stderr _ => ?_
    exact Performs.serve (.drain binding offset maxBytes stderr) (w := s.world) rfl trivial
  | change binding change transitionId =>
    let P (r : Except IpcError SupervisorBinding × SupervisorState ω) : Prop :=
      Performs env s (r.1.map some, r.2)
    refine run_ofExcept_bind_cases (P := P) (fun e _ => refused e s.world) fun _ _ => ?_
    exact Performs.serve (.change binding change _) (w := s.world) rfl rfl
  | terminate binding transitionId =>
    let P (r : Except IpcError Unit × SupervisorState ω) : Prop :=
      Performs env s (r.1.map fun _ => none, r.2)
    refine run_ofExcept_bind_cases (P := P) (fun e _ => refused e s.world) fun _ _ => ?_
    exact Performs.serve (.terminate binding _) (w := s.world) rfl rfl

/-- The payloads of a run. -/
def presented (events : List MachineEvent) : Set Payload :=
  { payload | ∃ event ∈ events, event.payload = some payload }

/-! ## Where the last transition comes from -/

variable (env) in
/-- The last transition of a manifest was asked for under one of the payloads, with a
binding of the generation before, or of this one if it was a renewal. -/
def LastAsked (payloads : Set Payload) (manifest : HostManifest) : Prop :=
  ∀ receipt, manifest.lastTransition = some receipt →
    ∃ (previous : SupervisorBinding) (asked : Change),
      receipt.payloadDigest = env.digest (asked.payload previous) ∧
        asked.payload previous ∈ payloads ∧
        (asked.isRenew = true → previous.controllerEpoch = manifest.controllerEpoch)

variable {payloads : Set Payload}

variable {previous : SupervisorBinding} {asked : Change} {receipt : Option TransitionReceipt}
  {hosted : Hosted} {next : HostManifest} {events : List MachineEvent}

/-! ## Properties of every host -/

/-- Every host, live or being ended, has a manifest with the property. -/
structure EveryHost (P : String → HostManifest → Prop) (m : Machine ω) : Prop where
  live : ∀ {id hosted}, m.state.hosts.lookup id = some hosted → P id hosted.manifest
  swept : ∀ {id sweeping}, m.sweeping.lookup id = some sweeping → P id sweeping.hosted.manifest

variable {call : SupervisorCall} {r : Except String (Option SupervisorBinding)}

section EveryHost

variable {P : String → HostManifest → Prop}

section

variable (every : EveryHost P m)
include every

theorem EveryHost.insert {hosts : Table String Hosted} {key : String}
    (inserted : hosts = m.state.hosts.insert key hosted) (holds : P key hosted.manifest)
    {id : String} {found : Hosted}
    (looked : hosts.lookup id = some found) : P id found.manifest := by
  rw [inserted] at looked
  rcases Table.lookup_insert_some looked with ⟨rfl, rfl⟩ | older
  · exact holds
  · exact every.live older

theorem EveryHost.after (effect : Effect env m.state call r t)
    (spawned : ∀ manifest ioMode, call = .spawn manifest ioMode →
      m.state.directories.lookup manifest.sessionId = none → P manifest.sessionId manifest)
    (changed : ∀ previous asked receipt hosted next, call = .change previous asked receipt →
      m.state.hosts.lookup previous.sessionId = some hosted →
      hosted.manifest.replays receipt = .ok false →
      Applies env asked previous receipt hosted m.state.world next →
      P previous.sessionId hosted.manifest → P previous.sessionId next) :
    EveryHost P (m.after env call t) := by
  refine ⟨fun {id found} looked => ?_, fun found => every.swept found⟩
  change t.hosts.lookup id = some found at looked
  cases effect with
  | quiet _ same =>
    rw [(books_eq_iff.mp same).1] at looked
    exact every.live looked
  | repeated => exact every.live looked
  | changed found' unrepeated applied =>
    exact every.insert rfl
      (changed _ _ _ _ _ rfl found' unrepeated applied (every.live found')) looked
  | reserved _ hosts | receipted _ hosts =>
    rw [hosts] at looked
    exact every.live looked
  | @spawned manifest ioMode _ hosted _ _ untaken manifests hosts =>
    refine every.insert hosts ?_ looked
    rw [manifests.1]
    exact spawned manifest ioMode rfl untaken
  | stored _ found' manifests hosts =>
    refine every.insert hosts ?_ looked
    rw [manifests.1]
    exact every.live found'
  | @ended binding _ _ _ _ _ hosts =>
    rw [hosts] at looked
    exact every.live (Table.lookup_erase_some looked)

theorem EveryHost.take (id : String) : EveryHost P (m.take id) := by
  unfold Machine.take
  cases found : m.state.hosts.lookup id with
  | none => exact every
  | some =>
    refine ⟨fun looked => every.live (Table.lookup_erase_some looked), fun looked => ?_⟩
    rcases Table.lookup_insert_some looked with ⟨rfl, rfl⟩ | older
    · exact every.live found
    · exact every.swept older

theorem EveryHost.foldl_take (ids : List String) : EveryHost P (ids.foldl Machine.take m) := by
  induction ids generalizing m with
  | nil => exact every
  | cons id rest ih => exact ih (every.take id)

end

/-- A step keeps a property of every host if spawning establishes it and a change of
controller carries it over. -/
theorem EveryHost.step (every : EveryHost P m) (step : MachineStep env m event m')
    (spawned : ∀ manifest ioMode, event = .call (.spawn manifest ioMode) →
      m.state.directories.lookup manifest.sessionId = none → P manifest.sessionId manifest)
    (changed : ∀ previous asked receipt hosted next,
      event = .call (.change previous asked receipt) →
      m.state.hosts.lookup previous.sessionId = some hosted →
      hosted.manifest.replays receipt = .ok false →
      Applies env asked previous receipt hosted m.state.world next →
      P previous.sessionId hosted.manifest → P previous.sessionId next) : EveryHost P m' := by
  cases step with
  | call call =>
    refine every.after (perform_effect env call m.state) (fun manifest ioMode same => ?_)
      fun previous asked receipt hosted next same => ?_
    · exact spawned manifest ioMode (congrArg _ same)
    · exact changed previous asked receipt hosted next (congrArg _ same)
  | collect ids => exact EveryHost.foldl_take (m := m.clocked env) ⟨every.live, every.swept⟩ ids
  | kill id hosted pending =>
    have holds := every.swept pending
    refine ⟨every.live, fun looked => ?_⟩
    rcases Table.lookup_insert_some looked with ⟨rfl, rfl⟩ | older
    · exact holds
    · exact every.swept older
  | settle id hosted outcome ended =>
    have swept : ∀ {other sweeping}, (m.sweeping.erase id).lookup other = some sweeping →
        P other sweeping.hosted.manifest :=
      fun looked => every.swept (Table.lookup_erase_some looked)
    have holds := every.swept ended
    cases outcome with
    | none => exact ⟨every.live, swept⟩
    | some => exact ⟨fun looked => every.insert rfl holds looked, swept⟩

end EveryHost

/-- In every host, the last transition was asked for under one of the payloads. -/
theorem lastAsked_step (every : EveryHost (fun _ => LastAsked env payloads) m)
    (step : MachineStep env m event m') (requested : event.AsRequested env)
    (listed : ∀ payload, event.payload = some payload → payload ∈ payloads) :
    EveryHost (fun _ => LastAsked env payloads) m' := by
  refine every.step step ?_ ?_
  · rintro manifest ioMode rfl - receipt last
    cases requested.symm.trans last
  · rintro previous asked receipt hosted next rfl found - applied - r last
    have kept : receipt = some r := by
      rw [applied.next_eq] at last
      exact last
    subst kept
    refine ⟨previous, asked, requested, listed _ rfl, fun renews => ?_⟩
    rw [applied.epoch_renew renews, applied.previous_eq]
    rfl

/-! ## Outdated bindings -/

/-- A session has been hosted, and its host, live or being ended, has reached a generation. -/
structure Reached (id : String) (epoch : Nat) (m : Machine ω) : Prop where
  taken : m.state.directories.lookup id ≠ none
  hosts : EveryHost (fun key manifest => key = id → epoch ≤ manifest.controllerEpoch) m

/-- The generation of a host never goes back. -/
theorem Applies.epoch_le {w : ω} (applied : Applies env asked previous receipt hosted w next) :
    hosted.manifest.controllerEpoch ≤ next.controllerEpoch := by
  cases renews : asked.isRenew with
  | true => exact le_of_eq (applied.epoch_renew renews).symm
  | false =>
    have increases := applied.epoch_advance renews
    omega

/-- What a call does to the directory of a session that has one. -/
theorem Effect.directory (coherent : Coherent m) (effect : Effect env m.state call r t)
    (taken : m.state.directories.lookup id ≠ none) :
    t.directories.lookup id = m.state.directories.lookup id ∨
      ∃ hosted receipt, m.state.hosts.lookup id = some hosted ∧
        t.directories.lookup id = some (some (endedBy hosted.manifest receipt)) := by
  have untouched : ∀ {key : String}, m.state.directories.lookup key = none →
      (m.state.directories.insert key none).lookup id = m.state.directories.lookup id := by
    intro key untaken
    refine lookup_insert_ne fun same => taken ?_
    rw [same, untaken]
  have receipted : ∀ {binding : SupervisorBinding} {receipt : TransitionReceipt} {hosted : Hosted},
      m.state.hosts.lookup binding.sessionId = some hosted →
      t.directories = m.state.directories.insert hosted.custody.sessionId
        (some (endedBy hosted.custody receipt)) →
      t.directories.lookup id = m.state.directories.lookup id ∨
        ∃ hosted receipt, m.state.hosts.lookup id = some hosted ∧
          t.directories.lookup id = some (some (endedBy hosted.manifest receipt)) := by
    intro binding receipt hosted found inserted
    obtain ⟨session, custody, -, -⟩ := (coherent.each _).hosted found
    rw [custody, session] at inserted
    by_cases here : id = binding.sessionId
    · subst here
      exact .inr ⟨hosted, receipt, found, by rw [inserted, lookup_insert]⟩
    · exact .inl (by rw [inserted, lookup_insert_ne here])
  cases effect with
  | quiet _ same => exact .inl (by rw [(books_eq_iff.mp same).2.2])
  | repeated | changed => exact .inl rfl
  | reserved untaken _ _ directories => exact .inl (by rw [directories, untouched untaken])
  | spawned _ _ untaken _ _ _ directories =>
    exact .inl (by rw [directories, untouched untaken])
  | stored _ _ _ _ _ directories => exact .inl (by rw [directories])
  | receipted found _ _ _ inserted => exact receipted found inserted
  | ended found _ _ _ directories =>
    rcases directories with ⟨-, inserted⟩ | ⟨same, -⟩
    · exact receipted found inserted
    · exact .inl (by rw [same])

/-- What a step does to the directory of a session that has one. -/
theorem MachineStep.directory (coherent : Coherent m) (step : MachineStep env m event m')
    (taken : m.state.directories.lookup id ≠ none) :
    m'.state.directories.lookup id = m.state.directories.lookup id ∨
      ∃ hosted receipt, m.state.hosts.lookup id = some hosted ∧
        m'.state.directories.lookup id = some (some (endedBy hosted.manifest receipt)) := by
  cases step with
  | call call => exact (perform_effect env call m.state).directory coherent taken
  | collect ids => exact .inl (by rw [(m.collect_frame env ids).2])
  | kill => exact .inl rfl
  | settle id hosted outcome =>
    cases outcome with
    | none | some => exact .inl rfl

variable {epoch : Nat}

/-- What a host has reached it does not lose. -/
theorem Reached.step (reached : Reached id epoch m) (coherent : Coherent m)
    (step : MachineStep env m event m') : Reached id epoch m' := by
  refine ⟨?_, reached.hosts.step step ?_ ?_⟩
  · rcases step.directory coherent reached.taken with same | ⟨_, _, -, ended⟩
    · rw [same]
      exact reached.taken
    · rw [ended]
      exact nofun
  · rintro manifest ioMode rfl untaken rfl
    exact absurd untaken reached.taken
  · rintro previous asked receipt hosted next rfl found - applied before here
    exact Nat.le_trans (before here) applied.epoch_le

theorem Reached.run (reached : Reached id epoch m)
    (coherent : Coherent m) (run : Run (MachineStep env) m events m') : Reached id epoch m' := by
  have both : Coherent m' ∧ Reached id epoch m' :=
    Run.invariant (I := fun m => Coherent m ∧ Reached id epoch m)
      (fun both step => ⟨both.1.step step, both.2.step both.1 step⟩) ⟨coherent, reached⟩ run
  exact both.2

/-- A live host has reached its own generation. -/
theorem Coherent.reached (coherent : Coherent m) (live : m.state.hosts.lookup id = some hosted)
    (least : epoch ≤ hosted.manifest.controllerEpoch) : Reached id epoch m := by
  obtain ⟨-, -, directory, unswept⟩ := (coherent.each id).hosted live
  refine ⟨directory, ⟨?_, ?_⟩⟩
  · rintro key other found rfl
    cases live.symm.trans found
    exact least
  · rintro key sweeping found rfl
    cases unswept.symm.trans found

variable (env) in
/-- The step issues the binding. -/
def IssuesAt (m : Machine ω) (event : MachineEvent) (b : SupervisorBinding) : Prop :=
  ∃ call, event = .call call ∧ ((call.perform env).run m.state).1 = .ok (some b)

variable (env) in
/-- The step is a transition of the host other than a renewal. -/
def AdvancesAt (m : Machine ω) (event : MachineEvent) (id : String) : Prop :=
  ∃ previous asked receipt hosted next, event = .call (.change previous asked receipt) ∧
    previous.sessionId = id ∧ asked.isRenew = false ∧ m.state.hosts.lookup id = some hosted ∧
    hosted.manifest.replays receipt = .ok false ∧
    Applies env asked previous receipt hosted m.state.world next

/-- A binding that is issued is that of a live host. -/
theorem Effect.issued (coherent : Coherent m) (effect : Effect env m.state call r t)
    (issued : r = .ok (some b)) :
    ∃ hosted, t.hosts.lookup b.sessionId = some hosted ∧ b = bindingOf hosted.manifest := by
  cases effect with
  | quiet silent | stored silent => exact absurd issued (silent b)
  | @repeated previous asked receipt hosted found =>
    cases issued
    refine ⟨hosted, ?_, rfl⟩
    have session := ((coherent.each _).hosted found).1
    show m.state.hosts.lookup hosted.manifest.sessionId = _
    rw [session, found]
  | @changed previous asked receipt hosted next w found _ applied =>
    cases issued
    refine ⟨{ hosted with manifest := next, custody := next }, ?_, rfl⟩
    have session := ((coherent.each _).hosted found).1
    show (m.state.hosts.insert previous.sessionId _).lookup next.sessionId = _
    rw [applied.sessionId_eq, session, lookup_insert]
  | reserved | receipted | ended => cases issued
  | @spawned manifest ioMode _ hosted _ _ _ manifests hosts =>
    cases issued
    refine ⟨hosted, ?_, by rw [manifests.1]⟩
    rw [hosts]
    exact lookup_insert _

theorem IssuesAt.reached (coherent : Coherent m) (step : MachineStep env m event m')
    (issues : IssuesAt env m event b) : Reached b.sessionId b.controllerEpoch m' := by
  obtain ⟨call, rfl, issued⟩ := issues
  cases step with
  | call =>
    obtain ⟨hosted, live, same⟩ := (perform_effect env call m.state).issued coherent issued
    exact (coherent.perform call).reached live (le_of_eq (congrArg _ same))

theorem AdvancesAt.reached (coherent : Coherent m) (step : MachineStep env m event m')
    (advances : AdvancesAt env m event id)
    (reached : Reached id epoch m) : Reached id (epoch + 1) m' := by
  obtain ⟨previous, asked, receipt, hosted, next, rfl, rfl, advancing, live, unrepeated,
    applied⟩ := advances
  have coherent' := coherent.step step
  have least := reached.hosts.live live rfl
  have increases := applied.epoch_advance advancing
  have ran := changeBinding_ok_iff.mpr ⟨hosted, live, .inr ⟨unrepeated, next, applied, rfl, rfl⟩⟩
  cases step with
  | call =>
    have after := congrArg (fun result => result.2.hosts.lookup previous.sessionId) ran
    have later : epoch + 1 ≤ next.controllerEpoch := by omega
    exact coherent'.reached (after.trans (lookup_insert _)) later

theorem AdvancesAt.directories (advances : AdvancesAt env m event id)
    (step : MachineStep env m event m') : m'.state.directories = m.state.directories := by
  obtain ⟨previous, asked, receipt, hosted, next, rfl, rfl, -, live, unrepeated, applied⟩ :=
    advances
  have ran := changeBinding_ok_iff.mpr ⟨hosted, live, .inr ⟨unrepeated, next, applied, rfl, rfl⟩⟩
  cases step with
  | call => exact congrArg (fun result => result.2.directories) ran

/-! ## What an outdated binding is refused -/

theorem exact_ok_iff {manifest : HostManifest} {now : Int} : exact b manifest now = .ok () ↔
      now < manifest.bindingExpiresUnix ∧ b = bindingOf manifest ∧
        manifest.controllerAttached = true := by
  simp [exact, runChecks_ok_iff, SupervisorBinding.matches]

/-- A program does not answer. -/
def Refused {α : Type} (p : SupervisorM ω α) (s : SupervisorState ω) : Prop :=
  ∀ a t, p.run s ≠ (.ok a, t)

theorem controlled_refused (unfit : ∀ hosted, s.hosts.lookup b.sessionId = some hosted →
      b ≠ bindingOf hosted.manifest ∨ hosted.manifest.controllerAttached = false) :
    Refused (controlled env b) s := by
  intro hosted t ran
  obtain ⟨found, checked, -⟩ := controlled_ok ran
  obtain ⟨-, same, attached⟩ := exact_ok_iff.mp checked
  rcases unfit hosted found with other | detached
  · exact other same
  · cases detached.symm.trans attached

theorem Refused.bind {α β : Type} {p : SupervisorM ω α} (refused : Refused p s)
    (f : α → SupervisorM ω β) : Refused (p >>= f) s := by
  intro b t ran
  obtain ⟨a, u, answered, -⟩ := bind_ok_iff.mp ran
  exact refused a u answered

theorem Refused.require_bind {α : Type} {c : Prop} [Decidable c] {e : String}
    {p : Unit → SupervisorM ω α} (refused : Refused (p ()) s) : Refused (require c e >>= p) s := by
  intro a t ran
  obtain ⟨_, _, required, ran⟩ := bind_ok_iff.mp ran
  obtain ⟨-, rfl⟩ := require_ok_iff.mp required
  exact refused a t ran

/-- Input and sizes are refused where the binding is. -/
theorem input_refused (refused : Refused (controlled env b) s) :
    (∀ bytes, Refused (write env b bytes) s) ∧ ∀ cols rows, Refused (resize env b cols rows) s :=
  ⟨fun _ => (refused.bind _).require_bind, fun _ _ => (refused.bind _).require_bind⟩

/-- A binding of a generation that the host has left behind. -/
abbrev Outdated (b : SupervisorBinding) (m : Machine ω) : Prop :=
  Reached b.sessionId (b.controllerEpoch + 1) m

theorem Outdated.ne_bindingOf (outdated : Outdated b m)
    (live : m.state.hosts.lookup b.sessionId = some hosted) : b ≠ bindingOf hosted.manifest := by
  intro same
  have later := outdated.hosts.live live rfl
  have epochs : b.controllerEpoch = hosted.manifest.controllerEpoch := congrArg _ same
  omega

/-- A renewal could only repeat the last transition, and that one was asked for with a
binding of the current generation. -/
theorem Outdated.renew_refused {expires : Int} {transitionId : String} (outdated : Outdated b m)
    (asked : EveryHost (fun _ => LastAsked env payloads) m)
    (collisionFree : Set.InjOn env.digest (insert (.renew b expires) payloads)) :
    Refused (renewIdempotent env b expires (receiptOf env transitionId (.renew b expires)))
      m.state := by
  intro issued t ran
  obtain ⟨hosted, live, ⟨replays, -, -⟩ | ⟨-, next, applied, -, -⟩⟩ :=
    changeBinding_ok_iff.mp ran
  · obtain ⟨-, last⟩ := replays_true_iff.mp replays
    obtain ⟨previous, change, digest, member, renewed⟩ := asked.live live _ last
    have same : Payload.renew b expires = change.payload previous :=
      collisionFree (Set.mem_insert _ _) (Set.mem_insert_of_mem _ member) digest
    cases change with
    | renew =>
      cases same
      have later := outdated.hosts.live live rfl
      have epochs := renewed rfl
      omega
    | rotate | reclaim | claim | detach => cases same
  · exact outdated.ne_bindingOf live applied.previous_eq

/-- No receipt in the directory of the session is one of the binding. -/
def Unreceipted (b : SupervisorBinding) (m : Machine ω) : Prop :=
  ∀ ended, m.state.directories.lookup b.sessionId = some (some ended) → ended.binding ≠ b

/-- The receipts of later terminations are those of later bindings. -/
theorem Unreceipted.step (unreceipted : Unreceipted b m) (outdated : Outdated b m)
    (coherent : Coherent m) (step : MachineStep env m event m') : Unreceipted b m' := by
  intro ended found
  rcases step.directory coherent outdated.taken with same | ⟨hosted, receipt, live, placed⟩
  · exact unreceipted ended (same ▸ found)
  · cases placed.symm.trans found
    exact (outdated.ne_bindingOf live).symm

theorem Unreceipted.run (unreceipted : Unreceipted b m) (outdated : Outdated b m)
    (coherent : Coherent m) (run : Run (MachineStep env) m events m') : Unreceipted b m' := by
  have all : Coherent m' ∧ Outdated b m' ∧ Unreceipted b m' :=
    Run.invariant (I := fun m => Coherent m ∧ Outdated b m ∧ Unreceipted b m)
      (fun ⟨coherent, outdated, unreceipted⟩ step => ⟨coherent.step step,
        outdated.step coherent step, unreceipted.step outdated coherent step⟩)
      ⟨coherent, outdated, unreceipted⟩ run
  exact all.2.2

theorem Outdated.terminate_refused (outdated : Outdated b m) (unreceipted : Unreceipted b m)
    (receipt : TransitionReceipt) :
    Refused (terminateIdempotent env b receipt) m.state := by
  intro u t ran
  rw [terminateIdempotent, run_reads_bind] at ran
  split at ran
  next hosted live =>
    obtain ⟨_, checked, -⟩ := ofExcept_bind_ok_iff.mp ran
    exact outdated.ne_bindingOf live (exact_ok_iff.mp checked).2.1
  next =>
    obtain ⟨found, v, read, answered⟩ := bind_ok_iff.mp ran
    obtain ⟨joined, -⟩ := terminationReceipt_ok read
    cases found with
    | none => cases answered
    | some ended =>
      have other := unreceipted ended (Option.join_eq_some_iff.mp joined.symm)
      have ok : ended.answer b receipt = .ok u := congrArg Prod.fst answered
      rw [TerminationReceipt.answer, if_pos other] at ok
      cases ok

/-! ## Detached hosts -/

variable (env) in
/-- The step is a claim or a reclaim of the host that is granted and not a repetition. -/
def ClaimsAt (m : Machine ω) (event : MachineEvent) (id : String) : Prop :=
  ∃ previous owner epoch expires asked receipt hosted next,
    Seats owner epoch expires asked ∧ event = .call (.change previous asked receipt) ∧
    previous.sessionId = id ∧ m.state.hosts.lookup id = some hosted ∧
    hosted.manifest.replays receipt = .ok false ∧
    Applies env asked previous receipt hosted m.state.world next

/-- The host of a session, live or being ended, has no controller. -/
structure Unattended (id : String) (m : Machine ω) : Prop where
  taken : m.state.directories.lookup id ≠ none
  hosts : EveryHost (fun key manifest => key = id → manifest.controllerAttached = false) m

theorem Unattended.step (unattended : Unattended id m) (coherent : Coherent m)
    (step : MachineStep env m event m') (unclaimed : ¬ ClaimsAt env m event id) :
    Unattended id m' := by
  refine ⟨?_, unattended.hosts.step step ?_ ?_⟩
  · rcases step.directory coherent unattended.taken with same | ⟨_, _, -, ended⟩
    · rw [same]
      exact unattended.taken
    · rw [ended]
      exact nofun
  · rintro manifest ioMode rfl untaken rfl
    exact absurd untaken unattended.taken
  · rintro previous asked receipt hosted next rfl found unrepeated applied before rfl
    have guard := applied.guard
    -- Of the changes of controller only a claim and a reclaim accept a detached host.
    cases asked with
    | claim owner epoch expires =>
      exact absurd ⟨previous, owner, epoch, expires, _, receipt, hosted, next, .inl rfl, rfl, rfl,
        found, unrepeated, applied⟩ unclaimed
    | reclaim owner epoch expires =>
      exact absurd ⟨previous, owner, epoch, expires, _, receipt, hosted, next, .inr rfl, rfl, rfl,
        found, unrepeated, applied⟩ unclaimed
    | rotate | detach | renew =>
      cases (before rfl).symm.trans (exact_ok_iff.mp guard).2.2

theorem Unattended.run (unattended : Unattended id m)
    (coherent : Coherent m) (run : Run (MachineStep env) m events m')
    (unclaimed : ∀ mid event, Run.Takes (MachineStep env) m events mid event →
      ¬ ClaimsAt env mid event id) : Unattended id m' := by
  have both : Coherent m' ∧ Unattended id m' :=
    Run.invariant_where (I := fun m => Coherent m ∧ Unattended id m)
      (C := fun mid event => ¬ ClaimsAt env mid event id)
      (fun both unclaimed step => ⟨both.1.step step, both.2.step both.1 step unclaimed⟩)
      ⟨coherent, unattended⟩ run unclaimed
  exact both.2

theorem Coherent.unattended (coherent : Coherent m) (live : m.state.hosts.lookup id = some hosted)
    (detached : hosted.manifest.controllerAttached = false) : Unattended id m := by
  obtain ⟨-, -, directory, unswept⟩ := (coherent.each id).hosted live
  refine ⟨directory, ⟨?_, ?_⟩⟩
  · rintro key other found rfl
    cases live.symm.trans found
    exact detached
  · rintro key sweeping found rfl
    cases unswept.symm.trans found

/-! ## The generation of a host -/

/-- A call that fails keeps the generation of every host. -/
theorem Effect.epochAt_of_error {e : String} (effect : Effect env s call r t)
    (failed : r = .error e) : t.epochAt id = s.epochAt id := by
  simp only [epochAt]
  cases effect with
  | quiet _ same => rw [(books_eq_iff.mp same).1]
  | repeated | changed | spawned | ended => cases failed
  | reserved _ hosts | receipted _ hosts => rw [hosts]
  | @stored binding _ _ _ _ _ hosted stocked _ found manifests hosts =>
    rw [hosts]
    by_cases here : id = binding.sessionId
    · rw [here, lookup_insert, found, Option.map_some, Option.map_some, manifests.1]
    · rw [lookup_insert_ne here]

/-! ## The whole -/

variable (env) in
/-- What the supervisor makes of bindings at the end of a run from `start`. -/
structure CapabilityLinear (start : Machine ω) (events : List MachineEvent) (m : Machine ω) :
    Prop where
  /-- At most one binding passes the check of an attached controller. -/
  unique : ∀ {id hosted now now' b b'}, m.state.hosts.lookup id = some hosted →
    exact b hosted.manifest now = .ok () → exact b' hosted.manifest now' = .ok () → b = b'
  /-- A binding issued before a transition of its host other than a renewal is refused, for a
  termination if no receipt of it was in place at that transition. -/
  outdated : ∀ {before issue between advance after a c b},
    events = before ++ issue :: (between ++ advance :: after) →
    Run (MachineStep env) start before a → IssuesAt env a issue b →
    Run (MachineStep env) start (before ++ issue :: between) c →
    AdvancesAt env c advance b.sessionId → (∀ bytes, Refused (write env b bytes) m.state) ∧
      (∀ cols rows, Refused (resize env b cols rows) m.state) ∧
      (∀ offset maxBytes stderr, Refused (drain env b offset maxBytes stderr) m.state) ∧
      (∀ expires transitionId, Set.InjOn env.digest (insert (.renew b expires) (presented events)) →
        Refused (renewIdempotent env b expires (receiptOf env transitionId (.renew b expires)))
          m.state) ∧
      (Unreceipted b c → ∀ receipt, Refused (terminateIdempotent env b receipt) m.state)
  /-- A change that is granted repeats the last transition, or is a renewal and keeps the
  generation, or advances it by one. -/
  granted : ∀ {previous asked receipt b t},
    (changeBinding env previous asked receipt).run m.state = (.ok b, t) →
    ∃ hosted, m.state.hosts.lookup previous.sessionId = some hosted ∧
      (hosted.manifest.replays receipt = .ok true ∧ t = m.state ∨ t.epochAt previous.sessionId =
          some (hosted.manifest.controllerEpoch + if asked.isRenew then 0 else 1))
  /-- A call that fails keeps every generation. -/
  failed : ∀ {call : SupervisorCall} {e id}, ((call.perform env).run m.state).1 = .error e →
    ((call.perform env).run m.state).2.epochAt id = m.state.epochAt id
  /-- A detached host accepts no input and no size until it is claimed or reclaimed. -/
  detached : ∀ {before after a id hosted}, events = before ++ after →
    Run (MachineStep env) start before a → a.state.hosts.lookup id = some hosted →
    hosted.manifest.controllerAttached = false →
    (∀ mid event, Run.Takes (MachineStep env) a after mid event → ¬ ClaimsAt env mid event id) →
    ∀ b : SupervisorBinding, b.sessionId = id → (∀ bytes, Refused (write env b bytes) m.state) ∧
        ∀ cols rows, Refused (resize env b cols rows) m.state

/-- **In every run of the supervisor a host has one live capability.** -/
theorem capability_linearity {directories : Table String (Option TerminationReceipt)} {w : ω}
    {events : List MachineEvent}
    (run : Run (MachineStep env) (Machine.initial directories w) events m)
    (requested : ∀ event ∈ events, event.AsRequested env) :
    CapabilityLinear env (Machine.initial directories w) events m := by
  have sound : ∀ {labels : List MachineEvent} {a : Machine ω},
      Run (MachineStep env) (Machine.initial directories w) labels a → Coherent a :=
    Run.invariant (fun coherent step => coherent.step step) (coherent_initial directories w)
  have asked : EveryHost (fun _ => LastAsked env (presented events)) m := by
    refine run.invariant_where (C := fun _ event => event ∈ events)
      (fun every member step => lastAsked_step every step (requested _ member)
        fun _ asks => ⟨_, member, asks⟩)
      ⟨fun found => (by cases found), fun found => (by cases found)⟩ ?_
    rintro - event ⟨before, after, split, -⟩
    simp [split]
  refine ⟨?_, ?_, fun {previous asked receipt b t} granted => ?_, fun failed => ?_, ?_⟩
  · intro id hosted now now' b b' live first second
    exact (exact_ok_iff.mp first).2.1.trans (exact_ok_iff.mp second).2.1.symm
  · rintro before issue between advance after a c b rfl toA issues toC advances
    obtain ⟨a', a'', toA', issued, fromA⟩ := run.split_at
    obtain rfl := Run.deterministic machineStep_functional toA toA'
    obtain ⟨c', c'', between', advanced, rest⟩ := fromA.split_at
    obtain rfl := Run.deterministic machineStep_functional toC (toA.append (.next issued between'))
    have first := issues.reached (sound toA) issued
    have atC := first.run ((sound toA).step issued) between'
    have later := advances.reached (sound toC) advanced atC
    have outdated : Outdated b m := later.run ((sound toC).step advanced) rest
    have refused : Refused (controlled env b) m.state :=
      controlled_refused fun _ live => .inl (outdated.ne_bindingOf live)
    refine ⟨(input_refused refused).1, (input_refused refused).2, fun _ _ _ => refused.bind _,
      fun _ _ collisionFree => outdated.renew_refused asked collisionFree, fun unreceipted => ?_⟩
    have still : Unreceipted b c'' :=
      fun ended found => unreceipted ended (advances.directories advanced ▸ found)
    exact outdated.terminate_refused (still.run later ((sound toC).step advanced) rest)
  · obtain ⟨hosted, found, ⟨replays, -, rfl⟩ | ⟨-, next, applied, -, rfl⟩⟩ :=
      changeBinding_ok_iff.mp granted
    · exact ⟨hosted, found, .inl ⟨replays, rfl⟩⟩
    · refine ⟨hosted, found, .inr ?_⟩
      simp only [epochAt, replaced, lookup_insert, Option.map_some, Option.some.injEq]
      cases renews : asked.isRenew with
      | true => exact applied.epoch_renew renews
      | false => exact applied.epoch_advance renews
  · exact (perform_effect env _ m.state).epochAt_of_error failed
  · rintro before after a id hosted rfl toA live detached unclaimed b rfl
    obtain ⟨a', toA', rest⟩ := run.split
    obtain rfl := Run.deterministic machineStep_functional toA toA'
    have unattended := ((sound toA).unattended live detached).run (sound toA) rest unclaimed
    have refused : Refused (controlled env b) m.state :=
      controlled_refused fun _ found => .inr (unattended.hosts.live found rfl)
    exact input_refused refused

/-! ## A host that changes hands -/

/-- A host is spawned and handed on. -/
def handOnCalls : List SupervisorCall :=
  [.spawn (sampleManifest "host" 1000) .pty,
    .change (bindingOf (sampleManifest "host" 1000)) (.rotate "other" 2 1000)
      (some (receiptOf clockEnvironment "handoff"
        (.handoff (bindingOf (sampleManifest "host" 1000)) "other" 2 1000)))]

def handOnMachine (calls : List SupervisorCall) : Machine Int :=
  calls.foldl (fun m call => m.perform clockEnvironment call) (Machine.initial ∅ 0)

theorem handOn_requested :
    ∀ event ∈ handOnCalls.map MachineEvent.call, event.AsRequested clockEnvironment := by
  intro event member
  simp only [handOnCalls, map_cons, map_nil, mem_cons, not_mem_nil, or_false] at member
  rcases member with rfl | rfl <;> rfl

theorem capability_linearity_handOn :
    CapabilityLinear clockEnvironment (Machine.initial ∅ 0) (handOnCalls.map .call)
        (handOnMachine handOnCalls) ∧
      Refused (write clockEnvironment (bindingOf (sampleManifest "host" 1000)) [])
        (handOnMachine handOnCalls).state := by
  have linear : CapabilityLinear _ (Machine.initial ∅ 0) _ (handOnMachine handOnCalls) :=
    capability_linearity (.next (.call _ _) (.next (.call _ _) (.done _))) handOn_requested
  have ordered : handOnCalls.map MachineEvent.call = [] ++ _ :: ([] ++ _ :: []) := rfl
  refine ⟨linear, (linear.outdated ordered (.done _)
    ⟨_, rfl, rfl⟩ (.next (.call _ _) (.done _)) ?_).1 []⟩
  obtain ⟨hosted, found, ⟨replays, -⟩ | ⟨unrepeated, next, applied, -⟩⟩ :=
    changeBinding_ok_iff.mp (show (changeBinding clockEnvironment
      (bindingOf (sampleManifest "host" 1000)) (.rotate "other" 2 1000)
      (some (receiptOf clockEnvironment "handoff"
        (.handoff (bindingOf (sampleManifest "host" 1000)) "other" 2 1000)))).run
          (handOnMachine (handOnCalls.take 1)).state = (.ok _, _) from rfl)
  · cases found
    cases replays
  · exact ⟨_, _, _, hosted, next, rfl, rfl, rfl, found, unrepeated, applied⟩

/-- Surroundings in which a receipt is put in place, but not reported as written. -/
def lateEnvironment : Environment Int :=
  { clockEnvironment with writeReceipt := fun w => (.unsynced "sync", w) }

def lateBinding : SupervisorBinding := bindingOf (sampleManifest "host" 4)

def lateReceipt : TransitionReceipt := receiptOf lateEnvironment "end" (.terminate lateBinding)

/-- A termination that fails after its receipt is in place, a handoff, and a sweep. -/
def lateEvents : List MachineEvent :=
  [.call (.spawn (sampleManifest "host" 4) .pty), .call (.terminate lateBinding lateReceipt),
    .call (.change lateBinding (.rotate "other" 2 4)
      (some (receiptOf lateEnvironment "handoff" (.handoff lateBinding "other" 2 4)))),
    .collect ["host"], .kill "host", .settle "host"]

/-- The first binding asks again for the end of the host, a generation later, and is told that
it has ended it. -/
theorem outdated_terminate_accepted : ∃ m,
    Run (MachineStep lateEnvironment) (Machine.initial ∅ 0) lateEvents m ∧
      (∀ event ∈ lateEvents, event.AsRequested lateEnvironment) ∧
      m.advanced = [("host", "handoff")] ∧
      ((terminateIdempotent lateEnvironment lateBinding lateReceipt).run m.state).1 = .ok () := by
  refine ⟨_, .next (.call _ _) (.next (.call _ _) (.next (.call _ _) (.next (.collect _ _ ?_)
    (.next (.kill _ _ _ rfl) (.next (.settle _ _ _ _ rfl) (.done _)))))), ?_, ?_, ?_⟩
  · exact ⟨List.Subperm.refl _, rfl⟩
  · intro event member
    simp only [lateEvents, mem_cons, not_mem_nil, or_false] at member
    rcases member with rfl | rfl | rfl | rfl | rfl | rfl <;> first | rfl | trivial
  · rfl
  · rfl

/-- **A generation is never taken back.**  Once hosted, a session never has a lower generation,
live or being ended, and is never spawned again. -/
theorem generation_kept {directories : Table String (Option TerminationReceipt)} {w : ω}
    {before after : List MachineEvent} {hosted : Hosted}
    (run : Run (MachineStep env) (Machine.initial directories w) before m)
    (live : m.state.hosts.lookup id = some hosted) (later : Run (MachineStep env) m after m') :
    Reached id hosted.manifest.controllerEpoch m' ∧ ∀ manifest ioMode b,
      manifest.sessionId = id →
      (((SupervisorCall.spawn manifest ioMode).perform env).run m'.state).1 ≠ .ok (some b) := by
  have coherent : Coherent m :=
    run.invariant (fun coherent step => coherent.step step) (coherent_initial directories w)
  have reached := (coherent.reached live le_rfl).run coherent later
  refine ⟨reached, ?_⟩
  rintro manifest ioMode b rfl issued
  have effect := perform_effect env (.spawn manifest ioMode) m'.state
  rw [issued] at effect
  cases effect with
  | quiet silent => exact silent b rfl
  | spawned _ _ untaken => exact reached.taken untaken

theorem generation_kept_handOn : Reached "host" 1 (handOnMachine handOnCalls) := by
  have first : Run (MachineStep clockEnvironment) (Machine.initial ∅ 0) _
    (handOnMachine (handOnCalls.take 1)) := .next (.call _ _) (.done _)
  have live : (handOnMachine (handOnCalls.take 1)).state.hosts.lookup "host" = some _ := rfl
  exact (generation_kept first live (.next (.call _ _) (.done _))).1

end OwnMesh.Supervisor
