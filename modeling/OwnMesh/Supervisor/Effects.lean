import OwnMesh.Supervisor.Dispatch

/-!
# What the supervisor's operations do

A change of controller succeeds in one of two ways: it repeats the transition the
manifest applied last, and nothing happens, or it passes the checks of its kind
(`Applies`) and replaces the manifest.
-/

namespace OwnMesh.Supervisor

open Foundations Foundations.Program Ipc List HostManifest

variable {ω : Type} {env : Environment ω} {s t : SupervisorState ω}

/-! ## Questions -/

@[simp]
theorem run_ask_bind {ε α β : Type} (question : ω → α × ω)
    (next : α → Program (SupervisorState ω) ε β) (s : SupervisorState ω) :
    (ask question >>= next).run s =
      (next (question s.world).1).run { s with world := (question s.world).2 } := rfl

theorem attemptTo_ok_iff {describe : String → String} {question : ω → Option String × ω}
    {u : Unit} : (attemptTo describe question).run s = (.ok u, t) ↔
      (question s.world).1 = none ∧ t = { s with world := (question s.world).2 } := by
  simp only [attemptTo, run_ask_bind]
  cases (question s.world).1 with
  | none => simp [eq_comm]
  | some => simp

theorem hostOf_ok_iff {id : String} {hosted : Hosted} :
    (hostOf id).run s = (.ok hosted, t) ↔ s.hosts.lookup id = some hosted ∧ t = s := by
  simp only [hostOf, run_reads_bind]
  cases s.hosts.lookup id with
  | none => simp
  | some => simp [eq_comm]

/-! ## Manifests -/

/-- What the checks of a manifest ask for. -/
structure ValidManifest (manifest : HostManifest) : Prop where
  components : ∀ value ∈ [manifest.sessionId, manifest.deviceId, manifest.workspaceId,
    manifest.ownerPrincipal], validComponent value = true
  nonce : validComponent manifest.hostNonce = true
  numbers : manifest.controllerEpoch ≠ 0 ∧ 0 < manifest.bindingExpiresUnix ∧
    0 < manifest.hostExpiresUnix

variable {manifest : HostManifest}

theorem validate_ok_iff : manifest.validate = .ok () ↔ ValidManifest manifest := by
  rw [validate, runChecks_ok_iff]
  simp only [forall_mem_cons, not_mem_nil, false_implies, implies_true, and_true, decide_eq_true_eq]
  constructor
  · rintro ⟨session, device, workspace, owner, nonce, numbers⟩
    exact ⟨by simp [session, device, workspace, owner], nonce, numbers⟩
  · rintro ⟨components, nonce, numbers⟩
    simp only [forall_mem_cons, not_mem_nil, false_implies, implies_true, and_true] at components
    obtain ⟨session, device, workspace, owner⟩ := components
    exact ⟨session, device, workspace, owner, nonce, numbers⟩

/-- The manifest of the next controller of a host. -/
def HostManifest.heir (manifest : HostManifest) (owner : String) (epoch : Nat) (expires : Int)
    (fresh : String) : HostManifest :=
  { manifest with
    ownerPrincipal := owner
    controllerAttached := true
    hostNonce := s!"host_{fresh}"
    controllerEpoch := epoch
    bindingExpiresUnix := expires
    lastTransition := none }

variable {next : HostManifest} {receipt : TransitionReceipt}

theorem successor_ok_iff {owner fresh : String} {epoch : Nat} {expires : Int} :
    manifest.successor owner epoch expires fresh = .ok next ↔
      ValidManifest (manifest.heir owner epoch expires fresh) ∧
        next = manifest.heir owner epoch expires fresh := by
  -- the io mode is set after the first validation, which does not look at it
  have first : new manifest.sessionId manifest.deviceId manifest.workspaceId owner
      epoch expires manifest.hostExpiresUnix fresh =
        (manifest.heir owner epoch expires fresh).validate.map fun _ =>
          { manifest.heir owner epoch expires fresh with ioMode := .pty } := rfl
  rw [successor, first, ← validate_ok_iff]
  cases valid : (manifest.heir owner epoch expires fresh).validate with
  | error => simp [bind, Except.bind, Except.map]
  | ok =>
    show ((manifest.heir owner epoch expires fresh).validate >>= fun _ =>
      Except.ok (manifest.heir owner epoch expires fresh)) = .ok next ↔ _
    simp [valid, bind, Except.bind, eq_comm]

/-- A receipt is kept when it is one the supervisor is willing to keep. -/
theorem keepReceipt_ok_iff : manifest.keepReceipt (some receipt) = .ok next ↔
      validateTransition receipt = .ok () ∧
        next = { manifest with lastTransition := some receipt } := by
  simp only [keepReceipt, recordTransition]
  cases validateTransition receipt with
  | error => simp [Except.map]
  | ok => simp [Except.map, eq_comm]

/-- A receipt is a repetition when it is the one kept last. -/
theorem replays_true_iff : manifest.replays (some receipt) = .ok true ↔
      validateTransition receipt = .ok () ∧ manifest.lastTransition = some receipt := by
  simp only [replays, matchesTransition]
  cases validateTransition receipt with
  | error => simp [bind, Except.bind]
  | ok =>
    cases manifest.lastTransition with
    | none => simp [bind, Except.bind, pure, Except.pure]
    | some last =>
      by_cases same : last = receipt
      · simp [bind, Except.bind, pure, Except.pure, same]
      · by_cases reused : last.transitionId = receipt.transitionId
        · simp [bind, Except.bind, same, reused, throw, throwThe, MonadExceptOf.throw]
        · simp [bind, Except.bind, pure, Except.pure, same, reused]

theorem valid_of_not_replays (unrepeated : manifest.replays (some receipt) = .ok false) :
    validateTransition receipt = .ok () := by
  simp only [replays, matchesTransition] at unrepeated
  cases valid : validateTransition receipt with
  | error => simp [valid, bind, Except.bind] at unrepeated
  | ok => rfl

/-! ## Changes of controller -/

section Changes

variable (env)

/-- What a change reads of its surroundings, in order: the clock, a nonce, the clock. -/
def Environment.guardClock (w : ω) : Int := (env.now w).1
def Environment.nonce (w : ω) : String := (env.fresh (env.now w).2).1
def Environment.lifetimeClock (w : ω) : Int := (env.now (env.fresh (env.now w).2).2).1
def Environment.beforeWrite (w : ω) : ω := (env.now (env.fresh (env.now w).2).2).2

/-- A change passes its checks on a host and leads to the manifest `next`. -/
structure Applies (change : Change) (previous : SupervisorBinding)
    (receipt : Option TransitionReceipt) (hosted : Hosted) (w : ω) (next : HostManifest) :
    Prop where
  guard : change.guard previous hosted.manifest (env.guardClock w) = .ok ()
  epoch : change.checkEpoch previous = .ok ()
  successor : ∃ plain, change.next hosted.manifest (env.nonce w) = .ok plain ∧
    change.checkLifetimes plain (env.lifetimeClock w) = .ok () ∧
    plain.keepReceipt receipt = .ok next
  custody : change.checkCustody hosted.custody next = .ok ()
  written : (env.writeManifest (env.beforeWrite w)).1 = none

/-- The state after a host got a new manifest. -/
def SupervisorState.replaced (s : SupervisorState ω) (id : String) (hosted : Hosted)
    (next : HostManifest) (w : ω) : SupervisorState ω :=
  { s with
    hosts := s.hosts.insert id { hosted with manifest := next, custody := next }
    world := w }

variable {env} {change : Change} {previous : SupervisorBinding}
  {receipt : Option TransitionReceipt} {hosted : Hosted} {b : SupervisorBinding}

theorem replaceManifest_ok_iff {id : String} {u : Unit} :
    (replaceManifest env change id hosted next).run s = (.ok u, t) ↔
      change.checkCustody hosted.custody next = .ok () ∧ (env.writeManifest s.world).1 = none ∧
        t = s.replaced id hosted next (env.writeManifest s.world).2 := by
  rw [replaceManifest, ofExcept_bind_ok_iff]
  constructor
  · rintro ⟨_, checked, ran⟩
    obtain ⟨_, s₁, attempted, ran⟩ := bind_ok_iff.mp ran
    obtain ⟨written, rfl⟩ := attemptTo_ok_iff.mp attempted
    cases ran
    exact ⟨checked, written, rfl⟩
  · rintro ⟨checked, written, rfl⟩
    exact ⟨(), checked, bind_ok_iff.mpr ⟨(), _, attemptTo_ok_iff.mpr ⟨written, rfl⟩, rfl⟩⟩

/-- A change that is no repetition succeeds exactly when its checks pass. -/
theorem applyChange_ok_iff : (applyChange env previous change receipt hosted).run s = (.ok b, t) ↔
      ∃ next, Applies env change previous receipt hosted s.world next ∧ b = bindingOf next ∧
        t = s.replaced previous.sessionId hosted next
          (env.writeManifest (env.beforeWrite s.world)).2 := by
  simp only [applyChange, run_ask_bind, ofExcept_bind_ok_iff]
  constructor
  · rintro ⟨_, guard, _, epoch, plain, successor, _, lifetimes, next, kept, ran⟩
    obtain ⟨_, s₁, replaced, ran⟩ := bind_ok_iff.mp ran
    obtain ⟨custody, written, rfl⟩ := replaceManifest_ok_iff.mp replaced
    cases ran
    exact ⟨next, ⟨guard, epoch, ⟨plain, successor, lifetimes, kept⟩, custody, written⟩, rfl, rfl⟩
  · rintro ⟨next, ⟨guard, epoch, ⟨plain, successor, lifetimes, kept⟩, custody, written⟩, rfl, rfl⟩
    exact ⟨(), guard, (), epoch, plain, successor, (), lifetimes, next, kept, bind_ok_iff.mpr
      ⟨(), _, replaceManifest_ok_iff.mpr ⟨custody, written, rfl⟩, rfl⟩⟩

/-- The two ways a change of controller succeeds. -/
theorem changeBinding_ok_iff : (changeBinding env previous change receipt).run s = (.ok b, t) ↔
      ∃ hosted, s.hosts.lookup previous.sessionId = some hosted ∧
        (hosted.manifest.replays receipt = .ok true ∧ b = bindingOf hosted.manifest ∧ t = s ∨
          hosted.manifest.replays receipt = .ok false ∧
            ∃ next, Applies env change previous receipt hosted s.world next ∧ b = bindingOf next ∧
              t = s.replaced previous.sessionId hosted next
                (env.writeManifest (env.beforeWrite s.world)).2) := by
  rw [changeBinding, bind_ok_iff]
  constructor
  · rintro ⟨hosted, s₁, looked, ran⟩
    obtain ⟨found, rfl⟩ := hostOf_ok_iff.mp looked
    obtain ⟨replayed, replays, ran⟩ := ofExcept_bind_ok_iff.mp ran
    refine ⟨hosted, found, ?_⟩
    cases replayed with
    | true =>
      cases ran
      exact .inl ⟨replays, rfl, rfl⟩
    | false =>
      exact .inr ⟨replays, applyChange_ok_iff.mp ran⟩
  · rintro ⟨hosted, found, ⟨replays, rfl, rfl⟩ | ⟨replays, applied⟩⟩
    · exact ⟨hosted, _, hostOf_ok_iff.mpr ⟨found, rfl⟩,
        ofExcept_bind_ok_iff.mpr ⟨true, replays, rfl⟩⟩
    · exact ⟨hosted, _, hostOf_ok_iff.mpr ⟨found, rfl⟩,
        ofExcept_bind_ok_iff.mpr ⟨false, replays, applyChange_ok_iff.mpr applied⟩⟩

theorem serve_ok_iff {α : Type} {m : SupervisorM ω α} {a : α} :
    (serve m).run s = (.ok a, t) ↔ m.run s = (.ok a, t) := by
  rw [serve, run_mapError]
  rcases m.run s with ⟨_ | found, s'⟩ <;> simp [Except.mapError]

theorem dispatchChange_ok_iff {id : String} :
    (dispatchChange env previous change id).run s = (.ok b, t) ↔ change.checkRequest id = .ok () ∧
        (changeBinding env previous change
          (some (receiptOf env id (change.payload previous)))).run s = (.ok b, t) := by
  rw [dispatchChange, ofExcept_bind_ok_iff]
  constructor
  · rintro ⟨_, checked, ran⟩
    exact ⟨checked, serve_ok_iff.mp ran⟩
  · rintro ⟨checked, ran⟩
    exact ⟨(), checked, serve_ok_iff.mpr ran⟩

theorem rotateManifest_ok_iff {custody : HostManifest} : rotateManifest custody next = .ok () ↔
      ValidManifest next ∧ (next.sessionId = custody.sessionId ∧ next.deviceId = custody.deviceId ∧
          next.workspaceId = custody.workspaceId ∧ next.ioMode = custody.ioMode) ∧
        custody.controllerEpoch < next.controllerEpoch := by
  rw [rotateManifest, ← validate_ok_iff]
  cases next.validate with
  | error => simp [bind, Except.bind]
  | ok => simp [bind, Except.bind, runChecks_ok_iff]

/-- The manifest a change leads to was validated. -/
theorem Applies.valid {w : ω}
    (applied : Applies env change previous receipt hosted w next) : ValidManifest next := by
  have checked := applied.custody
  unfold Change.checkCustody at checked
  split at checked
  · rw [← validate_ok_iff]
    unfold renewManifest at checked
    cases valid : next.validate with
    | error => simp [valid, bind, Except.bind] at checked
    | ok => rfl
  · exact (rotateManifest_ok_iff.mp checked).1

/-- The binding a change returns is that of a validated manifest, and the host still has
one. -/
theorem changeBinding_valid (valid : ∀ hosted, s.hosts.lookup previous.sessionId = some hosted →
      ValidManifest hosted.manifest)
    (ran : (changeBinding env previous change receipt).run s = (.ok b, t)) :
    (∃ manifest, ValidManifest manifest ∧ b = bindingOf manifest) ∧
      ∀ hosted, t.hosts.lookup previous.sessionId = some hosted →
        ValidManifest hosted.manifest := by
  obtain ⟨hosted, found, ⟨-, rfl, rfl⟩ | ⟨-, next, applied, rfl, rfl⟩⟩ :=
    changeBinding_ok_iff.mp ran
  · exact ⟨⟨_, valid hosted found, rfl⟩, valid⟩
  · refine ⟨⟨next, applied.valid, rfl⟩, fun hosted' found' => ?_⟩
    rw [SupervisorState.replaced, AList.lookup_insert] at found'
    cases found'
    exact applied.valid

end Changes

/-! ## Asking again for a handoff

A claim and a reclaim of one seat have the same payload, so the supervisor takes either
as a repetition of the other.  They differ in the bindings they accept: a claim needs one
that has not expired, a reclaim one that has. -/

section Again

variable {previous : SupervisorBinding}

theorem claim_guard_ok_iff {owner : String} {epoch : Nat} {expires now : Int} :
    (Change.claim owner epoch expires).guard previous manifest now = .ok () ↔
      now < manifest.bindingExpiresUnix ∧ previous = bindingOf manifest ∧
        manifest.controllerAttached = false := by
  simp [Change.guard, runChecks_ok_iff, SupervisorBinding.matches]

theorem reclaim_guard_ok_iff {owner : String} {epoch : Nat} {expires now : Int} :
    (Change.reclaim owner epoch expires).guard previous manifest now = .ok () ↔
      previous = bindingOf manifest ∧ manifest.bindingExpiresUnix ≤ now := by
  simp [Change.guard, runChecks_ok_iff, SupervisorBinding.matches]

theorem validateRuntimeLifetimes_ok_iff {now : Int} :
    manifest.validateRuntimeLifetimes now = .ok () ↔
      (now < manifest.bindingExpiresUnix ∧ now < manifest.hostExpiresUnix) ∧
        manifest.bindingExpiresUnix ≤ saturatingAdd now supervisorBindingMaxTtlSecs ∧
        manifest.hostExpiresUnix ≤ saturatingAdd now supervisorHostMaxTtlSecs ∧
        manifest.bindingExpiresUnix ≤ manifest.hostExpiresUnix := by
  simp [validateRuntimeLifetimes, runChecks_ok_iff]

/-- Lifetimes that are within the policy stay so. -/
theorem saturatingAdd_mono {a b c : Int} (later : a ≤ b) :
    saturatingAdd a c ≤ saturatingAdd b c := by
  unfold saturatingAdd
  omega

/-- Surroundings whose random identifiers are identifiers and whose manifests can be
written. -/
structure Dependable (env : Environment ω) : Prop where
  nonces : ∀ w, validComponent s!"host_{(env.fresh w).1}" = true
  writes : ∀ w, (env.writeManifest w).1 = none

/-- One of the two changes that seat a controller on a host nobody attends to. -/
def Seats (owner : String) (epoch : Nat) (expires : Int) (change : Change) : Prop :=
  change = .claim owner epoch expires ∨ change = .reclaim owner epoch expires

variable {owner : String} {epoch : Nat} {expires : Int} {change : Change}
  {previous : SupervisorBinding} {receipt : TransitionReceipt} {hosted : Hosted} {w w' : ω}
  {next : HostManifest}

/-- What is left to ask of a host whose seat could be taken, when it is asked for again
later by a claim. -/
theorem applies_claim_iff (dependable : Dependable env) (seats : Seats owner epoch expires change)
    (applied : Applies env change previous (some receipt) hosted w next)
    (guardLater : env.guardClock w ≤ env.guardClock w')
    (lifetimeLater : env.lifetimeClock w ≤ env.lifetimeClock w') :
    (∃ again, Applies env (.claim owner epoch expires) previous (some receipt) hosted w' again) ↔
      env.guardClock w' < hosted.manifest.bindingExpiresUnix ∧ env.lifetimeClock w' < expires ∧
        env.lifetimeClock w' < hosted.manifest.hostExpiresUnix := by
  constructor
  · rintro ⟨again, guard, -, ⟨plain, successor, lifetimes, -⟩, -, -⟩
    obtain ⟨-, rfl⟩ := successor_ok_iff.mp successor
    exact ⟨(claim_guard_ok_iff.mp guard).1, (validateRuntimeLifetimes_ok_iff.mp lifetimes).1⟩
  · rintro ⟨live, leased, hostLives⟩
    obtain ⟨guard, advances, ⟨plain, successor, lifetimes, kept⟩, custody, -⟩ := applied
    have detached : previous = bindingOf hosted.manifest ∧
        hosted.manifest.controllerAttached = false := by
      rcases seats with rfl | rfl
      · exact (claim_guard_ok_iff.mp guard).2
      · have expired := (reclaim_guard_ok_iff.mp guard).2
        omega
    have asClaim : change.next = (Change.claim owner epoch expires).next ∧
        change.checkLifetimes = (Change.claim owner epoch expires).checkLifetimes ∧
        change.checkEpoch = (Change.claim owner epoch expires).checkEpoch ∧
        change.checkCustody = (Change.claim owner epoch expires).checkCustody := by
      rcases seats with rfl | rfl <;> exact ⟨rfl, rfl, rfl, rfl⟩
    obtain ⟨sameNext, sameLifetimes, sameEpoch, sameCustody⟩ := asClaim
    rw [sameNext] at successor
    rw [sameLifetimes] at lifetimes
    rw [sameEpoch] at advances
    rw [sameCustody] at custody
    obtain ⟨valid, rfl⟩ := successor_ok_iff.mp successor
    obtain ⟨keepable, rfl⟩ := keepReceipt_ok_iff.mp kept
    obtain ⟨-, policy, hostPolicy, bounded⟩ := validateRuntimeLifetimes_ok_iff.mp lifetimes
    obtain ⟨-, identity, increases⟩ := rotateManifest_ok_iff.mp custody
    have valid' : ValidManifest (hosted.manifest.heir owner epoch expires (env.nonce w')) :=
      ⟨valid.components, dependable.nonces _, valid.numbers⟩
    refine ⟨_, claim_guard_ok_iff.mpr ⟨live, detached⟩, advances,
      ⟨_, successor_ok_iff.mpr ⟨valid', rfl⟩, validateRuntimeLifetimes_ok_iff.mpr
        ⟨⟨leased, hostLives⟩, Int.le_trans policy (saturatingAdd_mono lifetimeLater),
          Int.le_trans hostPolicy (saturatingAdd_mono lifetimeLater), bounded⟩,
        keepReceipt_ok_iff.mpr ⟨keepable, rfl⟩⟩,
      rotateManifest_ok_iff.mpr ⟨⟨valid'.components, valid'.nonce, valid'.numbers⟩, identity,
        increases⟩, dependable.writes _⟩

/-- The receipt of a request to seat a controller. -/
def seatReceipt (env : Environment ω) (previous : SupervisorBinding) (owner : String)
    (epoch : Nat) (expires : Int) (id : String) : TransitionReceipt :=
  receiptOf env id (.handoff previous owner epoch expires)

variable {before after left : SupervisorState ω} {b : SupervisorBinding} {id : String}

theorem seats_request (previous : SupervisorBinding) (id : String)
    (seats : Seats owner epoch expires change) :
    change.payload previous = .handoff previous owner epoch expires ∧
      change.checkRequest id = (Change.claim owner epoch expires).checkRequest id := by
  rcases seats with rfl | rfl <;> exact ⟨rfl, rfl⟩

section

variable (seats : Seats owner epoch expires change)
  (granted : (dispatchChange env previous change id).run before = (.ok b, after))
include seats granted

/-- After the supervisor has granted a seat, its manifest carries the receipt. -/
theorem granted_keeps_receipt : ∃ hosted, after.hosts.lookup previous.sessionId = some hosted ∧
      hosted.manifest.lastTransition = some (seatReceipt env previous owner epoch expires id) := by
  obtain ⟨-, granted⟩ := dispatchChange_ok_iff.mp granted
  rw [(seats_request previous id seats).1] at granted
  obtain ⟨hosted, found, ⟨replays, -, rfl⟩ | ⟨-, next, applied, -, rfl⟩⟩ :=
    changeBinding_ok_iff.mp granted
  · exact ⟨hosted, found, (replays_true_iff.mp replays).2⟩
  · refine ⟨_, AList.lookup_insert _, ?_⟩
    obtain ⟨plain, -, -, kept⟩ := applied.successor
    obtain ⟨-, rfl⟩ := keepReceipt_ok_iff.mp kept
    rfl

/-- A claim that finds its own receipt is granted, and nothing happens. -/
theorem claim_repeats (found : left.hosts.lookup previous.sessionId = some hosted)
    (last : hosted.manifest.lastTransition =
      some (seatReceipt env previous owner epoch expires id)) :
    (dispatchChange env previous (.claim owner epoch expires) id).run left =
      (.ok (bindingOf hosted.manifest), left) := by
  obtain ⟨request, changed⟩ := dispatchChange_ok_iff.mp granted
  rw [(seats_request previous id seats).1] at changed
  have keepable : validateTransition (seatReceipt env previous owner epoch expires id) =
      .ok () := by
    obtain ⟨_, -, ⟨replays, -, -⟩ | ⟨unrepeated, -⟩⟩ := changeBinding_ok_iff.mp changed
    · exact (replays_true_iff.mp replays).1
    · exact valid_of_not_replays unrepeated
  rw [(seats_request previous id seats).2] at request
  exact dispatchChange_ok_iff.mpr ⟨request, changeBinding_ok_iff.mpr
    ⟨hosted, found, .inl ⟨replays_true_iff.mpr ⟨keepable, last⟩, rfl, rfl⟩⟩⟩

end

/-- A seat the supervisor granted, or would have granted, is granted to a later claim
exactly when the claim finds its own receipt, or finds the old binding, the new lease and
the host still alive. -/
theorem claim_again_iff (dependable : Dependable env) (seats : Seats owner epoch expires change)
    (granted : (dispatchChange env previous change id).run before = (.ok b, after))
    (found : left.hosts.lookup previous.sessionId = some hosted)
    (leftBy : left.hosts.lookup previous.sessionId = before.hosts.lookup previous.sessionId ∨
      left.hosts.lookup previous.sessionId = after.hosts.lookup previous.sessionId)
    (guardLater : env.guardClock before.world ≤ env.guardClock left.world)
    (lifetimeLater : env.lifetimeClock before.world ≤ env.lifetimeClock left.world) :
    (∃ again t, (dispatchChange env previous (.claim owner epoch expires) id).run left =
        (.ok again, t)) ↔
      hosted.manifest.lastTransition = some (seatReceipt env previous owner epoch expires id) ∨
        (env.guardClock left.world < hosted.manifest.bindingExpiresUnix ∧
          env.lifetimeClock left.world < expires ∧
          env.lifetimeClock left.world < hosted.manifest.hostExpiresUnix) := by
  by_cases last : hosted.manifest.lastTransition =
      some (seatReceipt env previous owner epoch expires id)
  · exact iff_of_true ⟨_, _, claim_repeats seats granted found last⟩ (.inl last)
  have untouched : before.hosts.lookup previous.sessionId = some hosted := by
    rcases leftBy with same | same
    · rw [← same, found]
    · obtain ⟨kept, found', receipt⟩ := granted_keeps_receipt seats granted
      rw [← same, found] at found'
      cases found'
      exact absurd receipt last
  obtain ⟨request, changed⟩ := dispatchChange_ok_iff.mp granted
  rw [(seats_request previous id seats).1] at changed
  rw [(seats_request previous id seats).2] at request
  obtain ⟨hosted', found', granted'⟩ := changeBinding_ok_iff.mp changed
  rw [untouched] at found'
  cases found'
  obtain ⟨replays, -, -⟩ | ⟨unrepeated, next, applied, -, -⟩ := granted'
  · exact absurd (replays_true_iff.mp replays).2 last
  rw [or_iff_right last, ← applies_claim_iff dependable seats applied guardLater lifetimeLater]
  constructor
  · rintro ⟨again, t, ran⟩
    obtain ⟨-, changed⟩ := dispatchChange_ok_iff.mp ran
    obtain ⟨hosted', found', ⟨replays, -, -⟩ | ⟨-, next', applied', -, -⟩⟩ :=
      changeBinding_ok_iff.mp changed
    · rw [found] at found'
      cases found'
      exact absurd (replays_true_iff.mp replays).2 last
    · rw [found] at found'
      cases found'
      exact ⟨next', applied'⟩
  · rintro ⟨next', applied'⟩
    exact ⟨_, _, dispatchChange_ok_iff.mpr ⟨request, changeBinding_ok_iff.mpr
      ⟨hosted, found, .inr ⟨unrepeated, next', applied', rfl, rfl⟩⟩⟩⟩

end Again

end OwnMesh.Supervisor
