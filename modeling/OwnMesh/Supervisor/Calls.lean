import OwnMesh.Supervisor.Machine

/-!
# What the supervisor's calls do to its tables

`Effect` lists what one call can do, with the answer it gives: nothing, issue the binding
of a repeated transition, replace a manifest, reserve a directory, add a host, store
output of a host, leave the receipt of a host that stays, or remove a host.
`perform_effect` says that there is nothing else.
For a manifest that is replaced, `Applies.next_eq` says which one takes its place.
-/

namespace OwnMesh.Supervisor

open Foundations Foundations.Program Ipc SupervisorState

variable {ω : Type} {env : Environment ω} {s t : SupervisorState ω}

/-! ## The tables of the supervisor -/

/-- All of the state but the world. -/
def SupervisorState.books (s : SupervisorState ω) :
    Table String Hosted × List String × Table String (Option TerminationReceipt) :=
  (s.hosts, s.terminating, s.directories)

theorem SupervisorState.books_eq_iff : t.books = s.books ↔
      t.hosts = s.hosts ∧ t.terminating = s.terminating ∧ t.directories = s.directories := by
  simp [books]

abbrev KeepsBooks {ε α : Type} (m : Program (SupervisorState ω) ε α) : Prop :=
  Moves (Keeps SupervisorState.books) m

theorem ask_keepsBooks {ε α : Type} (question : ω → α × ω) :
    KeepsBooks (ask question : Program (SupervisorState ω) ε α) :=
  fun _ => rfl

theorem attemptTo_keepsBooks (describe : String → String) (question : ω → Option String × ω) :
    KeepsBooks (attemptTo describe question) := by
  refine .bind (ask_keepsBooks question) fun answer => ?_
  cases answer with
  | none => exact .pure
  | some => exact .fail

theorem hostOf_keepsBooks (id : String) : KeepsBooks (hostOf (ω := ω) id) := by
  refine .bind .reads fun found => ?_
  cases found with
  | none => exact .fail
  | some hosted => exact .pure

section

variable (binding : SupervisorBinding)

theorem controlled_keepsBooks : KeepsBooks (controlled env binding) :=
  .bind (hostOf_keepsBooks _) fun _ => .bind (ask_keepsBooks _) fun _ =>
    .bind .ofExcept fun _ => .pure

theorem reattach_keepsBooks : KeepsBooks (reattach env binding) :=
  .bind (hostOf_keepsBooks _) fun _ => .bind (ask_keepsBooks _) fun _ =>
    .bind .ofExcept fun _ => ask_keepsBooks _

theorem write_keepsBooks (bytes : List UInt8) : KeepsBooks (write env binding bytes) :=
  .bind .require fun _ => .bind (controlled_keepsBooks _) fun _ =>
    attemptTo_keepsBooks _ _

theorem resize_keepsBooks (cols rows : Nat) : KeepsBooks (resize env binding cols rows) := by
  refine .bind .require fun _ => .bind (controlled_keepsBooks _) fun hosted => ?_
  unfold resizeChild
  cases hosted.manifest.ioMode with
  | pty => exact attemptTo_keepsBooks _ _
  | structuredPipes => exact .fail

end

theorem drainChild_keepsBooks (hosted : Hosted) (id : String) (stderr : Bool) (maxBytes : Nat) :
    KeepsBooks (drainChild env hosted id stderr maxBytes) :=
  .ite (fun _ => .pure) fun _ => .bind (ask_keepsBooks _) fun _ =>
    .ofExcept

theorem terminationReceipt_keepsBooks (id : String) : KeepsBooks (terminationReceipt env id) := by
  refine .bind .require fun _ => .bind .reads fun found => ?_
  cases found with
  | none => exact .pure
  | some => exact .bind (attemptTo_keepsBooks _ _) fun _ => .pure

theorem terminateGone_keepsBooks (binding : SupervisorBinding) (receipt : TransitionReceipt) :
    KeepsBooks (terminateGone env binding receipt) := by
  refine .bind (terminationReceipt_keepsBooks _) fun found => ?_
  cases found with
  | none => exact .fail
  | some => exact .ofExcept

/-! ## What a call can do -/

/-- The receipt of a termination. -/
def endedBy (custody : HostManifest) (receipt : TransitionReceipt) : TerminationReceipt where
  binding := bindingOf custody
  transitionId := receipt.transitionId
  payloadDigest := receipt.payloadDigest

variable (env s) in
/-- What a call can do to the tables, with the answer it gives. -/
inductive Effect : SupervisorCall → Except String (Option SupervisorBinding) →
    SupervisorState ω → Prop where
  /-- The tables stay, and no binding is issued. -/
  | quiet {call : SupervisorCall} {r : Except String (Option SupervisorBinding)}
      {t : SupervisorState ω} (silent : ∀ b, r ≠ .ok (some b)) (same : t.books = s.books) :
      Effect call r t
  /-- A transition was asked for again. -/
  | repeated {previous : SupervisorBinding} {asked : Change} {receipt : TransitionReceipt}
      {hosted : Hosted} (found : s.hosts.lookup previous.sessionId = some hosted)
      (replays : hosted.manifest.replays (some receipt) = .ok true) :
      Effect (.change previous asked (some receipt)) (.ok (some (bindingOf hosted.manifest))) s
  | changed {previous : SupervisorBinding} {asked : Change} {receipt : Option TransitionReceipt}
      {hosted : Hosted} {next : HostManifest} {w : ω}
      (found : s.hosts.lookup previous.sessionId = some hosted)
      (unrepeated : hosted.manifest.replays receipt = .ok false)
      (applied : Applies env asked previous receipt hosted s.world next) :
      Effect (.change previous asked receipt) (.ok (some (bindingOf next)))
        (s.replaced previous.sessionId hosted next w)
  /-- A host could not be set up, but its directory is taken. -/
  | reserved {manifest : HostManifest} {ioMode : HostIoMode} {e : String}
      {t : SupervisorState ω} (untaken : s.directories.lookup manifest.sessionId = none)
      (hosts : t.hosts = s.hosts) (terminating : t.terminating = s.terminating)
      (directories : t.directories = s.directories.insert manifest.sessionId none) :
      Effect (.spawn manifest ioMode) (.error e) t
  | spawned {manifest : HostManifest} {ioMode : HostIoMode} {t : SupervisorState ω}
      {hosted : Hosted} (room : s.hosts.entries.length < maxHosts)
      (unhosted : s.hosts.lookup manifest.sessionId = none)
      (untaken : s.directories.lookup manifest.sessionId = none)
      (manifests : hosted.manifest = manifest ∧ hosted.custody = manifest)
      (hosts : t.hosts = s.hosts.insert manifest.sessionId hosted)
      (terminating : t.terminating = s.terminating)
      (directories : t.directories = s.directories.insert manifest.sessionId none) :
      Effect (.spawn manifest ioMode) (.ok (some (bindingOf manifest))) t
  /-- Output of a host was stored. -/
  | stored {binding : SupervisorBinding} {offset maxBytes : Nat} {stderr : Bool}
      {r : Except String (Option SupervisorBinding)} {t : SupervisorState ω}
      {hosted stocked : Hosted} (silent : ∀ b, r ≠ .ok (some b))
      (found : s.hosts.lookup binding.sessionId = some hosted)
      (manifests : stocked.manifest = hosted.manifest ∧ stocked.custody = hosted.custody)
      (hosts : t.hosts = s.hosts.insert binding.sessionId stocked)
      (terminating : t.terminating = s.terminating)
      (directories : t.directories = s.directories) :
      Effect (.drain binding offset maxBytes stderr) r t
  /-- The receipt of a host is in place, but its write was reported as failed. -/
  | receipted {binding : SupervisorBinding} {receipt : TransitionReceipt} {hosted : Hosted}
      {e : String} {t : SupervisorState ω}
      (found : s.hosts.lookup binding.sessionId = some hosted)
      (hosts : t.hosts = s.hosts) (terminating : t.terminating = s.terminating)
      (absent : (s.directories.lookup hosted.custody.sessionId).join = none)
      (directories : t.directories =
        s.directories.insert hosted.custody.sessionId (some (endedBy hosted.custody receipt))) :
      Effect (.terminate binding receipt) (.error e) t
  | ended {binding : SupervisorBinding} {receipt : TransitionReceipt} {hosted : Hosted}
      {t : SupervisorState ω} (found : s.hosts.lookup binding.sessionId = some hosted)
      (ends : s.endsChild env binding = true)
      (hosts : t.hosts = s.hosts.erase binding.sessionId)
      (terminating : t.terminating = s.terminating)
      (directories : (s.directories.lookup hosted.custody.sessionId).join = none ∧ t.directories =
          s.directories.insert hosted.custody.sessionId (some (endedBy hosted.custody receipt)) ∨
        t.directories = s.directories ∧ s.directories.lookup hosted.custody.sessionId =
          some (some (endedBy hosted.custody receipt))) :
      Effect (.terminate binding receipt) (.ok none) t

/-- A call that issues no binding and keeps the tables. -/
theorem Effect.of_keepsBooks {α : Type} {call : SupervisorCall} {m : SupervisorM ω α}
    (keeps : KeepsBooks m) (s : SupervisorState ω) :
    Effect env s call ((m.run s).1.map fun _ => none) (m.run s).2 := by
  refine .quiet (fun b => ?_) (keeps s)
  cases (m.run s).1 with
  | error | ok => exact nofun

/-! ### Spawning -/

/-- The directory of a session is taken; nothing else happens. -/
structure Reserves (id : String) (s t : SupervisorState ω) : Prop where
  untaken : s.directories.lookup id = none
  hosts : t.hosts = s.hosts
  terminating : t.terminating = s.terminating
  directories : t.directories = s.directories.insert id none

variable (env) in
theorem createSpool_cases (manifest : HostManifest) (s : SupervisorState ω) :
    (∃ e t, (createSpool env manifest).run s = (.error e, t) ∧
        (t.books = s.books ∨ Reserves manifest.sessionId s t)) ∨
      ∃ t, (createSpool env manifest).run s = (.ok (), t) ∧ Reserves manifest.sessionId s t := by
  unfold createSpool
  cases valid : manifest.validate with
  | error e => exact .inl ⟨e, s, rfl, .inl rfl⟩
  | ok =>
    rw [run_bind_of_ok (run_ofExcept _ s), run_reads_bind]
    cases taken : s.directories.lookup manifest.sessionId with
    | some =>
      exact .inl ⟨_, s, rfl, .inl rfl⟩
    | none =>
      rw [run_bind_of_ok (run_require_of_holds (by simp) _ s), run_ask_bind]
      rcases created : (env.createSpool s.world).1 with _ | ⟨reason, _ | _⟩
      · exact .inr ⟨_, rfl, taken, rfl, rfl, rfl⟩
      · exact .inl ⟨_, _, rfl, .inl rfl⟩
      · exact .inl ⟨_, _, rfl, .inr ⟨taken, rfl, rfl, rfl⟩⟩

variable (env s) in
/-- The end of a call that issues a binding is one of its effects. -/
abbrev Issues (call : SupervisorCall) (r : Except String SupervisorBinding × SupervisorState ω) :
    Prop :=
  Effect env s call (r.1.map some) r.2

/-- What the effects of spawning look at. -/
theorem Reserves.of_books {id : String} {t' u u' : SupervisorState ω} (reserves : Reserves id t u)
    (before : t.books = t'.books) (after : u'.books = u.books) : Reserves id t' u' := by
  obtain ⟨hosts, terminating, directories⟩ := books_eq_iff.mp before
  obtain ⟨hosts', terminating', directories'⟩ := books_eq_iff.mp after
  exact ⟨by rw [← directories, reserves.untaken], by rw [hosts', reserves.hosts, hosts],
    by rw [terminating', reserves.terminating, terminating],
    by rw [directories', reserves.directories, directories]⟩

theorem spawnWithIo_effect (manifest : HostManifest) (ioMode : HostIoMode) (s : SupervisorState ω) :
    Issues env s (.spawn manifest ioMode) ((spawnWithIo env manifest ioMode).run s) := by
  unfold spawnWithIo
  refine run_ofExcept_bind_cases (fun _ _ => .quiet nofun rfl) fun _ _ => ?_
  refine run_require_bind_cases (fun _ => .quiet nofun rfl) fun room => ?_
  refine run_require_bind_cases (fun _ => .quiet nofun rfl) fun unhosted => ?_
  refine run_bind_cases (fun e t ran => ?_) fun _ t ran => ?_
  · have kept := (attemptTo_keepsBooks _ _).of_eq ran
    exact .quiet nofun kept
  have kept := (attemptTo_keepsBooks _ _).of_eq ran
  have books : t.books = s.books := kept
  rcases createSpool_cases env manifest t with
    ⟨e, u, created, same | reserves⟩ | ⟨u, created, reserves⟩
  · rw [run_bind_of_error created]
    exact .quiet nofun (same.trans books)
  · rw [run_bind_of_error created]
    have reserved := reserves.of_books books rfl
    exact .reserved reserved.untaken reserved.hosts reserved.terminating reserved.directories
  · rw [run_bind_of_ok created]
    have stderrKept : KeepsBooks (whenever (ioMode = .structuredPipes)
        (attemptTo id env.createStderr) : SupervisorM ω Unit) :=
      .whenever fun _ => attemptTo_keepsBooks _ _
    refine run_bind_cases (fun e v ran => ?_) fun _ v ran => ?_
    · have reserved := reserves.of_books books (stderrKept.of_eq ran)
      exact .reserved reserved.untaken reserved.hosts reserved.terminating reserved.directories
    · have reserved := reserves.of_books books (stderrKept.of_eq ran)
      have hosts : ∀ hosted, v.hosts.insert manifest.sessionId hosted =
          s.hosts.insert manifest.sessionId hosted := fun hosted => by rw [reserved.hosts]
      exact .spawned room unhosted reserved.untaken ⟨rfl, rfl⟩ (hosts _) reserved.terminating
        reserved.directories

/-! ### Changes of controller -/

variable {hosted : Hosted}

theorem replaceManifest_error {change : Change} {id : String} {next : HostManifest} {e : String}
    (failed : (replaceManifest env change id hosted next).run s = (.error e, t)) :
    t.books = s.books := by
  rw [replaceManifest] at failed
  generalize change.checkCustody hosted.custody next = checked at failed
  cases checked with
  | error =>
    cases failed
    rfl
  | ok =>
    rw [run_bind_of_ok (run_ofExcept _ s)] at failed
    rcases bind_error_cases failed with unwritten | ⟨_, _, _, written⟩
    · exact (attemptTo_keepsBooks _ _).of_eq unwritten
    · cases written

/-- A change that fails keeps the tables. -/
def KeptIfFailed (s : SupervisorState ω) {α : Type} (r : Except String α × SupervisorState ω) :
    Prop :=
  ∀ e, r.1 = .error e → r.2.books = s.books

variable (env) in
theorem changeBinding_keptIfFailed (previous : SupervisorBinding) (change : Change)
    (receipt : Option TransitionReceipt) (s : SupervisorState ω) :
    KeptIfFailed s ((changeBinding env previous change receipt).run s) := by
  have refused : ∀ {α : Type} (e : String) (w : ω),
      KeptIfFailed s ((.error e : Except String α), { s with world := w }) := fun _ _ _ _ => rfl
  refine run_bind_cases (fun e t ran _ _ => (hostOf_keepsBooks _).of_eq ran) fun hosted t ran => ?_
  obtain ⟨-, rfl⟩ := hostOf_ok_iff.mp ran
  refine run_ofExcept_bind_cases (fun e _ => refused e t.world) fun replayed _ => ?_
  cases replayed with
  | true => exact fun e failed => nomatch failed
  | false =>
    rw [if_neg Bool.false_ne_true]
    unfold applyChange
    refine run_ofExcept_bind_cases (fun e _ => refused e _) fun _ _ => ?_
    refine run_ofExcept_bind_cases (fun e _ => refused e _) fun _ _ => ?_
    refine run_ofExcept_bind_cases (fun e _ => refused e _) fun _ _ => ?_
    refine run_ofExcept_bind_cases (fun e _ => refused e _) fun _ _ => ?_
    refine run_ofExcept_bind_cases (fun e _ => refused e _) fun _ _ => ?_
    refine run_bind_cases (fun e u replaced _ _ => ?_) fun _ u _ e failed => nomatch failed
    have kept := replaceManifest_error replaced
    exact kept

theorem changeBinding_effect (previous : SupervisorBinding) (asked : Change)
    (receipt : Option TransitionReceipt) (s : SupervisorState ω) :
    Issues env s (.change previous asked receipt)
      ((changeBinding env previous asked receipt).run s) := by
  rcases ran : (changeBinding env previous asked receipt).run s with ⟨e | b, t⟩
  · have kept := changeBinding_keptIfFailed env previous asked receipt s
    rw [ran] at kept
    exact .quiet nofun (kept e rfl)
  · obtain ⟨hosted, found, ⟨replays, rfl, rfl⟩ | ⟨unrepeated, next, applied, rfl, rfl⟩⟩ :=
      changeBinding_ok_iff.mp ran
    · cases receipt with
      | none => cases replays
      | some => exact .repeated found replays
    · exact .changed found unrepeated applied

/-! ### Output -/

/-- The tables are kept, or the host of a session is stored again with the same
manifests. -/
def Stores (s : SupervisorState ω) (id : String) (t : SupervisorState ω) : Prop :=
  t.books = s.books ∨ ∃ hosted stocked : Hosted, s.hosts.lookup id = some hosted ∧
    (stocked.manifest = hosted.manifest ∧ stocked.custody = hosted.custody) ∧
      t.books = (s.hosts.insert id stocked, s.terminating, s.directories)

variable {id : String}

theorem Stores.of_start {u : SupervisorState ω} (same : t.books = s.books)
    (stores : Stores t id u) : Stores s id u := by
  obtain ⟨hosts, terminating, directories⟩ := books_eq_iff.mp same
  rcases stores with kept | ⟨hosted, stocked, found, manifests, stored⟩
  · exact .inl (kept.trans same)
  · rw [hosts] at found
    rw [hosts, terminating, directories] at stored
    exact .inr ⟨hosted, stocked, found, manifests, stored⟩

/-- The spool that the append of some bytes puts in place, whatever is then reported of the
write. -/
def landed (env : Environment ω) (spool : Spool) (bytes : List UInt8) (w : ω) : Option Spool :=
  if bytes.length ≤ supervisorSpoolMaxBytes ∧ (env.readSpool w).1 = none then
    match spool.append bytes, (env.writeSpool (env.readSpool w).2).1 with
    | .error _, _ | .ok _, .unwritten _ => none
    | .ok next, .written | .ok next, .unsynced _ => some next
  else none

variable (env) in
/-- What an append leaves of the tables. -/
theorem appendSpool_books (hosted : Hosted) (id : String) (stderr : Bool) (spool : Spool)
    (bytes : List UInt8) (s : SupervisorState ω) :
    ((appendSpool env hosted id stderr spool bytes).run s).2.books =
      match landed env spool bytes s.world with
      | none => s.books
      | some next =>
        (s.hosts.insert id (hosted.setStream stderr next), s.terminating, s.directories) := by
  unfold appendSpool landed
  by_cases fits : bytes.length ≤ supervisorSpoolMaxBytes
  · rw [run_bind_of_ok (run_require_of_holds fits _ _)]
    rcases readable : (env.readSpool s.world).1 with _ | reason
    · rw [run_bind_of_ok (attemptTo_ok_iff (u := ()).mpr ⟨readable, rfl⟩), if_pos ⟨fits, rfl⟩]
      rcases spool.append bytes with e | next
      · rfl
      · rw [run_bind_of_ok (run_ofExcept _ _)]
        refine (part_after_bind (fun _ => Moves.pure) _).trans ?_
        simp only [writeFile, replaceFile]
        rcases (env.writeSpool (env.readSpool s.world).2).1 with _ | _ | _ <;> rfl
    · have unread : (attemptTo (fun reason => reason) env.readSpool).run s =
          (.error reason, { s with world := (env.readSpool s.world).2 }) := by
        simp only [attemptTo, run_ask_bind, readable, run_fail]
      rw [run_bind_of_error unread, if_neg (by simp)]
      rfl
  · rw [run_bind_of_error (run_require_of_not fits _ _), if_neg fun both => fits both.1]

variable (env) in
/-- Reading the page back keeps the tables. -/
theorem drainStream_books (hosted : Hosted) (id : String) (stderr : Bool) (spool : Spool)
    (drained : List UInt8 × Bool) (offset maxBytes : Nat) (s : SupervisorState ω) :
    ((drainStream env hosted id stderr spool drained offset maxBytes).run s).2.books =
      if drained.1 = [] then s.books
      else ((appendSpool env hosted id stderr spool drained.1).run s).2.books := by
  have paged : ∀ spool : Spool, KeepsBooks (readSpoolPage env spool offset maxBytes >>= fun page =>
        pure { page with truncated := page.truncated || drained.2 }) :=
    fun spool => .bind (.bind .require fun _ => .bind (attemptTo_keepsBooks _ _) fun _ =>
      .ofExcept) fun _ => .pure
  unfold drainStream
  split
  · exact paged spool s
  · exact part_after_bind paged s

theorem drainStream_stores (found : s.hosts.lookup id = some hosted) (stderr : Bool) (spool : Spool)
    (drained : List UInt8 × Bool) (offset maxBytes : Nat) :
    Stores s id ((drainStream env hosted id stderr spool drained offset maxBytes).run s).2 := by
  rw [Stores, drainStream_books]
  split
  · exact .inl rfl
  · rw [appendSpool_books]
    cases landed env spool drained.1 s.world with
    | none => exact .inl rfl
    | some next =>
      refine .inr ⟨hosted, _, found, ?_, rfl⟩
      cases stderr <;> exact ⟨rfl, rfl⟩

variable {binding : SupervisorBinding}

theorem controlled_ok (ran : (controlled env binding).run s = (.ok hosted, t)) :
    s.hosts.lookup binding.sessionId = some hosted ∧
      exact binding hosted.manifest (env.now s.world).1 = .ok () ∧
      t = { s with world := (env.now s.world).2 } := by
  rw [controlled, bind_ok_iff] at ran
  obtain ⟨_, _, looked, ran⟩ := ran
  obtain ⟨found, rfl⟩ := hostOf_ok_iff.mp looked
  obtain ⟨_, checked, ran⟩ := ofExcept_bind_ok_iff.mp ran
  cases ran
  exact ⟨found, checked, rfl⟩

variable (env) in
/-- A drain stores more output of its host, or nothing. -/
theorem drain_stores (binding : SupervisorBinding) (offset maxBytes : Nat) (stderr : Bool)
    (s : SupervisorState ω) :
    Stores s binding.sessionId ((drain env binding offset maxBytes stderr).run s).2 := by
  refine run_bind_cases (P := fun r => Stores s binding.sessionId r.2)
    (fun _ _ ran => .inl ((controlled_keepsBooks _).of_eq ran)) fun hosted t ran => ?_
  obtain ⟨found, -, rfl⟩ := controlled_ok ran
  refine run_bind_cases (P := fun r => Stores s binding.sessionId r.2) (fun _ _ ran => ?_)
    fun drained t ran => ?_
  · have kept := (drainChild_keepsBooks _ _ _ _).of_eq ran
    exact .inl kept
  have kept := (drainChild_keepsBooks _ _ _ _).of_eq ran
  cases hosted.stream stderr with
  | none => exact .inl kept
  | some spool =>
    have found' : t.hosts.lookup binding.sessionId = some hosted := by
      rw [(books_eq_iff.mp kept).1]
      exact found
    exact (drainStream_stores found' stderr spool drained offset maxBytes).of_start kept

/-! ### Termination -/

/-- The receipt that is read is the one in the directory. -/
theorem terminationReceipt_ok {r : Option TerminationReceipt}
    (ran : (terminationReceipt env id).run s = (.ok r, t)) :
    r = (s.directories.lookup id).join ∧ t.books = s.books := by
  refine ⟨?_, (terminationReceipt_keepsBooks id).of_eq ran⟩
  obtain ⟨_, s₁, required, ran⟩ := bind_ok_iff.mp ran
  obtain ⟨-, rfl⟩ := require_ok_iff.mp required
  rw [run_reads_bind] at ran
  split at ran
  next absent =>
    cases ran
    rw [absent]
    rfl
  next receipt found =>
    obtain ⟨_, _, _, ran⟩ := bind_ok_iff.mp ran
    cases ran
    rw [found]
    rfl

/-- The receipt of an end is kept in its directory. -/
structure Receipted (custody : HostManifest) (receipt : TransitionReceipt)
    (s t : SupervisorState ω) : Prop where
  hosts : t.hosts = s.hosts
  terminating : t.terminating = s.terminating
  absent : (s.directories.lookup custody.sessionId).join = none
  directories :
    t.directories = s.directories.insert custody.sessionId (some (endedBy custody receipt))

variable (env) in
theorem recordTermination_cases (custody : HostManifest) (receipt : TransitionReceipt)
    (s : SupervisorState ω) :
    (∃ e t, (recordTermination env custody receipt).run s = (.error e, t) ∧
        (t.books = s.books ∨ Receipted custody receipt s t)) ∨
      ∃ t, (recordTermination env custody receipt).run s = (.ok (), t) ∧
        (Receipted custody receipt s t ∨ t.books = s.books ∧
          s.directories.lookup custody.sessionId = some (some (endedBy custody receipt))) := by
  unfold recordTermination
  generalize validateTransition receipt = valid
  cases valid with
  | error e => exact .inl ⟨e, s, rfl, .inl rfl⟩
  | ok =>
    rw [run_bind_of_ok (run_ofExcept _ s)]
    rcases read : (terminationReceipt env custody.sessionId).run s with ⟨e | found, u⟩
    · rw [run_bind_of_error read]
      exact .inl ⟨e, u, rfl, .inl ((terminationReceipt_keepsBooks _).of_eq read)⟩
    rw [run_bind_of_ok read]
    obtain ⟨joined, books⟩ := terminationReceipt_ok read
    cases found with dsimp only
    | some =>
      split_ifs with same reused
      · refine .inr ⟨u, rfl, .inr ⟨books, ?_⟩⟩
        rw [same] at joined
        exact Option.join_eq_some_iff.mp joined.symm
      · exact .inl ⟨_, u, rfl, .inl books⟩
      · exact .inl ⟨_, u, rfl, .inl books⟩
    | none =>
      obtain ⟨hosts, terminating, directories⟩ := books_eq_iff.mp books
      have placed : ∀ w, Receipted custody receipt s
          { u with
            directories := u.directories.insert custody.sessionId (some (endedBy custody receipt))
            world := w } := fun w =>
        ⟨hosts, terminating, joined.symm, congrArg (AList.insert _ _) directories⟩
      simp only [writeFile, replaceFile]
      rcases (env.writeReceipt u.world).1 with _ | _ | _
      · exact .inr ⟨_, rfl, .inl (placed _)⟩
      · exact .inl ⟨_, _, rfl, .inl books⟩
      · exact .inl ⟨_, _, rfl, .inr (placed _)⟩

theorem terminateLive_effect
    (found : s.hosts.lookup binding.sessionId = some hosted) (receipt : TransitionReceipt) :
    Effect env s (.terminate binding receipt)
      (((terminateLive env hosted binding receipt).run s).1.map fun _ => none)
      ((terminateLive env hosted binding receipt).run s).2 := by
  unfold terminateLive
  let Ends (r : Except String Unit × SupervisorState ω) : Prop :=
    Effect env s (.terminate binding receipt) (r.1.map fun _ => none) r.2
  refine run_ofExcept_bind_cases (P := Ends) (fun _ _ => .quiet nofun rfl) fun _ checked => ?_
  refine run_bind_cases (fun e t ran => ?_) fun _ t ran => ?_
  · have kept := (attemptTo_keepsBooks _ _).of_eq ran
    exact .quiet nofun kept
  obtain ⟨confirmed, rfl⟩ := attemptTo_ok_iff.mp ran
  have ends : s.endsChild env binding = true := by
    simp only [endsChild, found, checked, confirmed, Option.isNone_none]
  rcases recordTermination_cases env hosted.custody receipt
      { s with world := (env.terminateHost binding.sessionId (env.now s.world).2).2 } with
    ⟨e, u, recorded, kept | receipted⟩ | ⟨u, recorded, receipted | ⟨kept, there⟩⟩
  · rw [run_bind_of_error recorded]
    exact .quiet nofun kept
  · rw [run_bind_of_error recorded]
    exact .receipted found receipted.hosts receipted.terminating receipted.absent
      receipted.directories
  · rw [run_bind_of_ok recorded]
    exact .ended found ends (congrArg (AList.erase binding.sessionId) receipted.hosts)
      receipted.terminating (.inl ⟨receipted.absent, receipted.directories⟩)
  · obtain ⟨hosts, terminating, directories⟩ := books_eq_iff.mp kept
    rw [run_bind_of_ok recorded]
    exact .ended found ends (congrArg (AList.erase binding.sessionId) hosts) terminating
      (.inr ⟨directories, there⟩)

variable (env) in
/-- **There is nothing else a call can do.** -/
theorem perform_effect (call : SupervisorCall) (s : SupervisorState ω) :
    Effect env s call ((call.perform env).run s).1 ((call.perform env).run s).2 := by
  cases call with
  | spawn manifest ioMode => exact spawnWithIo_effect manifest ioMode s
  | reattach binding => exact .of_keepsBooks (reattach_keepsBooks binding) s
  | write binding bytes => exact .of_keepsBooks (write_keepsBooks binding bytes) s
  | resize binding cols rows => exact .of_keepsBooks (resize_keepsBooks binding cols rows) s
  | drain binding offset maxBytes stderr =>
    have silent : ∀ b, ((SupervisorCall.drain binding offset maxBytes stderr).perform env |>.run
        s).1 ≠ .ok (some b) := by
      simp only [SupervisorCall.perform, run_mapAnswer]
      cases ((drain env binding offset maxBytes stderr).run s).1 with
      | error | ok => exact nofun
    rcases drain_stores env binding offset maxBytes stderr s with
      kept | ⟨hosted, stocked, found, manifests, stored⟩
    · exact .quiet silent kept
    · have parts := Prod.mk.inj stored
      exact .stored silent found manifests parts.1 (Prod.mk.inj parts.2).1 (Prod.mk.inj parts.2).2
  | change previous asked receipt => exact changeBinding_effect previous asked receipt s
  | terminate binding receipt =>
    simp only [SupervisorCall.perform, run_mapAnswer]
    unfold terminateIdempotent
    rw [run_reads_bind]
    cases found : s.hosts.lookup binding.sessionId with
    | none => exact .of_keepsBooks (terminateGone_keepsBooks binding receipt) s
    | some => exact terminateLive_effect found receipt

/-! ## The manifest a change leads to -/

section Successors

variable {change : Change} {previous : SupervisorBinding} {receipt : Option TransitionReceipt}
  {hosted : Hosted} {w : ω} {next : HostManifest}

/-- Every change asks for the binding of the manifest it replaces. -/
theorem Applies.previous_eq (applied : Applies env change previous receipt hosted w next) :
    previous = bindingOf hosted.manifest := by
  have guard := applied.guard
  cases change <;>
    simp_all [Change.guard, exact, runChecks_ok_iff, SupervisorBinding.matches]

/-- The manifest a change leads to, before its receipt is kept. -/
def Change.leadsTo (change : Change) (manifest : HostManifest) (fresh : String) : HostManifest :=
  match change with
  | .rotate owner epoch expires | .reclaim owner epoch expires | .claim owner epoch expires =>
    manifest.heir owner epoch expires fresh
  | .detach epoch =>
    { manifest.heir manifest.ownerPrincipal epoch manifest.bindingExpiresUnix fresh with
      controllerAttached := false }
  | .renew expires =>
    manifest.heir manifest.ownerPrincipal manifest.controllerEpoch expires fresh

theorem Change.eq_leadsTo {manifest plain : HostManifest} {fresh : String}
    (successor : change.next manifest fresh = .ok plain) :
    plain = change.leadsTo manifest fresh := by
  cases change with
  | detach epoch =>
    simp only [Change.next] at successor
    cases heir : manifest.successor manifest.ownerPrincipal epoch manifest.bindingExpiresUnix
        fresh with
    | error => simp [heir, Except.map] at successor
    | ok =>
      rw [heir] at successor
      cases successor
      rw [(successor_ok_iff.mp heir).2]
      rfl
  | rotate owner epoch expires | reclaim owner epoch expires | claim owner epoch expires
  | renew expires => exact (successor_ok_iff.mp successor).2

section

variable (applied : Applies env change previous receipt hosted w next)
include applied

theorem Applies.next_eq :
    next = { change.leadsTo hosted.manifest (env.nonce w) with lastTransition := receipt } := by
  obtain ⟨plain, successor, -, kept⟩ := applied.successor
  rw [← Change.eq_leadsTo successor]
  cases receipt with
  | none =>
    cases kept
    have untouched : (change.leadsTo hosted.manifest (env.nonce w)).lastTransition = none := by
      cases change <;> rfl
    rw [← Change.eq_leadsTo successor] at untouched
    rw [← untouched]
  | some => exact (keepReceipt_ok_iff.mp kept).2

theorem Applies.sessionId_eq : next.sessionId = hosted.manifest.sessionId := by
  rw [applied.next_eq]
  cases change <;> rfl

/-- A renewal keeps the generation. -/
theorem Applies.epoch_renew
    (renews : change.isRenew = true) : next.controllerEpoch = hosted.manifest.controllerEpoch := by
  rw [applied.next_eq]
  cases change <;> first | rfl | cases renews

end

theorem rotateEpoch_ok_iff {current following : Nat} :
    rotateEpoch current following = .ok () ↔ current + 1 < 2 ^ 64 ∧ following = current + 1 := by
  simp [rotateEpoch, runChecks_ok_iff]

/-- Every other change advances it by one. -/
theorem Applies.epoch_advance (applied : Applies env change previous receipt hosted w next)
    (advances : change.isRenew = false) :
    next.controllerEpoch = hosted.manifest.controllerEpoch + 1 := by
  have epoch := applied.epoch
  rw [applied.previous_eq] at epoch
  rw [applied.next_eq]
  cases change with
  | renew expires => cases advances
  | rotate owner following expires | reclaim owner following expires
  | claim owner following expires | detach following => exact (rotateEpoch_ok_iff.mp epoch).2

end Successors

end OwnMesh.Supervisor
