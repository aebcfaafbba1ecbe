import OwnMesh.Supervisor.Coherence

/-!
# The cap on hosts

The supervisor is to hold at most `maxHosts` hosts.  Spawning counts the hosts in the
table; a host that a sweep has taken is not among them, although its child may be alive
and may come back.  The hosts in the table and in the sweeps together stay within the cap
throughout a run exactly when every spawn that passes its checks, its count of the table
among them, is made while they are fewer than the cap (`load_within_cap_iff`).  Full tables
break it: a sweep takes expired hosts out of a full table, and the room they leave is given
away before their end is confirmed (`load_exceeds_cap`).
-/

namespace OwnMesh.Supervisor

open Foundations Foundations.Program Ipc List AList Table Machine SupervisorState

variable {ω : Type} {env : Environment ω} {m m' : Machine ω} {t : SupervisorState ω}

/-- The hosts in the table and those being ended. -/
def Machine.load (m : Machine ω) : Nat :=
  m.state.hosts.entries.length + m.state.terminating.length

variable (env) in
/-- What a spawn checks, in its order. -/
structure SpawnPasses (manifest : HostManifest) (ioMode : HostIoMode) (s : SupervisorState ω) :
    Prop where
  lifetimes : manifest.validateRuntimeLifetimes (env.now s.world).1 = .ok ()
  room : s.hosts.entries.length < maxHosts
  unhosted : s.hosts.lookup manifest.sessionId = none
  started : (env.startHost (env.now s.world).2).1 = none
  valid : manifest.validate = .ok ()
  untaken : s.directories.lookup manifest.sessionId = none
  created : (env.createSpool (env.startHost (env.now s.world).2).2).1 = none
  stderr : ioMode = .structuredPipes →
    (env.createStderr (env.createSpool (env.startHost (env.now s.world).2).2).2).1 = none

variable (env) in
/-- A spawn that passes its checks is made while there is room for one more host, counting
those being ended. -/
def SpawnsWithRoom (m : Machine ω) (event : MachineEvent) : Prop :=
  ∀ manifest ioMode, event = .call (.spawn manifest ioMode) →
    SpawnPasses env manifest ioMode m.state →
      m.state.hosts.entries.length + m.state.terminating.length < maxHosts

theorem createSpool_ok_iff {manifest : HostManifest} {s t : SupervisorState ω} {u : Unit} :
    (createSpool env manifest).run s = (.ok u, t) ↔ manifest.validate = .ok () ∧
      s.directories.lookup manifest.sessionId = none ∧ (env.createSpool s.world).1 = none ∧
      t = { s with
        directories := s.directories.insert manifest.sessionId none
        world := (env.createSpool s.world).2 } := by
  unfold createSpool
  rcases manifest.validate with e | _
  · simp [bind_ok_iff]
  rw [run_bind_of_ok (run_ofExcept _ s), run_reads_bind]
  rcases s.directories.lookup manifest.sessionId with _ | _
  · rw [run_bind_of_ok (run_require_of_holds (by simp) _ s), run_ask_bind]
    rcases (env.createSpool s.world).1 with _ | ⟨reason, _ | _⟩ <;> simp [eq_comm, whenever]
  · simp [run_bind_of_error (run_require_of_not _ _ s)]

/-- A spawn is granted exactly when its checks pass. -/
theorem spawnWithIo_ok_iff {manifest : HostManifest} {ioMode : HostIoMode} {s : SupervisorState ω} :
    (∃ b t, (spawnWithIo env manifest ioMode).run s = (.ok b, t)) ↔
      SpawnPasses env manifest ioMode s := by
  constructor
  · rintro ⟨b, t, ran⟩
    rw [spawnWithIo, run_ask_bind, ofExcept_bind_ok_iff] at ran
    obtain ⟨_, lifetimes, ran⟩ := ran
    rw [run_reads_bind] at ran
    obtain ⟨_, _, counted, ran⟩ := bind_ok_iff.mp ran
    obtain ⟨room, rfl⟩ := require_ok_iff.mp counted
    obtain ⟨_, _, looked, ran⟩ := bind_ok_iff.mp ran
    obtain ⟨unhosted, rfl⟩ := require_ok_iff.mp looked
    obtain ⟨_, _, begun, ran⟩ := bind_ok_iff.mp ran
    obtain ⟨started, rfl⟩ := attemptTo_ok_iff.mp begun
    obtain ⟨_, _, made, ran⟩ := bind_ok_iff.mp ran
    obtain ⟨valid, untaken, created, rfl⟩ := createSpool_ok_iff.mp made
    obtain ⟨_, _, wired, -⟩ := bind_ok_iff.mp ran
    refine ⟨lifetimes, room, unhosted, started, valid, untaken, created, fun piped => ?_⟩
    rw [whenever, if_pos piped] at wired
    exact (attemptTo_ok_iff.mp wired).1
  · rintro ⟨lifetimes, room, unhosted, started, valid, untaken, created, stderr⟩
    let begun : SupervisorState ω := { s with world := (env.startHost (env.now s.world).2).2 }
    let reserved : SupervisorState ω :=
      { s with
        directories := s.directories.insert manifest.sessionId none
        world := (env.createSpool begun.world).2 }
    have made : (createSpool env manifest).run begun = (.ok (), reserved) :=
      createSpool_ok_iff.mpr ⟨valid, untaken, created, rfl⟩
    have wired : ∃ t, (whenever (ioMode = .structuredPipes) (attemptTo id env.createStderr) :
        SupervisorM ω Unit).run reserved = (.ok (), t) := by
      by_cases piped : ioMode = .structuredPipes
      · rw [whenever, if_pos piped]
        exact ⟨_, attemptTo_ok_iff.mpr ⟨stderr piped, rfl⟩⟩
      · rw [whenever, if_neg piped]
        exact ⟨_, rfl⟩
    obtain ⟨t, wired⟩ := wired
    rw [spawnWithIo, run_ask_bind, lifetimes, run_bind_of_ok (run_ofExcept _ _), run_reads_bind,
      run_bind_of_ok (run_require_of_holds room _ _),
      run_bind_of_ok (run_require_of_holds unhosted _ _),
      run_bind_of_ok (attemptTo_ok_iff (u := ()).mpr ⟨started, rfl⟩),
      run_bind_of_ok made,
      run_bind_of_ok wired]
    exact ⟨_, _, rfl⟩

/-! ## What a step does to the load -/

/-- Only a granted spawn adds to the load. -/
theorem Effect.load {call : SupervisorCall} {r : Except String (Option SupervisorBinding)}
    (effect : Effect env m.state call r t) :
    ((∀ manifest ioMode b, call = .spawn manifest ioMode → r ≠ .ok (some b)) ∧
        (m.after env call t).load ≤ m.load) ∨
      (∃ manifest ioMode b, call = .spawn manifest ioMode ∧ r = .ok (some b)) ∧
        (m.after env call t).load = m.load + 1 := by
  have marks := congrArg List.length effect.terminating_eq
  simp only [Machine.load, Machine.after]
  cases effect with
  | quiet silent same =>
    rw [(books_eq_iff.mp same).1]
    exact .inl ⟨fun _ _ b _ => silent b, by omega⟩
  | repeated => exact .inl ⟨by rintro _ _ _ ⟨⟩, le_refl _⟩
  | @changed previous asked receipt hosted next w found =>
    refine .inl ⟨by rintro _ _ _ ⟨⟩, ?_⟩
    simp only [replaced]
    rw [length_insert_of_present found]
  | reserved _ hosts | receipted _ hosts =>
    rw [hosts]
    exact .inl ⟨by rintro _ _ _ _ ⟨⟩, by omega⟩
  | spawned room unhosted untaken manifests hosts =>
    refine .inr ⟨⟨_, _, _, rfl, rfl⟩, ?_⟩
    rw [hosts, length_insert_of_absent unhosted]
    omega
  | stored silent found manifests hosts =>
    refine .inl ⟨by rintro _ _ _ ⟨⟩, ?_⟩
    rw [hosts, length_insert_of_present found]
    omega
  | @ended binding receipt hosted _ found ends hosts =>
    refine .inl ⟨by rintro _ _ _ ⟨⟩, ?_⟩
    have shorter := length_erase_le binding.sessionId m.state.hosts
    rw [hosts]
    omega

/-- A sweep moves hosts from the table to the marks, one by one. -/
theorem Coherent.take_counts (coherent : Coherent m) {id : String}
    (live : m.state.hosts.lookup id ≠ none) :
    (m.take id).state.hosts.entries.length + 1 = m.state.hosts.entries.length ∧
      (m.take id).state.terminating.length = m.state.terminating.length + 1 := by
  unfold Machine.take
  cases found : m.state.hosts.lookup id with
  | none => exact absurd found live
  | some =>
    have unswept := ((coherent.each id).hosted found).2.2.2
    have unmarked : id ∉ m.state.terminating := fun marked =>
      (coherent.each id).marked.mp marked unswept
    refine ⟨length_erase_of_present found, ?_⟩
    show (m.state.terminating.insert id).length = _
    rw [insert_of_not_mem unmarked, length_cons]

theorem Machine.take_lookup_ne {id other : String} (apart : other ≠ id) :
    (m.take id).state.hosts.lookup other = m.state.hosts.lookup other := by
  unfold take
  cases m.state.hosts.lookup id with
  | none => rfl
  | some => exact lookup_erase_ne apart

theorem Coherent.foldl_take_counts (coherent : Coherent m) {ids : List String}
    (distinct : ids.Nodup) (live : ∀ id ∈ ids, m.state.hosts.lookup id ≠ none) :
    (ids.foldl Machine.take m).state.hosts.entries.length + ids.length =
        m.state.hosts.entries.length ∧ (ids.foldl Machine.take m).state.terminating.length =
        m.state.terminating.length + ids.length := by
  induction ids generalizing m with
  | nil => exact ⟨rfl, rfl⟩
  | cons id rest ih =>
    rw [nodup_cons] at distinct
    have step := coherent.take_counts (live id mem_cons_self)
    have stillLive : ∀ other ∈ rest, (m.take id).state.hosts.lookup other ≠ none := by
      intro other member
      have apart : other ≠ id := by
        rintro rfl
        exact distinct.1 member
      rw [take_lookup_ne apart]
      exact live other (mem_cons_of_mem _ member)
    have later := ih (coherent.take id) distinct.2 stillLive
    simp only [foldl_cons, length_cons]
    omega

theorem SupervisorState.mem_expired {s : SupervisorState ω} {now : Int} {id : String}
    (expired : id ∈ s.expired now) : s.hosts.lookup id ≠ none := by
  obtain ⟨entry, member, rfl⟩ := mem_map.mp expired
  exact Option.ne_none_iff_exists'.mpr ⟨_, mem_lookup_iff.mpr (mem_of_mem_filter member)⟩

theorem SupervisorState.expired_nodup (s : SupervisorState ω) (now : Int) :
    (s.expired now).Nodup :=
  NodupKeys.sublist filter_sublist s.hosts.nodupKeys

theorem Coherent.collect_counts (coherent : Coherent m) {ids : List String}
    (picks : m.state.Picks (m.sweepClock env) ids) :
    (m.collect env ids).state.hosts.entries.length + ids.length = m.state.hosts.entries.length ∧
      (m.collect env ids).state.terminating.length = m.state.terminating.length + ids.length := by
  obtain ⟨chosen, permuted, among⟩ := picks.1
  have distinct : ids.Nodup := permuted.nodup_iff.mp ((m.state.expired_nodup _).sublist among)
  have clocked : Coherent (m.clocked env) := coherent.collect []
  exact Coherent.foldl_take_counts clocked distinct
    fun _ member => mem_expired (picks.1.subset member)

theorem Coherent.settle_load (coherent : Coherent m) {id : String} {hosted : Hosted}
    {outcome : Option String}
    (ended : m.sweeping.lookup id = some { hosted := hosted, outcome := some outcome }) :
    (m.settle id hosted outcome).load ≤ m.load := by
  have marked : id ∈ m.state.terminating :=
    (coherent.each id).marked.mpr (by rw [ended]; exact nofun)
  have erased : (m.state.terminating.erase id).length = m.state.terminating.length - 1 :=
    length_erase_of_mem marked
  have positive : 0 < m.state.terminating.length := length_pos_of_mem marked
  have absent := (coherent.each id).unhosted ended
  cases outcome with
  | none =>
    show m.state.hosts.entries.length + (m.state.terminating.erase id).length ≤ _
    simp only [load]
    omega
  | some =>
    show (m.state.hosts.insert id hosted).entries.length + (m.state.terminating.erase id).length ≤ _
    rw [length_insert_of_absent absent]
    simp only [load]
    omega

/-- The steps that keep the load within the cap. -/
theorem load_step_iff {event : MachineEvent} (coherent : Coherent m) (within_ : m.load ≤ maxHosts)
    (step : MachineStep env m event m') : m'.load ≤ maxHosts ↔ SpawnsWithRoom env m event := by
  cases step with
  | call call =>
    rcases (perform_effect env call m.state).load with
      ⟨silent, less⟩ | ⟨⟨manifest, ioMode, b, rfl, granted⟩, more⟩
    · refine iff_of_true (Nat.le_trans less within_) ?_
      rintro manifest ioMode ⟨⟩ passes
      obtain ⟨b, t, ran⟩ := spawnWithIo_ok_iff.mpr passes
      refine absurd ?_ (silent manifest ioMode b rfl)
      simp only [SupervisorCall.perform, run_mapAnswer, ran, Except.map]
    · have more' : (m.perform env (.spawn manifest ioMode)).load = m.load + 1 := more
      rw [more']
      constructor
      · intro room _ _ _ _
        exact room
      · intro room
        simp only [SupervisorCall.perform, run_mapAnswer] at granted
        rcases ran : (spawnWithIo env manifest ioMode).run m.state with ⟨e | b', t⟩
        · rw [ran] at granted
          cases granted
        · exact room manifest ioMode rfl (spawnWithIo_ok_iff.mp ⟨b', t, ran⟩)
  | collect ids picks =>
    refine iff_of_true ?_ (by rintro _ _ ⟨⟩)
    have counts := coherent.collect_counts picks
    simp only [load] at within_ ⊢
    omega
  | kill => exact iff_of_true within_ (by rintro _ _ ⟨⟩)
  | settle id hosted outcome ended =>
    exact iff_of_true (Nat.le_trans (coherent.settle_load ended) within_) (by rintro _ _ ⟨⟩)

/-- **A run keeps the hosts, counting those being ended, within the cap exactly when every
spawn that passes its checks is made while they are fewer.** -/
theorem load_within_cap_iff {directories : Table String (Option TerminationReceipt)} {w : ω}
    {events : List MachineEvent}
    (run : Run (MachineStep env) (Machine.initial directories w) events m) :
    (∀ mid, Run.Visits (MachineStep env) (Machine.initial directories w) events mid →
        mid.load ≤ maxHosts) ↔
      ∀ mid event, Run.Takes (MachineStep env) (Machine.initial directories w) events mid event →
        SpawnsWithRoom env mid event := by
  have exactly := Run.throughout_iff (J := Coherent)
    machineStep_functional (fun coherent step => coherent.step step)
    (fun coherent within_ step => load_step_iff coherent within_ step)
    (coherent_initial directories w) run
  rw [exactly]
  exact and_iff_right (Nat.zero_le _)

/-! ## A full table -/

/-- Names of sessions, each one letter longer than the one before. -/
def hostName (n : Nat) : String := String.ofList (List.replicate (n + 1) 'h')

theorem load_within_cap_iff_spawn :
    (∀ mid, Run.Visits (MachineStep clockEnvironment) (Machine.initial ∅ 0)
        [.call (.spawn (sampleManifest "host" 64) .pty)] mid → mid.load ≤ maxHosts) ↔
      ∀ mid event, Run.Takes (MachineStep clockEnvironment) (Machine.initial ∅ 0)
        [.call (.spawn (sampleManifest "host" 64) .pty)] mid event →
          SpawnsWithRoom clockEnvironment mid event :=
  load_within_cap_iff (.next (.call _ _) (.done _))

theorem hostName_injective : Function.Injective hostName := by
  intro a b same
  have lengths := congrArg (fun name => name.toList.length) same
  simpa [hostName] using lengths

theorem replicate_utf8Encode_size (n : Nat) : (List.replicate n 'h').utf8Encode.size = n := by
  induction n with
  | zero => rfl
  | succ n ih =>
    have one : ['h'].utf8Encode.size = 1 := rfl
    rw [replicate_succ, utf8Encode_cons, ByteArray.size_append, ih, one, Nat.add_comm]

variable {n : Nat}

theorem hostName_valid (most : n ≤ maxHosts) : validComponent (hostName n) = true := by
  have size := replicate_utf8Encode_size (n + 1)
  simp only [maxHosts] at most
  simp [validComponent, hostName, String.utf8ByteSize, isControl, size]
  omega

/-- The state after a sample host was spawned. -/
def spawnedHost (s : SupervisorState Int) (id : String) (expires : Int) : SupervisorState Int where
  hosts := s.hosts.insert id
    { manifest := sampleManifest id expires
      custody := sampleManifest id expires
      spool := { base := 0, retained := [] }
      stderrSpool := none }
  terminating := s.terminating
  directories := s.directories.insert id none
  world := s.world + 1

/-- A spawn for a new session is granted while the table has room. -/
theorem spawn_granted (expires : Int) {s : SupervisorState Int} (named : n ≤ maxHosts)
    (live : s.world < expires ∧ expires ≤ s.world + 3600) (young : 0 ≤ s.world ∧ expires ≤ 10000)
    (room : s.hosts.entries.length < maxHosts) (unhosted : s.hosts.lookup (hostName n) = none)
    (untaken : s.directories.lookup (hostName n) = none) :
    (spawnWithIo clockEnvironment (sampleManifest (hostName n) expires) .pty).run s =
      (.ok (bindingOf (sampleManifest (hostName n) expires)),
        spawnedHost s (hostName n) expires) := by
  have lifetimes : (sampleManifest (hostName n) expires).validateRuntimeLifetimes s.world =
      .ok () := by
    rw [validateRuntimeLifetimes_ok_iff]
    simp only [sampleManifest, saturatingAdd, supervisorBindingMaxTtlSecs, supervisorHostMaxTtlSecs]
    omega
  have nonce : validComponent "host_nonce" = true := by decide
  have rest : ∀ value ∈ ["device", "workspace", "owner"], validComponent value = true := by decide
  have valid : ValidManifest (sampleManifest (hostName n) expires) := by
    refine ⟨fun value member => ?_, nonce, by simp [sampleManifest]; omega⟩
    rcases mem_cons.mp member with rfl | other
    · exact hostName_valid named
    · exact rest value other
  refine ofExcept_bind_ok_iff.mpr ⟨(), lifetimes, ?_⟩
  rw [run_reads_bind]
  refine bind_ok_iff.mpr ⟨(), _, run_require_of_holds room _ _, ?_⟩
  refine bind_ok_iff.mpr ⟨(), _, run_require_of_holds unhosted _ _, ?_⟩
  refine bind_ok_iff.mpr ⟨(), _, attemptTo_ok_iff.mpr ⟨rfl, rfl⟩, ?_⟩
  have created : (createSpool clockEnvironment (sampleManifest (hostName n) expires)).run
      { s with world := s.world + 1 } = (.ok (),
        { s with
          directories := s.directories.insert (hostName n) none
          world := s.world + 1 }) :=
    createSpool_ok_iff.mpr ⟨validate_ok_iff.mpr valid, untaken, rfl, rfl⟩
  exact bind_ok_iff.mpr ⟨(), _, created, rfl⟩

/-- A table of that many hosts, all of which expire at one time. -/
structure Filled (n : Nat) (s : SupervisorState Int) : Prop where
  clock : s.world = n
  unswept : s.terminating = []
  hosts : s.hosts.entries.length = n
  expiry : ∀ id hosted, s.hosts.lookup id = some hosted → hosted.manifest.hostExpiresUnix = 64
  later : ∀ k, n ≤ k → s.hosts.lookup (hostName k) = none ∧ s.directories.lookup (hostName k) = none

theorem Filled.spawnedHost {s : SupervisorState Int} (filled : Filled n s) :
    Filled (n + 1) (Supervisor.spawnedHost s (hostName n) 64) where
  clock := by
    show s.world + 1 = _
    rw [filled.clock]
    rfl
  unswept := filled.unswept
  hosts := by
    have absent := (filled.later n (le_refl n)).1
    exact (length_insert_of_absent absent _).trans (congrArg (· + 1) filled.hosts)
  expiry id hosted found := by
    rcases lookup_insert_some found with ⟨-, rfl⟩ | older
    · rfl
    · exact filled.expiry id hosted older
  later k later := by
    have apart : hostName k ≠ hostName n := fun same => by
      have := hostName_injective same
      omega
    obtain ⟨unhosted, untaken⟩ := filled.later k (Nat.le_of_succ_le later)
    exact ⟨(lookup_insert_ne apart).trans unhosted, (lookup_insert_ne apart).trans untaken⟩

theorem Machine.perform_spawn_state {manifest : HostManifest} {ioMode : HostIoMode}
    {b : SupervisorBinding} (ran : (spawnWithIo env manifest ioMode).run m.state = (.ok b, t)) :
    (m.perform env (.spawn manifest ioMode)).state = t :=
  congrArg Prod.snd ran

/-- The table fills up. -/
theorem reaches_filled (most : n ≤ maxHosts) :
    ∃ events m, Run (MachineStep clockEnvironment) (Machine.initial ∅ 0) events m ∧
      Filled n m.state := by
  induction n with
  | zero =>
    refine ⟨[], _, .done _, rfl, rfl, rfl, fun _ _ found => ?_, fun _ _ => ⟨rfl, rfl⟩⟩
    cases found
  | succ n ih =>
    obtain ⟨events, m, run, filled⟩ := ih (Nat.le_of_succ_le most)
    have small : (n : Int) < 64 := by
      simp only [maxHosts] at most
      omega
    have clock := filled.clock
    have hosts := filled.hosts
    have granted := spawn_granted 64 (Nat.le_of_succ_le most)
      (by omega) (by omega) (by omega) (filled.later n (le_refl n)).1
      (filled.later n (le_refl n)).2
    refine ⟨_, _, run.append (.next (.call m (.spawn (sampleManifest (hostName n) 64) .pty))
      (.done _)), ?_⟩
    rw [perform_spawn_state granted]
    exact filled.spawnedHost

/-- A sweep empties a full table, and another host is let in before any of those it took
is confirmed to have ended. -/
theorem load_exceeds_cap :
    ∃ events m, Run (MachineStep clockEnvironment) (Machine.initial ∅ 0) events m ∧
      maxHosts < m.load := by
  obtain ⟨events, m, run, filled⟩ := reaches_filled (le_refl maxHosts)
  have coherent : Coherent m :=
    Run.invariant (fun coherent step => coherent.step step) (coherent_initial ∅ 0) run
  have all : (m.state.expired 64).length = maxHosts := by
    have everyone : m.state.hosts.entries.filter
        (fun entry => entry.2.manifest.hostExpiresUnix ≤ 64) = m.state.hosts.entries := by
      refine filter_eq_self.mpr fun entry member => ?_
      have expiry := filled.expiry entry.1 entry.2 (mem_lookup_iff.mpr member)
      simp [expiry]
    rw [expired, everyone, length_map, filled.hosts]
  have clock : m.sweepClock clockEnvironment = 64 := filled.clock
  have picks : m.state.Picks (m.sweepClock clockEnvironment) (m.state.expired 64) := by
    rw [clock]
    exact ⟨List.Subperm.refl _, by rw [all, Nat.min_self]⟩
  obtain ⟨emptied, taken⟩ := coherent.collect_counts picks
  obtain ⟨world, directories⟩ := m.collect_frame clockEnvironment (m.state.expired 64)
  have young : (m.collect clockEnvironment (m.state.expired 64)).state.world = 65 := by
    rw [world, filled.clock]
    rfl
  rw [all, filled.hosts] at emptied
  rw [all, filled.unswept] at taken
  have collected := run.append (.next (.collect m _ picks) (.done _))
  generalize m.collect clockEnvironment (m.state.expired 64) = swept at *
  have nobody : swept.state.hosts = ∅ := by
    apply AList.ext
    exact eq_nil_of_length_eq_zero (by omega)
  have granted := spawn_granted 1000 (s := swept.state)
    (le_refl maxHosts) (by omega) (by omega) (by rw [nobody]; decide) (by rw [nobody]; rfl)
    (by rw [directories]; exact (filled.later maxHosts (le_refl _)).2)
  refine ⟨_, _, collected.append (.next (.call swept (.spawn (sampleManifest (hostName maxHosts)
    1000) .pty)) (.done _)), ?_⟩
  rw [load, perform_spawn_state granted]
  have one : (spawnedHost swept.state (hostName maxHosts) 1000).hosts.entries.length = 1 := by
    simp only [spawnedHost, nobody]
    rfl
  have marks : (spawnedHost swept.state (hostName maxHosts) 1000).terminating.length =
      maxHosts := by
    rw [spawnedHost, taken]
    rfl
  omega

end OwnMesh.Supervisor
