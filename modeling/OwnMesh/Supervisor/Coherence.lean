import OwnMesh.Supervisor.Calls

/-!
# What holds of the supervisor in every run

A session is hosted, being ended by a sweep, or neither, and the marks of the sweeps say
which.  `CoherentAt` says this of one session, together with what its manifest, its spool
and its directory have to do with each other; `Coherent` says it of all.  Every step
keeps it (`Coherent.step`).
-/

namespace OwnMesh.Supervisor

open Foundations Foundations.Program Ipc List AList

variable {ω : Type} {env : Environment ω} {s t : SupervisorState ω}

/-- What holds of one session: a live host and a host being ended have the manifest their
spool holds and a directory; a session is marked exactly while a sweep has its host; and a
host that was spawned is tracked, being ended, or confirmed. -/
structure CoherentAt (m : Machine ω) (id : String) : Prop where
  hosted : ∀ {hosted}, m.state.hosts.lookup id = some hosted →
    hosted.manifest.sessionId = id ∧ hosted.custody = hosted.manifest ∧
      m.state.directories.lookup id ≠ none ∧ m.sweeping.lookup id = none
  swept : ∀ {sweeping}, m.sweeping.lookup id = some sweeping →
    sweeping.hosted.manifest.sessionId = id ∧ sweeping.hosted.custody = sweeping.hosted.manifest ∧
      m.state.directories.lookup id ≠ none
  marked : id ∈ m.state.terminating ↔ m.sweeping.lookup id ≠ none
  ended : ∀ {hosted}, m.sweeping.lookup id = some { hosted := hosted, outcome := some none } →
    id ∈ m.confirmed
  spawned : id ∈ m.spawned →
    m.state.hosts.lookup id ≠ none ∨ m.sweeping.lookup id ≠ none ∨ id ∈ m.confirmed

/-- What holds of the whole machine. -/
structure Coherent (m : Machine ω) : Prop where
  each : ∀ id, CoherentAt m id
  marks : m.state.terminating.Nodup

section Steps

variable {m m' : Machine ω} {id : String}

/-- A step that does not touch a session keeps what holds of it. -/
theorem CoherentAt.of_same (coherent : CoherentAt m id)
    (hosts : m'.state.hosts.lookup id = m.state.hosts.lookup id)
    (sweeping : m'.sweeping.lookup id = m.sweeping.lookup id)
    (directories : m.state.directories.lookup id ≠ none → m'.state.directories.lookup id ≠ none)
    (terminating : id ∈ m'.state.terminating ↔ id ∈ m.state.terminating)
    (spawned : id ∈ m'.spawned → id ∈ m.spawned ∨ m'.state.hosts.lookup id ≠ none)
    (confirmed : id ∈ m.confirmed → id ∈ m'.confirmed) : CoherentAt m' id where
  hosted found := by
    rw [hosts] at found
    obtain ⟨session, custody, directory, unswept⟩ := coherent.hosted found
    exact ⟨session, custody, directories directory, sweeping.trans unswept⟩
  swept found := by
    rw [sweeping] at found
    obtain ⟨session, custody, directory⟩ := coherent.swept found
    exact ⟨session, custody, directories directory⟩
  marked := by rw [terminating, sweeping, coherent.marked]
  ended found := by
    rw [sweeping] at found
    exact confirmed (coherent.ended found)
  spawned born := by
    rcases spawned born with before | here
    · rw [hosts, sweeping]
      rcases coherent.spawned before with live | swept | dead
      · exact .inl live
      · exact .inr (.inl swept)
      · exact .inr (.inr (confirmed dead))
    · exact .inl here

theorem coherent_initial (directories : Table String (Option TerminationReceipt)) (w : ω) :
    Coherent (Machine.initial directories w) where
  each id :=
    { hosted := nofun
      swept := nofun
      marked := by simp [Machine.initial]
      ended := nofun
      spawned := nofun }
  marks := nodup_nil

variable {call : SupervisorCall}

theorem Machine.mem_newlySpawned {before after : SupervisorState ω}
    (born : id ∈ Machine.newlySpawned call before after) : after.hosts.lookup id ≠ none := by
  cases call with
  | spawn =>
    simp only [newlySpawned] at born
    split at born
    · next tracked =>
        rw [mem_singleton.mp born]
        simpa [SupervisorState.tracked, Option.isSome_iff_ne_none] using tracked.2
    · cases born
  | _ => cases born

/-- The sessions a call does not touch. -/
theorem CoherentAt.after_of_same (coherent : CoherentAt m id)
    (hosts : t.hosts.lookup id = m.state.hosts.lookup id)
    (terminating : t.terminating = m.state.terminating)
    (directories : m.state.directories.lookup id ≠ none → t.directories.lookup id ≠ none) :
    CoherentAt (m.after env call t) id := by
  refine coherent.of_same hosts rfl directories (terminating ▸ .rfl) (fun born => ?_)
    (mem_append_right _)
  rcases mem_append.mp born with new | old
  · exact .inr (Machine.mem_newlySpawned new)
  · exact .inl old

variable {hosted : Hosted}

/-- The session of a host that is put into the table, new or in place of another. -/
theorem CoherentAt.after_of_hosted (coherent : CoherentAt m id)
    (hosts : t.hosts.lookup id = some hosted) (session : hosted.manifest.sessionId = id)
    (custody : hosted.custody = hosted.manifest) (unswept : m.sweeping.lookup id = none)
    (terminating : t.terminating = m.state.terminating)
    (directories : t.directories.lookup id ≠ none) : CoherentAt (m.after env call t) id where
  hosted found := by
    cases hosts.symm.trans found
    exact ⟨session, custody, directories, unswept⟩
  swept found := by cases unswept.symm.trans found
  marked := by
    show id ∈ t.terminating ↔ _
    rw [terminating]
    exact coherent.marked
  ended found := by cases unswept.symm.trans found
  spawned _ := .inl (by
    show t.hosts.lookup id ≠ none
    rw [hosts]
    exact nofun)

variable {r : Except String (Option SupervisorBinding)}

/-- No call removes a directory. -/
theorem Effect.directory_kept (effect : Effect env s call r t)
    (taken : s.directories.lookup id ≠ none) : t.directories.lookup id ≠ none := by
  have inserted : ∀ key receipt, t.directories = s.directories.insert key receipt →
      t.directories.lookup id ≠ none := by
    intro key receipt directories
    rw [directories]
    by_cases here : id = key
    · rw [here, lookup_insert]
      exact nofun
    · rwa [lookup_insert_ne here]
  cases effect with
  | quiet _ same => rwa [(SupervisorState.books_eq_iff.mp same).2.2]
  | repeated | changed => exact taken
  | reserved _ _ _ directories | spawned _ _ _ _ _ _ directories
  | receipted _ _ _ _ directories => exact inserted _ _ directories
  | stored _ _ _ _ _ directories => rwa [directories]
  | ended _ _ _ _ directories =>
    rcases directories with ⟨-, directories⟩ | ⟨same, -⟩
    · exact inserted _ _ directories
    · rwa [same]

theorem Coherent.after_each (all : Coherent m)
    (effect : Effect env m.state call r t) (id : String) : CoherentAt (m.after env call t) id := by
  have coherent := all.each id
  have kept : m.state.directories.lookup id ≠ none → t.directories.lookup id ≠ none :=
    effect.directory_kept
  cases effect with
  | quiet _ same =>
    obtain ⟨hosts, terminating, -⟩ := SupervisorState.books_eq_iff.mp same
    exact coherent.after_of_same (by rw [hosts]) terminating kept
  | repeated found replays => exact coherent.after_of_same rfl rfl kept
  | @changed previous asked receipt hosted next w found unrepeated applied =>
    by_cases here : id = previous.sessionId
    · subst here
      obtain ⟨session, custody, directory, unswept⟩ := coherent.hosted found
      exact coherent.after_of_hosted (lookup_insert _) (applied.sessionId_eq.trans session)
        rfl unswept rfl directory
    · exact coherent.after_of_same (lookup_insert_ne here) rfl kept
  | reserved _ hosts terminating | receipted _ hosts terminating =>
    exact coherent.after_of_same (by rw [hosts]) terminating kept
  | @spawned manifest ioMode _ hosted room unhosted untaken manifests hosts terminating
      directories =>
      by_cases here : id = manifest.sessionId
      · have unswept : m.sweeping.lookup id = none := by
          cases swept : m.sweeping.lookup id with
          | none => rfl
          | some => exact absurd (here ▸ untaken) (coherent.swept swept).2.2
        have live : t.hosts.lookup id = some hosted := by
          rw [hosts, here, lookup_insert]
        refine coherent.after_of_hosted live (by rw [manifests.1, here])
          (manifests.2.trans manifests.1.symm) unswept terminating ?_
        rw [directories, here, lookup_insert]
        exact nofun
      · exact coherent.after_of_same (by rw [hosts, lookup_insert_ne here]) terminating kept
  | @stored binding offset maxBytes stderr r _ hosted stocked silent found manifests hosts
      terminating directories =>
      by_cases here : id = binding.sessionId
      · rw [← here] at found hosts
        obtain ⟨session, custody, directory, unswept⟩ := coherent.hosted found
        have live : t.hosts.lookup id = some stocked := by
          rw [hosts, lookup_insert]
        exact coherent.after_of_hosted live (by rw [manifests.1, session])
          (by rw [manifests.1, manifests.2, custody]) unswept terminating (kept directory)
      · exact coherent.after_of_same (by rw [hosts, lookup_insert_ne here]) terminating kept
  | @ended binding receipt hosted _ found ends hosts terminating =>
    obtain ⟨-, -, -, unswept⟩ := (all.each _).hosted found
    by_cases here : id = binding.sessionId
    · rw [← here] at unswept hosts
      refine ⟨fun live => ?_, fun swept => ?_, ?_, fun swept => ?_, fun _ => ?_⟩
      · have gone : t.hosts.lookup id = none := by rw [hosts, lookup_erase]
        cases gone.symm.trans live
      · cases unswept.symm.trans swept
      · show id ∈ t.terminating ↔ _
        rw [terminating]
        exact coherent.marked
      · cases unswept.symm.trans swept
      · refine .inr (.inr (mem_append_left _ ?_))
        simp only [Machine.newlyConfirmed, ends, if_true, here, mem_singleton]
    · exact coherent.after_of_same (by rw [hosts, lookup_erase_ne here]) terminating kept

theorem Effect.terminating_eq (effect : Effect env s call r t) : t.terminating = s.terminating := by
  cases effect with
  | quiet _ same => exact (SupervisorState.books_eq_iff.mp same).2.1
  | repeated | changed => rfl
  | reserved _ _ terminating | spawned _ _ _ _ _ terminating | stored _ _ _ _ terminating
  | receipted _ _ terminating | ended _ _ _ terminating => exact terminating

theorem Coherent.perform (coherent : Coherent m) (call : SupervisorCall) :
    Coherent (m.perform env call) := by
  have effect := perform_effect env call m.state
  refine ⟨coherent.after_each effect, ?_⟩
  show ((call.perform env).run m.state).2.terminating.Nodup
  rw [effect.terminating_eq]
  exact coherent.marks

/-! ### Sweeps -/

theorem Coherent.take (coherent : Coherent m) (id : String) : Coherent (m.take id) := by
  unfold Machine.take
  cases found : m.state.hosts.lookup id with
  | none => exact coherent
  | some =>
    obtain ⟨session, custody, directory, unswept⟩ := (coherent.each id).hosted found
    have unmarked : id ∉ m.state.terminating := fun marked =>
      (coherent.each id).marked.mp marked unswept
    have marks : m.state.terminating.insert id = id :: m.state.terminating :=
      insert_of_not_mem unmarked
    refine ⟨fun other => ?_, ?_⟩
    · by_cases here : other = id
      · subst here
        refine ⟨fun live => ?_, fun swept => ?_, ?_, fun swept => ?_, fun _ => ?_⟩
        · cases (lookup_erase other m.state.hosts).symm.trans live
        · cases (lookup_insert m.sweeping).symm.trans swept
          exact ⟨session, custody, directory⟩
        · show other ∈ m.state.terminating.insert other ↔
            (m.sweeping.insert other _).lookup other ≠ none
          simp
        · cases (lookup_insert m.sweeping).symm.trans swept
        · refine .inr (.inl ?_)
          rw [lookup_insert]
          exact nofun
      · refine (coherent.each other).of_same (lookup_erase_ne here)
          (lookup_insert_ne here) (fun kept => kept) ?_ .inl fun dead => dead
        show other ∈ m.state.terminating.insert id ↔ _
        simp [here]
    · show (m.state.terminating.insert id).Nodup
      rw [marks]
      exact nodup_cons.mpr ⟨unmarked, coherent.marks⟩

theorem Coherent.collect (coherent : Coherent m) (ids : List String) :
    Coherent (m.collect env ids) := by
  have start : Coherent (m.clocked env) :=
    ⟨fun id => (coherent.each id).of_same rfl rfl (fun kept => kept) Iff.rfl .inl fun dead => dead,
      coherent.marks⟩
  exact List.foldlRecOn ids _ start fun _ kept id _ => kept.take id

/-- A host that a sweep has taken is not in the table. -/
theorem CoherentAt.unhosted (coherent : CoherentAt m id) {sweeping : Sweeping}
    (swept : m.sweeping.lookup id = some sweeping) : m.state.hosts.lookup id = none := by
  cases live : m.state.hosts.lookup id with
  | none => rfl
  | some => cases swept.symm.trans (coherent.hosted live).2.2.2

theorem Coherent.kill (coherent : Coherent m)
    (pending : m.sweeping.lookup id = some { hosted := hosted, outcome := none }) :
    Coherent (m.kill env id hosted) := by
  have confirmed : ∀ other, other ∈ m.confirmed → other ∈ (m.kill env id hosted).confirmed := by
    intro other dead
    simp only [Machine.kill]
    split
    · exact mem_cons_of_mem _ dead
    · exact dead
  refine ⟨fun other => ?_, coherent.marks⟩
  by_cases here : other = id
  · subst here
    have swept : (m.kill env other hosted).sweeping.lookup other =
        some { hosted := hosted, outcome := some (env.terminateHost other m.state.world).1 } :=
      lookup_insert _
    refine ⟨fun live => ?_, fun found => ?_, ?_, fun found => ?_, fun _ => ?_⟩
    · cases ((coherent.each other).unhosted pending).symm.trans live
    · cases swept.symm.trans found
      have facts := (coherent.each other).swept pending
      exact facts
    · rw [swept]
      exact iff_of_true ((coherent.each other).marked.mpr (by rw [pending]; exact nofun)) nofun
    · have outcome : (env.terminateHost other m.state.world).1 = none := by
        have same := swept.symm.trans found
        simp only [Option.some.injEq, Sweeping.mk.injEq] at same
        exact same.2
      simp only [Machine.kill, outcome, if_true, mem_cons_self]
    · exact .inr (.inl (by rw [swept]; exact nofun))
  · exact (coherent.each other).of_same rfl (lookup_insert_ne here) (fun kept => kept)
      Iff.rfl .inl (confirmed other)

/-- The sessions a settled attempt does not touch. -/
theorem Coherent.settle_other (coherent : Coherent m) {other : String} (outcome : Option String)
    (here : other ≠ id) : CoherentAt (m.settle id hosted outcome) other := by
  have marks : other ∈ m.state.terminating.erase id ↔ other ∈ m.state.terminating :=
    mem_erase_of_ne here
  cases outcome with
  | none =>
    exact (coherent.each other).of_same rfl (lookup_erase_ne here) (fun kept => kept) marks
      .inl fun dead => dead
  | some =>
    exact (coherent.each other).of_same (lookup_insert_ne here)
      (lookup_erase_ne here) (fun kept => kept) marks .inl fun dead => dead

theorem Coherent.settle (coherent : Coherent m) {outcome : Option String}
    (ended : m.sweeping.lookup id = some { hosted := hosted, outcome := some outcome }) :
    Coherent (m.settle id hosted outcome) := by
  have unmarked : id ∉ m.state.terminating.erase id := coherent.marks.not_mem_erase
  have unswept : (m.sweeping.erase id).lookup id = none := lookup_erase id m.sweeping
  obtain ⟨session, custody, directory⟩ := (coherent.each id).swept ended
  refine ⟨fun other => ?_, ?_⟩
  · by_cases here : other = id
    · subst here
      have gone {sweeping : Sweeping}
          (found : (m.sweeping.erase other).lookup other = some sweeping) : False := by
        cases unswept.symm.trans found
      cases outcome with
      | none =>
        refine ⟨fun live => ?_, fun found => (gone found).elim, iff_of_false unmarked
          (not_not_intro unswept), fun found => (gone found).elim,
          fun _ => .inr (.inr ((coherent.each other).ended ended))⟩
        cases ((coherent.each other).unhosted ended).symm.trans live
      | some reason =>
        have live : (m.settle other hosted (some reason)).state.hosts.lookup other =
            some hosted := lookup_insert _
        refine ⟨fun found => ?_, fun found => (gone found).elim, iff_of_false unmarked
          (not_not_intro unswept), fun found => (gone found).elim, fun _ => .inl (by simp [live])⟩
        cases live.symm.trans found
        exact ⟨session, custody, directory, unswept⟩
    · exact coherent.settle_other outcome here
  · cases outcome with
    | none | some => exact coherent.marks.erase id

theorem Coherent.step {event : MachineEvent} (coherent : Coherent m)
    (step : MachineStep env m event m') : Coherent m' := by
  cases step with
  | call call => exact coherent.perform call
  | collect ids => exact coherent.collect ids
  | kill id hosted pending => exact coherent.kill pending
  | settle id hosted outcome ended => exact coherent.settle ended

/-- **No child is lost.**  Whatever calls and sweeps do in turns, every child that was spawned is
tracked, being ended, or confirmed to have ended, and the tables agree on which. -/
theorem machine_coherent {directories : Table String (Option TerminationReceipt)} {w : ω}
    {events : List MachineEvent}
    (run : Run (MachineStep env) (Machine.initial directories w) events m) : Coherent m :=
  run.invariant (fun coherent step => coherent.step step) (coherent_initial directories w)

theorem machine_coherent_spawn : Coherent ((Machine.initial ∅ 0).perform clockEnvironment
    (.spawn (sampleManifest "host" 1000) .pty)) :=
  machine_coherent (.next (.call _ _) (.done _))

end Steps

end OwnMesh.Supervisor
