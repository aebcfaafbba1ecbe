import OwnMesh.Foundations.Run

/-!
# Dispatch tasks across the connections of the agent

The agent serves one connection at a time with a `live_loop`.  A loop has a cancel registry and a
channel of finished operations of its own, and both go with it.  The dispatch tasks it spawns do
not: a task outlives its loop, and the set of active dispatches and the parked replies are there
for the next one.

A step is one turn of the loop or of a task.  The checks that come before the in-flight permit,
the outbox and the file are outside the model: a request that is answered without a task is a
`turn`, a step that fails after its last effect is that step followed by `exit`, and `saved` says
whether `mark_dispatch_started` and the save after it both succeed.  A reply is known by its task;
what `remember_completed` keeps of it under its budgets is not followed.
-/

namespace OwnMesh.AgentTransport

open Foundations Function List

def maxCompletionQueue : Nat := 8

def maxInFlightRemoteOps : Nat := 32

def maxCompletedReplies : Nat := 1024

/-- Where the body of a spawned task is: in `dispatch_remote_operation`, before the `send` of the
reply, before the removal from the active dispatches, or over. -/
inductive Phase where
  | running
  | returned
  | sent
  | ended
  deriving DecidableEq

structure Task where
  loop : Nat
  (correlationId operationId : String)

def Task.key (task : Task) : Nat × String := (task.loop, task.operationId)

structure CompletedReply where
  task : Nat
  correlationId : String
  deriving DecidableEq

/-- The process.  `loop` counts the loops; `registered` says which tasks have their sender in the
registry of their loop, under their operation id.  Two fields are for the statements only:
`completedReplies` has every reply that was given to `remember_completed`, and `forgotten` says
under which tasks the name has been removed from the registry. -/
structure Transport where
  connected : Bool := false
  loop : Nat := 0
  tasks : List Task := []
  phase : Nat → Phase := fun _ => .running
  signalled : Nat → Bool := fun _ => false
  registered : Nat → Bool := fun _ => false
  forgotten : Nat → Bool := fun _ => false
  active : Finset String := ∅
  queue : List CompletedReply := []
  orphans : List CompletedReply := []
  completedReplies : List CompletedReply := []

inductive Event where
  | connect
  | turn
  | exit
  | receive
  | request (correlationId operationId : String) (saved : Bool)
  | cancel (target : String) (saved : Bool)
  | returned (task : Nat)
  | send (task : Nat)
  | release (task : Nat)

namespace Transport

/-! ## The loop -/

def absorbOrphanCompletions (t : Transport) : Transport :=
  { t with orphans := [], completedReplies := t.completedReplies ++ t.orphans }

/-- The loop returns, and the receiver of its channel is dropped with what is in it. -/
def exit (t : Transport) : Transport := { t with connected := false, queue := [] }

/-- The registry of the loop and the name under which the task is known there. -/
def keyOf (t : Transport) (n : Nat) : Option (Nat × String) := t.tasks[n]?.map Task.key

/-- The sender that is registered under the name, if any, sends `true`. -/
def signal (t : Transport) (key : Nat × String) : Transport :=
  { t with signalled := fun n => t.signalled n || (t.registered n && t.keyOf n = some key) }

/-- A name has one sender: the one that was there before is signalled. -/
def register (t : Transport) (key : Nat × String) (task : Nat) : Transport :=
  { t.signal key with
    registered := fun n => n = task || (t.registered n && t.keyOf n ≠ some key) }

/-- The tasks of the loops that have not ended. -/
def unfinished (t : Transport) (loops : Nat → Bool) : Nat :=
  (List.range t.tasks.length).countP fun n =>
    (t.tasks[n]?.map Task.loop).any loops && t.phase n ≠ .ended

/-- The permits of this loop that are taken: a task keeps its permit until it has ended. -/
def inFlight (t : Transport) : Nat := t.unfinished (· = t.loop)

/-- The request gets a permit and its correlation is not being dispatched. -/
def Admits (t : Transport) (correlationId : String) : Prop :=
  t.connected ∧ t.inFlight < maxInFlightRemoteOps ∧ correlationId ∉ t.active

instance (t : Transport) (correlationId : String) : Decidable (t.Admits correlationId) :=
  inferInstanceAs (Decidable (_ ∧ _ ∧ _))

/-- The correlation is guarded first, and the task spawned if the mark is saved. -/
def dispatch (t : Transport) (correlationId operationId : String) (saved : Bool) : Transport :=
  let guarded := { t with active := insert correlationId t.active }
  if saved then
    let registered := guarded.register (t.loop, operationId) t.tasks.length
    { registered with tasks := t.tasks ++ [⟨t.loop, correlationId, operationId⟩] }
  else guarded.exit

def cancel (t : Transport) (target : String) (saved : Bool) : Transport :=
  if saved then
    if target = "" then t else t.signal (t.loop, target)
  else t.exit

/-! ## The tasks -/

/-- What a task does in the phase, if it is there. -/
def advance (t : Transport) (n : Nat) (phase : Phase) (next : Task → Transport) : Transport :=
  match t.tasks[n]? with
  | some task => if t.phase n = phase then next task else t
  | none => t

def forget (t : Transport) (n : Nat) (task : Task) : Transport :=
  { t with
    phase := update t.phase n .returned
    registered := fun m => t.registered m && t.keyOf m ≠ some task.key
    forgotten := fun m => t.forgotten m || t.keyOf m = some task.key }

def parked (orphans : List CompletedReply) (completed : CompletedReply) : List CompletedReply :=
  let others := orphans.filter fun row => row.correlationId ≠ completed.correlationId
  let kept := if maxCompletedReplies ≤ others.length then others.tail else others
  kept ++ [completed]

def rememberOrphanCompletion (t : Transport) (completed : CompletedReply) : Transport :=
  { t with orphans := parked t.orphans completed }

/-- The channel takes the reply when there is room in it, and refuses it once its loop is gone. -/
def send (t : Transport) (n : Nat) (task : Task) : Transport :=
  let completed : CompletedReply := ⟨n, task.correlationId⟩
  let handed := { t with phase := update t.phase n .sent }
  if t.connected ∧ task.loop = t.loop then
    if t.queue.length < maxCompletionQueue then { handed with queue := t.queue ++ [completed] }
    else t
  else handed.rememberOrphanCompletion completed

def release (t : Transport) (n : Nat) (task : Task) : Transport :=
  { t with phase := update t.phase n .ended, active := t.active.erase task.correlationId }

def step (t : Transport) : Event → Transport
  | .connect =>
    if t.connected then t
    else { t.absorbOrphanCompletions with connected := true, loop := t.loop + 1 }
  | .turn => if t.connected then t.absorbOrphanCompletions else t
  | .exit => t.exit
  | .receive =>
    match t.queue with
    | [] => t
    | finished :: rest =>
      { t with queue := rest, completedReplies := t.completedReplies ++ [finished] }
  | .request correlationId operationId saved =>
    if t.connected then
      if t.Admits correlationId then
        t.absorbOrphanCompletions.dispatch correlationId operationId saved
      else t.absorbOrphanCompletions
    else t
  | .cancel target saved =>
    if t.connected then t.absorbOrphanCompletions.cancel target saved else t
  | .returned n => t.advance n .running (t.forget n)
  | .send n => t.advance n .returned (t.send n)
  | .release n => t.advance n .sent (t.release n)

end Transport

/-- The steps of the process. -/
def Step (t : Transport) (event : Event) (u : Transport) : Prop := u = t.step event

/-- The runs of a fresh process that keep `I`, where `C` says which steps do. -/
theorem throughout_iff {I J : Transport → Prop} {C : Transport → Event → Prop}
    (preserves : ∀ {t} event, J t → J (t.step event))
    (exactly : ∀ {t event}, J t → I t → (I (t.step event) ↔ C t event)) (sound : J {})
    (holds : I {}) (events : List Event) : (∀ mid, Run.Visits Step {} events mid → I mid) ↔
      ∀ mid event, Run.Takes Step {} events mid event → C mid event := by
  have run : Run Step {} events (events.foldl Transport.step {}) := Run.played ..
  refine (Run.throughout_iff ?_ ?_ ?_ sound run).trans (and_iff_right holds)
  · rintro a event _ _ rfl rfl
    rfl
  · rintro a event _ kept rfl
    exact preserves event kept
  · rintro a event _ kept held rfl
    exact exactly kept held

variable {t u : Transport} {event : Event} {n : Nat} {task : Task} {key : Nat × String}

namespace Transport

theorem advance_cases {P : Transport → Prop} {phase : Phase} {next : Task → Transport} (idle : P t)
    (moved : ∀ task, t.tasks[n]? = some task → t.phase n = phase → P (next task)) :
    P (t.advance n phase next) := by
  rw [advance]
  split
  next task found =>
    split
    next there => exact moved task found there
    next => exact idle
  next => exact idle

/-- What a step can do.  The loop and the replies apart, it leaves all as it is, or it is one of
the five changes. -/
inductive Change (t : Transport) : Event → Transport → Prop where
  | quiet {event : Event} (connected : Bool) (loop : Nat)
      (queue orphans completedReplies : List CompletedReply)
      (unadmitted : ∀ c o saved, event = .request c o saved → ¬ t.Admits c) :
      Change t event { t with connected, loop, queue, orphans, completedReplies }
  | dispatched {c o : String} {saved : Bool} (admits : t.Admits c) :
      Change t (.request c o saved) (t.absorbOrphanCompletions.dispatch c o saved)
  | cancelled {target : String} (key : Nat × String) :
      Change t (.cancel target true) (t.absorbOrphanCompletions.signal key)
  | returned {n : Nat} {task : Task} (found : t.tasks[n]? = some task) :
      Change t (.returned n) (t.forget n task)
  | handed {n : Nat} {task : Task} (queue orphans : List CompletedReply)
      (found : t.tasks[n]? = some task) :
      Change t (.send n) { t with phase := update t.phase n .sent, queue, orphans }
  | released {n : Nat} {task : Task} (found : t.tasks[n]? = some task) :
      Change t (.release n) (t.release n task)

theorem step_change (t : Transport) (event : Event) : Change t event (t.step event) := by
  cases event with
  | connect => rw [step]; split <;> exact .quiet _ _ _ _ _ (by simp)
  | exit => exact .quiet _ _ _ _ _ (by simp)
  | turn | receive => rw [step]; split <;> exact .quiet _ _ _ _ _ (by simp)
  | request c o saved =>
    rw [step]
    split_ifs with connected admits
    · exact .dispatched admits
    · exact .quiet _ _ _ _ _ (by simp [admits])
    · exact .quiet _ _ _ _ _ (by simp [Admits, connected])
  | cancel target saved =>
    rw [step, cancel]
    split_ifs with _ isSaved
    · exact .quiet _ _ _ _ _ (by simp)
    · exact isSaved ▸ .cancelled _
    · exact .quiet _ _ _ _ _ (by simp)
    · exact .quiet _ _ _ _ _ (by simp)
  | returned n =>
    exact advance_cases (.quiet _ _ _ _ _ (by simp)) fun _ found _ => .returned found
  | send n =>
    refine advance_cases (.quiet _ _ _ _ _ (by simp)) fun _ found _ => ?_
    rw [send]
    split_ifs
    · exact .handed _ _ found
    · exact .quiet _ _ _ _ _ (by simp)
    · exact .handed _ _ found
  | release n =>
    exact advance_cases (.quiet _ _ _ _ _ (by simp)) fun _ found _ => .released found

@[simp] theorem absorbed_tasks : t.absorbOrphanCompletions.tasks = t.tasks := rfl

theorem lt_of_keyOf {key : Nat × String} (known : t.keyOf n = some key) : n < t.tasks.length := by
  obtain ⟨task, found, -⟩ := Option.map_eq_some_iff.mp known
  exact (List.getElem?_eq_some_iff.mp found).1

theorem running_of_update {m : Nat} {phase : Phase} (other : phase ≠ .running)
    (runs : update t.phase n phase m = .running) : t.phase m = .running := by
  by_cases same : m = n
  · exact absurd (by simpa [same] using runs) other
  · simpa [same] using runs

/-! ## A cancel and the running tasks -/

/-- The registry knows the running tasks that are not signalled, but for those whose name has been
removed since. -/
structure Registered (t : Transport) : Prop where
  spawned : ∀ n, t.forgotten n → n < t.tasks.length
  kept : ∀ n, t.registered n → ¬ t.forgotten n
  reached : ∀ n < t.tasks.length, t.phase n = .running →
    t.signalled n ∨ t.registered n ∨ t.forgotten n

theorem Registered.step (sound : Registered t) (event : Event) : Registered (t.step event) := by
  have change := step_change t event
  generalize t.step event = u at change
  cases change with
  | quiet => exact ⟨sound.spawned, sound.kept, sound.reached⟩
  | @dispatched c o saved =>
    cases saved with
    | false => exact ⟨sound.spawned, sound.kept, sound.reached⟩
    | true =>
      refine ⟨fun n gone => ?_, fun n named gone => ?_, fun n isTask runs => ?_⟩
      · simpa [dispatch] using Nat.lt_succ_of_lt (sound.spawned n gone)
      · have old : n ≠ t.tasks.length := (sound.spawned n gone).ne
        refine sound.kept n ?_ gone
        simp_all [dispatch, register, absorbOrphanCompletions]
      · by_cases new : n = t.tasks.length
        · simp [dispatch, register, absorbOrphanCompletions, new]
        · have old : n < t.tasks.length := by
            refine lt_of_le_of_ne (Nat.le_of_lt_succ ?_) new
            simpa [dispatch] using isTask
          -- the task that had the name is signalled when it is replaced
          have before := sound.reached n old runs
          simp only [dispatch, register, signal, absorbOrphanCompletions]
          grind
  | cancelled key =>
    refine ⟨sound.spawned, sound.kept, fun n isTask runs => ?_⟩
    refine (sound.reached n isTask runs).imp_left fun already => ?_
    simp [signal, absorbOrphanCompletions, already]
  | @returned n task found =>
    refine ⟨fun m gone => ?_, fun m named gone => ?_, fun m isTask runs => ?_⟩
    · simp only [forget, Bool.or_eq_true, decide_eq_true_eq] at gone
      exact gone.elim (sound.spawned m) lt_of_keyOf
    · have := sound.kept m
      simp_all [forget]
    · have before := sound.reached m isTask (running_of_update (by decide) runs)
      simp only [forget]
      grind
  | handed | released =>
    refine ⟨sound.spawned, sound.kept, fun m isTask runs => ?_⟩
    exact sound.reached m isTask (running_of_update (by decide) runs)

/-- The task of the operation is in `dispatch_remote_operation`. -/
def Runs (t : Transport) (operationId : String) (n : Nat) (task : Task) : Prop :=
  t.tasks[n]? = some task ∧ task.operationId = operationId ∧ t.phase n = .running

theorem cancel_signals_iff {target : String} (saved : Bool) (sound : Registered t)
    (connected : t.connected) (runs : t.Runs target n task) :
    (t.step (.cancel target saved)).signalled n ↔
      t.signalled n ∨ saved ∧ target ≠ "" ∧ task.loop = t.loop ∧ ¬ t.forgotten n := by
  obtain ⟨found, rfl, running⟩ := runs
  have isTask : n < t.tasks.length := (List.getElem?_eq_some_iff.mp found).1
  have reached := sound.reached n isTask running
  have kept := sound.kept n
  rw [step, if_pos connected, cancel]
  split_ifs with isSaved unnamed
  · simp [absorbOrphanCompletions, unnamed]
  · simp [signal, absorbOrphanCompletions, keyOf, found, Task.key, isSaved, unnamed]
    grind
  · simp [exit, absorbOrphanCompletions, isSaved]

end Transport

open Transport

/-- **Which cancels reach the tasks of their target.**  A cancel that a loop accepts sets the
signal of every task of the target that runs, throughout a run, exactly when at each such cancel
the tasks that are not signalled yet were started by this loop, no task of the operation has
returned to this loop since, and the cancel is saved and names an operation. -/
theorem cancels_signal_iff (events : List Event) :
    (∀ mid target saved, Run.Takes Step {} events mid (.cancel target saved) → mid.connected →
      ∀ n task, mid.Runs target n task → (mid.step (.cancel target saved)).signalled n) ↔
    ∀ mid target saved, Run.Takes Step {} events mid (.cancel target saved) → mid.connected →
      ∀ n task, mid.Runs target n task → mid.signalled n ∨
        saved ∧ target ≠ "" ∧ task.loop = mid.loop ∧ ¬ mid.forgotten n := by
  refine forall_congr' fun mid => forall_congr' fun target => forall_congr' fun saved => ?_
  refine forall_congr' fun takes => forall_congr' fun connected => ?_
  have sound : Registered mid := by
    refine takes.visits.invariant ?_ ⟨by simp, by simp, by simp⟩
    rintro a event _ sound rfl
    exact sound.step event
  refine forall_congr' fun n => forall_congr' fun task => forall_congr' fun runs => ?_
  exact cancel_signals_iff saved sound connected runs

/-- After a reconnect the new loop has an empty registry: the cancel reports that nothing is in
flight, and the task runs on. -/
theorem cancel_misses_earlier_loop :
    let t := [.connect, .request "op_1" "op_1" true, .exit, .connect].foldl Transport.step {}
    t.connected ∧ t.Runs "op_1" 0 ⟨1, "op_1", "op_1"⟩ ∧
      (t.step (.cancel "op_1" true)).signalled 0 = false :=
  ⟨rfl, ⟨rfl, rfl, rfl⟩, rfl⟩

/-! ## The active dispatches -/

namespace Transport

/-- The task is there and has not yet removed its correlation from the active dispatches. -/
def Dispatches (t : Transport) (correlationId : String) : Prop :=
  ∃ n task, t.tasks[n]? = some task ∧ task.correlationId = correlationId ∧ t.phase n ≠ .ended

/-- Every active dispatch has a task that will remove it. -/
def Guarded (t : Transport) : Prop := ∀ correlationId ∈ t.active, t.Dispatches correlationId

/-- The step guards a correlation that no task dispatches, and fails before it spawns one. -/
def Strands (t : Transport) : Event → Prop
  | .request correlationId _ saved =>
    t.Admits correlationId ∧ saved = false ∧ ¬ t.Dispatches correlationId
  | _ => False

/-- A task that is not spawned yet has not moved. -/
def Fresh (t : Transport) : Prop := ∀ n, t.tasks.length ≤ n → t.phase n = .running

theorem Fresh.update (fresh : Fresh t) {phase : Phase} (found : t.tasks[n]? = some task) :
    ∀ m, t.tasks.length ≤ m → Function.update t.phase n phase m = .running := by
  intro m late
  rw [update_of_ne, fresh m late]
  rintro rfl
  simp [late] at found

theorem Fresh.step (fresh : Fresh t) (event : Event) : Fresh (t.step event) := by
  have change := step_change t event
  generalize t.step event = u at change
  cases change with
  | quiet | cancelled => exact fresh
  | @dispatched c o saved =>
    cases saved with
    | false => exact fresh
    | true =>
      intro n late
      refine fresh n (le_trans ?_ late)
      simp [dispatch, absorbOrphanCompletions]
  | returned found | handed _ _ found | released found => exact fresh.update found

theorem dispatches_update {correlationId : String} {phase : Phase} (live : phase ≠ .ended)
    (has : t.Dispatches correlationId) :
    ∃ m other, t.tasks[m]? = some other ∧ other.correlationId = correlationId ∧
      Function.update t.phase n phase m ≠ .ended := by
  obtain ⟨m, other, found, named, unfinished⟩ := has
  refine ⟨m, other, found, named, ?_⟩
  by_cases same : m = n
  · simpa [same] using live
  · simpa [same] using unfinished

theorem guarded_step_iff (fresh : Fresh t) (guarded : Guarded t) :
    Guarded (t.step event) ↔ ¬ t.Strands event := by
  have change := step_change t event
  generalize t.step event = u at change
  cases change with
  | quiet _ _ _ _ _ unadmitted =>
    refine iff_of_true guarded ?_
    rintro strands
    cases event <;> first | exact strands | exact unadmitted _ _ _ rfl strands.1
  | cancelled => exact iff_of_true guarded id
  | returned | handed =>
    exact iff_of_true (fun c held => dispatches_update (by decide) (guarded c held)) id
  | @dispatched c o saved admits =>
    cases saved with
    | false =>
      constructor
      · rintro kept ⟨-, -, alone⟩
        exact alone (kept c (Finset.mem_insert_self ..))
      · intro unstranded other held
        rcases Finset.mem_insert.mp held with rfl | old
        · exact not_not.mp fun alone => unstranded ⟨admits, rfl, alone⟩
        · exact guarded other old
    | true =>
      refine iff_of_true (fun other held => ?_) (by simp [Strands])
      rcases Finset.mem_insert.mp held with rfl | old
      · refine ⟨t.tasks.length, _, getElem?_concat_length, rfl, ?_⟩
        simp [dispatch, register, signal, absorbOrphanCompletions, fresh _ le_rfl]
      · obtain ⟨n, task, found, rest⟩ := guarded other old
        have before := (List.getElem?_eq_some_iff.mp found).1
        exact ⟨n, task, (getElem?_append_left before).trans found, rest⟩
  | @released n task found =>
    refine iff_of_true (fun c held => ?_) id
    obtain ⟨others, old⟩ := Finset.mem_erase.mp held
    obtain ⟨m, other, foundOther, rfl, unfinished⟩ := guarded c old
    refine ⟨m, other, foundOther, rfl, ?_⟩
    have apart : m ≠ n := by
      rintro rfl
      exact others (congrArg Task.correlationId (Option.some.inj (foundOther.symm.trans found)))
    simpa [release, apart] using unfinished

end Transport

/-- **When the guard is released.**  Throughout a run every active dispatch has a task that will
remove it, exactly when no step guards a correlation that no task dispatches and then fails to
mark or to save it. -/
theorem guarded_iff (events : List Event) : (∀ mid, Run.Visits Step {} events mid → mid.Guarded) ↔
      ∀ mid event, Run.Takes Step {} events mid event → ¬ mid.Strands event := by
  refine throughout_iff ?_ guarded_step_iff (by simp [Fresh]) (by simp [Guarded]) events
  exact fun event fresh => fresh.step event

/-- The save fails after the correlation is guarded; on the next connection the redelivery is
passed over in silence. -/
theorem failed_save_strands :
    let t := [.connect, .request "op_1" "op_1" false, .connect].foldl Transport.step {}
    ¬ t.Guarded ∧ t.step (.request "op_1" "op_1" true) = t.step .turn := by
  refine ⟨fun guarded => ?_, rfl⟩
  obtain ⟨n, task, found, -⟩ := guarded "op_1" (by decide)
  cases (found : none = some task)

/-! ## The permits

A loop has a semaphore of its own, and a task keeps the permit of the loop that spawned it. -/

namespace Transport

/-- The tasks that the loops of other connections have left and that have not ended. -/
def leftOver (t : Transport) : Nat := t.unfinished (· ≠ t.loop)

/-- The dispatch tasks of the process that have not ended. -/
def dispatching (t : Transport) : Nat := t.unfinished fun _ => true

/-- The step spawns a task. -/
def Spawns (t : Transport) : Event → Prop
  | .request correlationId _ saved => t.Admits correlationId ∧ saved = true
  | _ => False

variable {loops : Nat → Bool}

theorem dispatching_eq : t.dispatching = t.inFlight + t.leftOver := by
  unfold dispatching inFlight leftOver unfinished
  generalize List.range t.tasks.length = indices
  induction indices with
  | nil => rfl
  | cons n rest ih =>
    simp only [countP_cons, ih]
    cases t.tasks[n]?.map Task.loop with
    | none => simp
    | some loop => by_cases same : loop = t.loop <;> simp [same] <;> omega

theorem unfinished_update {phase : Phase} (live : t.phase n ≠ .ended) :
    ({ t with phase := update t.phase n phase } : Transport).unfinished loops ≤
      t.unfinished loops := by
  refine countP_mono_left fun m _ unended => ?_
  by_cases same : m = n
  · simp_all
  · simpa [same] using unended

/-- A step that spawns no task leaves no more of them. -/
theorem unfinished_step (none : ¬ t.Spawns event) :
    (t.step event).unfinished loops ≤ t.unfinished loops := by
  cases event with
  | connect | receive | turn =>
    rw [step]
    split <;> exact le_rfl
  | exit => exact le_rfl
  | cancel =>
    rw [step, cancel]
    split_ifs <;> exact le_rfl
  | returned n | release n =>
    refine advance_cases (P := (·.unfinished loops ≤ _)) le_rfl fun task _ there => ?_
    exact unfinished_update (by simp [there])
  | send n =>
    refine advance_cases (P := (·.unfinished loops ≤ _)) le_rfl fun task _ there => ?_
    have live : t.phase n ≠ .ended := by simp [there]
    rw [send]
    split_ifs
    · exact unfinished_update live
    · exact le_rfl
    · exact unfinished_update live
  | request c o saved =>
    rw [step]
    split_ifs with connected admits
    · cases saved with
      | false => exact le_rfl
      | true => exact absurd ⟨admits, rfl⟩ none
    · exact le_rfl
    · exact le_rfl

/-- A step that spawns a task leaves one more of its loop. -/
theorem unfinished_spawn (fresh : Fresh t) (spawns : t.Spawns event) :
    (t.step event).unfinished loops = t.unfinished loops + (loops t.loop).toNat := by
  cases event with
  | request c o saved =>
    obtain ⟨admits, rfl⟩ := spawns
    have old : (List.range t.tasks.length).countP (fun n =>
        ((t.tasks ++ [⟨t.loop, c, o⟩])[n]?.map Task.loop).any loops && t.phase n ≠ .ended) =
          t.unfinished loops := by
      refine countP_congr fun n there => ?_
      rw [getElem?_append_left (mem_range.mp there)]
    rw [step, if_pos admits.1, if_pos admits]
    simp only [unfinished, dispatch, register, signal, absorbOrphanCompletions, if_true,
      length_append, length_singleton, range_succ, countP_append, old]
    cases own : loops t.loop <;> simp [fresh _ le_rfl, own]
  | _ => exact spawns.elim

/-- No loop has more unfinished tasks than its semaphore has permits. -/
def Permitted (t : Transport) : Prop :=
  ∀ loop, t.unfinished (· = loop) ≤ maxInFlightRemoteOps

theorem Spawns.permit (spawns : t.Spawns event) : t.inFlight < maxInFlightRemoteOps := by
  cases event with
  | request => exact spawns.1.2.1
  | _ => exact spawns.elim

theorem Permitted.step (fresh : Fresh t) (permitted : t.Permitted) (event : Event) :
    (t.step event).Permitted := by
  intro loop
  by_cases spawns : t.Spawns event
  · rw [unfinished_spawn fresh spawns]
    by_cases own : t.loop = loop
    · subst own
      simpa [inFlight] using spawns.permit
    · simpa [own] using permitted loop
  · exact (unfinished_step spawns).trans (permitted loop)

theorem dispatching_step_iff (fresh : Fresh t) (bounded : t.dispatching ≤ maxInFlightRemoteOps) :
    (t.step event).dispatching ≤ maxInFlightRemoteOps ↔
      (t.Spawns event → t.leftOver = 0 ∨ t.inFlight + t.leftOver < maxInFlightRemoteOps) := by
  by_cases spawns : t.Spawns event
  · have grows : (t.step event).dispatching = t.dispatching + 1 := unfinished_spawn fresh spawns
    -- with nothing left over the permit alone makes the room
    have permit := spawns.permit
    rw [grows, dispatching_eq, imp_iff_right spawns]
    omega
  · exact iff_of_true ((unfinished_step spawns).trans bounded) (absurd · spawns)

end Transport

/-- **How many dispatch tasks run at a time.**  No connection has more than
`MAX_IN_FLIGHT_REMOTE_OPS` unfinished tasks.  All connections together have no more, throughout a
run, exactly when each task that is spawned while tasks of earlier connections are unfinished
finds room beside them and those of its own. -/
theorem dispatching_bounded_iff (events : List Event) :
    (∀ mid, Run.Visits Step {} events mid → mid.Permitted) ∧
    ((∀ mid, Run.Visits Step {} events mid → mid.dispatching ≤ maxInFlightRemoteOps) ↔
      ∀ mid event, Run.Takes Step {} events mid event → mid.Spawns event →
        mid.leftOver = 0 ∨ mid.inFlight + mid.leftOver < maxInFlightRemoteOps) := by
  constructor
  · intro mid visits
    refine (visits.invariant (I := fun t => Fresh t ∧ t.Permitted) ?_ ⟨by simp [Fresh], ?_⟩).2
    · rintro t event _ ⟨fresh, permitted⟩ rfl
      exact ⟨fresh.step event, permitted.step fresh event⟩
    · exact fun loop => Nat.zero_le _
  · exact throughout_iff (fun event fresh => fresh.step event) dispatching_step_iff
      (by simp [Fresh]) (Nat.zero_le _) events

/-- A connection spawns all the tasks it has permits for and ends; the next one has as many. -/
theorem reconnect_exceeds_bound :
    let flood : List Event := (List.range 32).map fun n =>
      .request (String.ofList (replicate n 'a')) "op_1" true
    let events := .connect :: flood ++ [.exit, .connect, .request "b" "op_1" true]
    let t := events.foldl step {}
    maxInFlightRemoteOps < t.dispatching := by
  decide +kernel

/-! ## The replies -/

namespace Transport

/-- The task has given its reply away. -/
def Handed (t : Transport) (n : Nat) : Prop := t.phase n = .sent ∨ t.phase n = .ended

/-- The tasks whose replies are recorded, parked, or in the channel of the loop. -/
def replies (t : Transport) : List Nat :=
  (t.completedReplies ++ t.orphans ++ t.queue).map CompletedReply.task

def Accounted (t : Transport) : Prop := ∀ n, t.Handed n → n ∈ t.replies

/-- A step that ends the loop finds its channel empty, and one that parks a reply takes no other
out: there is room, and none of the same correlation. -/
def HandsOver (t : Transport) : Event → Prop
  | .exit => t.queue = []
  | .request correlationId _ saved => t.Admits correlationId → saved = false → t.queue = []
  | .cancel _ saved => t.connected → saved = false → t.queue = []
  | .send n => ∀ task, t.tasks[n]? = some task → t.phase n = .returned →
      ¬ (t.connected ∧ task.loop = t.loop) →
        (∀ row ∈ t.orphans, row.correlationId ≠ task.correlationId) ∧
          t.orphans.length < maxCompletedReplies
  | _ => True

/-- Each reply is in one place, and its task has given it away. -/
structure Placed (t : Transport) : Prop where
  nodup : t.replies.Nodup
  handed : ∀ n ∈ t.replies, t.Handed n

/-- The step keeps replies in their places, and loses none of them exactly when `kept` holds. -/
def Passes (t u : Transport) (kept : Prop) : Prop :=
  Placed t → Placed u ∧ (Accounted t → (Accounted u ↔ kept))

theorem passes_of_lost {kept : Prop} (lost : List Nat) (perm : (u.replies ++ lost).Perm t.replies)
    (handed : ∀ n, u.Handed n ↔ t.Handed n) (isKept : lost = [] ↔ kept) : Passes t u kept := by
  intro placed
  have nodup := perm.nodup_iff.mpr placed.nodup
  have all (n) (there : n ∈ u.replies ++ lost) : u.Handed n :=
    (handed n).mpr (placed.handed n (perm.subset there))
  refine ⟨⟨nodup.of_append_left, fun n there => all n (mem_append_left _ there)⟩, ?_⟩
  intro accounted
  rw [← isKept]
  constructor
  · intro still
    refine eq_nil_iff_forall_not_mem.mpr fun n isLost => ?_
    have there := still n (all n (mem_append_right _ isLost))
    exact disjoint_of_nodup_append nodup there isLost
  · rintro rfl n given
    exact (append_nil _ ▸ perm).symm.subset (accounted n ((handed n).mp given))

theorem passes_of_eq {kept : Prop} (same : u.replies = t.replies)
    (handed : ∀ n, u.Handed n ↔ t.Handed n) (isKept : kept) : Passes t u kept :=
  passes_of_lost [] (.of_eq ((append_nil _).trans same)) handed (iff_of_true rfl isKept)

theorem handed_update {phase : Phase} (unchanged : phase = .sent ∨ phase = .ended ↔ t.Handed n)
    (m : Nat) :
    (Function.update t.phase n phase m = .sent ∨ Function.update t.phase n phase m = .ended) ↔
      t.Handed m := by
  by_cases same : m = n
  · simpa [same] using unchanged
  · simp [same, Handed]

/-- A reply is given away and put in one of the places; then others are lost. -/
theorem passes_of_add {w : Transport} {kept : Prop} (unhanded : ¬ t.Handed n)
    (perm : w.replies.Perm (n :: t.replies)) (phase : w.phase = update t.phase n .sent)
    (passes : Passes w u kept) : Passes t u kept := by
  intro placed
  have handed (m) : w.Handed m ↔ m = n ∨ t.Handed m := by
    rw [Handed, phase]
    by_cases same : m = n
    · simp [same]
    · simp [same, Handed]
  have fresh : n ∉ t.replies := fun there => unhanded (placed.handed n there)
  obtain ⟨later, exactly⟩ := passes
    ⟨perm.nodup_iff.mpr (nodup_cons.mpr ⟨fresh, placed.nodup⟩), fun m there =>
      (handed m).mpr ((mem_cons.mp (perm.subset there)).imp_right (placed.handed m))⟩
  refine ⟨later, fun accounted => exactly fun m given => ?_⟩
  exact perm.symm.subset (mem_cons.mpr (((handed m).mp given).imp_right (accounted m)))

theorem parked_sublist (orphans : List CompletedReply) (completed : CompletedReply) :
    (parked orphans completed).Sublist (orphans ++ [completed]) := by
  refine List.Sublist.append ?_ (.refl _)
  split
  · exact (tail_sublist _).trans filter_sublist
  · exact filter_sublist

theorem parked_eq_iff (orphans : List CompletedReply) (completed : CompletedReply) :
    parked orphans completed = orphans ++ [completed] ↔
      (∀ row ∈ orphans, row.correlationId ≠ completed.correlationId) ∧
        orphans.length < maxCompletedReplies := by
  have others := length_filter_le (fun row : CompletedReply =>
    decide (row.correlationId ≠ completed.correlationId)) orphans
  have alone := filter_eq_self (l := orphans) (p := fun row =>
    decide (row.correlationId ≠ completed.correlationId))
  simp only [decide_eq_true_eq] at alone
  rw [parked, append_left_inj, ← alone]
  constructor
  · intro kept
    split_ifs at kept with full
    · have length := congrArg List.length kept
      simp only [length_tail] at length
      have : 0 < maxCompletedReplies := by decide
      omega
    · exact ⟨kept, by rw [← kept]; omega⟩
  · rintro ⟨same, room⟩
    rw [same, if_neg (by omega)]

theorem send_passes (found : t.tasks[n]? = some task) (there : t.phase n = .returned) :
    Passes t (t.send n task) (t.HandsOver (.send n)) := by
  let completed : CompletedReply := ⟨n, task.correlationId⟩
  let handed : Transport := { t with phase := update t.phase n .sent }
  have kept : t.HandsOver (.send n) ↔ ¬ (t.connected ∧ task.loop = t.loop) →
      parked t.orphans completed = t.orphans ++ [completed] := by
    simp [HandsOver, found, there, completed, parked_eq_iff]
  have unhanded : ¬ t.Handed n := by simp [Handed, there]
  rw [send]
  split_ifs with isLive room
  · refine passes_of_add (w := { handed with queue := t.queue ++ [completed] }) unhanded ?_ rfl
      (passes_of_eq rfl (fun _ => .rfl) (kept.mpr (absurd isLive)))
    refine perm_iff_count.mpr fun m => ?_
    simp only [replies, handed, completed, map_append, count_append, map_cons,
      map_nil, count_cons, count_nil]
    omega
  · exact passes_of_eq rfl (fun _ => .rfl) (kept.mpr (absurd isLive))
  · obtain ⟨lost, perm⟩ := (parked_sublist t.orphans completed).exists_perm_append
    refine passes_of_add (w := { handed with orphans := t.orphans ++ [completed] }) unhanded ?_ rfl
      (passes_of_lost (lost.map CompletedReply.task) ?_ (fun _ => .rfl) ?_)
    · refine perm_iff_count.mpr fun m => ?_
      simp only [replies, handed, completed, map_append, count_append, map_cons,
        map_nil, count_cons, count_nil]
      omega
    · refine perm_iff_count.mpr fun m => ?_
      have counted := (perm.map CompletedReply.task).count_eq m
      simp only [replies, handed, completed, rememberOrphanCompletion, map_append,
        count_append] at counted ⊢
      omega
    · rw [map_eq_nil_iff, kept, imp_iff_right isLive]
      have length := perm.length_eq
      constructor
      · rintro rfl
        refine (parked_sublist _ _).eq_of_length ?_
        simpa using length.symm
      · intro same
        simpa [same] using length

theorem step_passes (t : Transport) (event : Event) :
    Passes t (t.step event) (t.HandsOver event) := by
  have same (n : Nat) : t.Handed n ↔ t.Handed n := .rfl
  have absorbed : t.absorbOrphanCompletions.replies = t.replies := by
    simp [replies, absorbOrphanCompletions]
  have exited : t.absorbOrphanCompletions.exit.replies ++ t.queue.map CompletedReply.task =
      t.replies := by
    simp [replies, exit, absorbOrphanCompletions]
  cases event with
  | connect =>
    rw [step]
    split
    · exact passes_of_eq rfl same trivial
    · exact passes_of_eq absorbed same trivial
  | turn =>
    rw [step]
    split
    · exact passes_of_eq absorbed same trivial
    · exact passes_of_eq rfl same trivial
  | exit =>
    refine passes_of_lost (t.queue.map CompletedReply.task) (.of_eq ?_) same map_eq_nil_iff
    simp [replies, step, exit]
  | receive =>
    rw [step]
    split
    next => exact passes_of_eq rfl same trivial
    next finished rest isQueue =>
      refine passes_of_lost [] ?_ same (iff_of_true rfl trivial)
      simp only [replies, isQueue, append_nil, append_assoc]
      exact ((perm_append_comm_assoc [finished] t.orphans rest).append_left _).map _
  | request c o saved =>
    rw [step, dispatch]
    split_ifs with connected admits isSaved
    · exact passes_of_eq absorbed same (by simp [HandsOver, isSaved])
    · exact passes_of_lost _ (.of_eq exited) same (by simp [HandsOver, admits, isSaved])
    · exact passes_of_eq absorbed same (by simp [HandsOver, admits])
    · exact passes_of_eq rfl same (by simp [HandsOver, Admits, connected])
  | cancel target saved =>
    rw [step, cancel]
    split_ifs with connected isSaved
    · exact passes_of_eq absorbed same (by simp [HandsOver, isSaved])
    · exact passes_of_eq absorbed same (by simp [HandsOver, isSaved])
    · exact passes_of_lost _ (.of_eq exited) same (by simp [HandsOver, connected, isSaved])
    · exact passes_of_eq rfl same (by simp [HandsOver, connected])
  | returned n =>
    refine advance_cases (P := (Passes t · _)) (passes_of_eq rfl same trivial) fun _ _ there => ?_
    exact passes_of_eq rfl (handed_update (by simp [Handed, there])) trivial
  | send n =>
    rw [step, advance]
    split
    next task found =>
      split
      next there => exact send_passes found there
      next other => exact passes_of_eq rfl same (by simp [HandsOver, other])
    next missing => exact passes_of_eq rfl same (by simp [HandsOver, missing])
  | release n =>
    refine advance_cases (P := (Passes t · _)) (passes_of_eq rfl same trivial) fun _ _ there => ?_
    exact passes_of_eq rfl (handed_update (by simp [Handed, there])) trivial

end Transport

/-- **When no reply is lost.**  Throughout a run every reply that a task has given away is
recorded, parked, or in the channel of a loop that is there to receive it, exactly when every loop
that ends has received all and no reply is parked over another or beyond the bound. -/
theorem replies_accounted_iff (events : List Event) :
    (∀ mid, Run.Visits Step {} events mid → mid.Accounted) ↔
      ∀ mid event, Run.Takes Step {} events mid event → mid.HandsOver event := by
  refine throughout_iff (J := Placed) ?_ ?_ ⟨nodup_nil, by simp [replies]⟩
    (by simp [Accounted, Handed]) events
  · intro t event placed
    exact (step_passes t event placed).1
  · intro t event placed accounted
    exact (step_passes t event placed).2 accounted

/-- **No reply is kept twice.**  In every run each reply that is recorded, parked or in the channel
is that of another task, and that task has given it away. -/
theorem replies_placed (events : List Event) : Placed (events.foldl step {}) := by
  have start : Placed {} := ⟨nodup_nil, by simp [replies]⟩
  refine (Run.played step events {}).invariant ?_ start
  rintro t event _ placed rfl
  exact (step_passes t event placed).1

/-- The task hands its reply to the loop, which ends before it receives it: the reply is in none
of the places. -/
theorem queued_reply_lost :
    let t := [.connect, .request "op_1" "op_1" true, .returned 0, .send 0, .exit].foldl
      step {}
    t.Handed 0 ∧ t.replies = [] :=
  ⟨.inl rfl, rfl⟩

end OwnMesh.AgentTransport
