import OwnMesh.Foundations.Run

/-!
# Routines that call a service

A routine works by calls to a service it does not own: it asks, waits for the answer, and goes
on with what the answer makes of it.  Between a call and the next one, others may call the same
service.  `Routine Answer α` is such a computation as a tree: a node asks, its children are the
answers.

What a routine has asked and been answered is its trace.  `Meets P Q` says that, whatever the
answers, every call satisfies `P` of the trace before it and every result satisfies `Q` of the
whole trace; `meets_bind` computes it through composition.  Several routines over one service
take turns (`Routines`), and `Meet.run` says that what a routine meets alone it meets in
every such run, because `Meets` holds of all answers.
-/

namespace OwnMesh.Foundations

/-- A computation that calls a service. -/
inductive Routine {C : Type} (Answer : C → Type) (α : Type) : Type where
  | done (a : α)
  | ask (call : C) (resume : Answer call → Routine Answer α)

/-- Calls with their answers, first to last. -/
abbrev Trace {C : Type} (Answer : C → Type) : Type := List (Σ call, Answer call)

namespace Routine

variable {C : Type} {Answer : C → Type} {α β : Type}

/-- Go on with the result of a routine. -/
def andThen : Routine Answer α → (α → Routine Answer β) → Routine Answer β
  | done a, next => next a
  | ask call resume, next => ask call fun answer => (resume answer).andThen next

instance : Monad (Routine Answer) where
  pure := done
  bind := andThen

/-- One call. -/
def call (c : C) : Routine Answer (Answer c) := ask c done

@[simp] theorem pure_eq (a : α) : (pure a : Routine Answer α) = done a := rfl

@[simp] theorem done_bind (a : α) (next : α → Routine Answer β) : (done a >>= next) = next a :=
  rfl

@[simp] theorem ask_bind (c : C) (resume : Answer c → Routine Answer α)
    (next : α → Routine Answer β) :
    (ask c resume >>= next) = ask c fun answer => resume answer >>= next :=
  rfl

@[simp] theorem call_bind (c : C) (next : Answer c → Routine Answer β) :
    (call c >>= next) = ask c next :=
  rfl

/-! ## What a routine meets -/

variable {m : Routine Answer α}

section Meets

variable {P P' : Trace Answer → C → Prop} {Q Q' : Trace Answer → α → Prop}

/-- After the trace, every call of the routine satisfies `P` and every result `Q`. -/
def Meets (P : Trace Answer → C → Prop) (Q : Trace Answer → α → Prop) :
    Routine Answer α → Trace Answer → Prop
  | done a, trace => Q trace a
  | ask c resume, trace => P trace c ∧ ∀ answer, (resume answer).Meets P Q (trace ++ [⟨c, answer⟩])

@[simp] theorem meets_done {a : α} {trace : Trace Answer} :
    (done a : Routine Answer α).Meets P Q trace ↔ Q trace a :=
  Iff.rfl

@[simp] theorem meets_ask {c : C} {resume : Answer c → Routine Answer α} {trace : Trace Answer} :
    (ask c resume).Meets P Q trace ↔
      P trace c ∧ ∀ answer, (resume answer).Meets P Q (trace ++ [⟨c, answer⟩]) :=
  Iff.rfl

variable {trace : Trace Answer} {next : α → Routine Answer β}

variable {R : Trace Answer → β → Prop}

theorem meets_bind : (m >>= next).Meets P R trace ↔
      m.Meets P (fun trace a => (next a).Meets P R trace) trace := by
  induction m generalizing trace with
  | done => exact Iff.rfl
  | ask c resume ih =>
    exact and_congr_right fun _ => forall_congr' fun answer => ih answer

/-- What is met may be weakened. -/
theorem Meets.mono (meets : m.Meets P Q trace) (calls : ∀ trace c, P trace c → P' trace c)
    (results : ∀ trace a, Q trace a → Q' trace a) : m.Meets P' Q' trace := by
  induction m generalizing trace with
  | done a => exact results trace a meets
  | ask c resume ih => exact ⟨calls trace c meets.1, fun answer => ih answer (meets.2 answer)⟩

/-- What holds of every call and every result is met. -/
theorem meets_of_forall (calls : ∀ trace c, P trace c)
    (results : ∀ trace a, Q trace a) : m.Meets P Q trace := by
  induction m generalizing trace with
  | done a => exact results trace a
  | ask c resume ih => exact ⟨calls trace c, fun answer => ih answer⟩

/-- What is met twice is met together. -/
theorem Meets.and (meets : m.Meets P Q trace) (also : m.Meets P' Q' trace) :
    m.Meets (fun trace c => P trace c ∧ P' trace c) (fun trace a => Q trace a ∧ Q' trace a)
      trace := by
  induction m generalizing trace with
  | done => exact ⟨meets, also⟩
  | ask c resume ih =>
    exact ⟨⟨meets.1, also.1⟩, fun answer => ih answer (meets.2 answer) (also.2 answer)⟩

/-- The trace that a call is made after begins with the one the routine was started after. -/
theorem Meets.extending (meets : m.Meets P Q trace) :
    m.Meets (fun later c => (∃ more, later = trace ++ more) ∧ P later c) Q trace := by
  induction m generalizing trace with
  | done => exact meets
  | ask c resume ih =>
    refine ⟨⟨⟨[], (List.append_nil trace).symm⟩, meets.1⟩, fun answer => ?_⟩
    refine (ih answer (meets.2 answer)).mono ?_ fun _ _ held => held
    rintro later call ⟨⟨more, rfl⟩, held⟩
    exact ⟨⟨⟨c, answer⟩ :: more, by simp⟩, held⟩

/-- A routine, then what its result leads to. -/
theorem Meets.bind
    (meets : m.Meets P Q trace) (goesOn : ∀ trace a, Q trace a → (next a).Meets P R trace) :
    (m >>= next).Meets P R trace :=
  meets_bind.mpr (meets.mono (fun _ _ held => held) goesOn)

end Meets

/-! ## Routines that make only certain calls -/

section Only

variable {p q : C → Prop}

/-- Every call of the routine satisfies `p`, whatever the answers. -/
def Only (p : C → Prop) : Routine Answer α → Prop
  | done _ => True
  | ask c resume => p c ∧ ∀ answer, (resume answer).Only p

@[simp] theorem only_done (a : α) : (done a : Routine Answer α).Only p := trivial

@[simp] theorem only_ask {c : C} {resume : Answer c → Routine Answer α} :
    (ask c resume).Only p ↔ p c ∧ ∀ answer, (resume answer).Only p :=
  Iff.rfl

theorem Only.bind {next : α → Routine Answer β} (first : m.Only p)
    (rest : ∀ a, (next a).Only p) : (m >>= next).Only p := by
  induction m with
  | done a => exact rest a
  | ask c resume ih => exact ⟨first.1, fun answer => ih answer (first.2 answer)⟩

theorem Only.mono (only : m.Only p) (weaker : ∀ c, p c → q c) : m.Only q := by
  induction m with
  | done => trivial
  | ask c resume ih => exact ⟨weaker c only.1, fun answer => ih answer (only.2 answer)⟩

/-- What is met by such a routine: its calls satisfy `p`, and so do those of its trace. -/
theorem Only.meets (only : m.Only p) {P : Trace Answer → C → Prop}
    (calls : ∀ trace c, p c → P trace c) (trace : Trace Answer) :
    m.Meets P (fun later _ => ∃ more, later = trace ++ more ∧ ∀ entry ∈ more, p entry.1)
      trace := by
  induction m generalizing trace with
  | done => exact ⟨[], by simp, by simp⟩
  | ask c resume ih =>
    refine ⟨calls trace c only.1, fun answer => ?_⟩
    refine (ih answer (only.2 answer) _).mono (fun _ _ held => held) ?_
    rintro later _ ⟨more, rfl, each⟩
    refine ⟨⟨c, answer⟩ :: more, by simp, ?_⟩
    rintro entry (_ | ⟨_, mem⟩)
    · exact only.1
    · exact each entry mem

end Only

end Routine

/-! ## Routines that take turns -/

/-- A service as its own state sees it: the answer to a call, and the state after it. -/
abbrev Service {C : Type} (Answer : C → Type) (σ : Type) : Type :=
  (call : C) → σ → Answer call × σ

/-- Several routines over one store. -/
structure Routines {C : Type} (Answer : C → Type) (α σ ι : Type) where
  store : σ
  routine : ι → Routine Answer α
  trace : ι → Trace Answer

inductive Turn (σ ι : Type) where
  /-- The call that a routine waits for is answered. -/
  | resume (i : ι)
  /-- Somebody else changes the store. -/
  | other (store : σ)

namespace Routines

variable {C : Type} {Answer : C → Type} {α σ ι : Type} [DecidableEq ι]

/-- The call of a routine is answered. -/
def resume (serve : Service Answer σ) (s : Routines Answer α σ ι) (i : ι) : Routines Answer α σ ι :=
  match s.routine i with
  | .done _ => s
  | .ask c next =>
    let served := serve c s.store
    { store := served.2
      routine := Function.update s.routine i (next served.1)
      trace := Function.update s.trace i (s.trace i ++ [⟨c, served.1⟩]) }

def after (serve : Service Answer σ) (s : Routines Answer α σ ι) : Turn σ ι → Routines Answer α σ ι
  | .resume i => s.resume serve i
  | .other store => { s with store := store }

/-- A turn; what others may do to the store is given by `rely`. -/
inductive Step (serve : Service Answer σ) (rely : σ → σ → Prop) :
    Routines Answer α σ ι → Turn σ ι → Routines Answer α σ ι → Prop where
  | take {s : Routines Answer α σ ι} {turn : Turn σ ι}
      (allowed : ∀ store, turn = .other store → rely s.store store) :
      Step serve rely s turn (s.after serve turn)

variable {serve : Service Answer σ} {rely : σ → σ → Prop} {s t : Routines Answer α σ ι}
  {turns : List (Turn σ ι)} {turn : Turn σ ι} {P : ι → Trace Answer → C → Prop}
  {Q : ι → Trace Answer → α → Prop}

/-- The turns of a routine that asks. -/
theorem resume_ask {i : ι} {c : C} {next : Answer c → Routine Answer α}
    (asks : s.routine i = .ask c next) : s.resume serve i =
      { store := (serve c s.store).2
        routine := Function.update s.routine i (next (serve c s.store).1)
        trace := Function.update s.trace i (s.trace i ++ [⟨c, (serve c s.store).1⟩]) } := by
  rw [resume, asks]

theorem resume_done {i : ι} {a : α} (finished : s.routine i = .done a) : s.resume serve i = s := by
  rw [resume, finished]

theorem Step.functional {u : Routines Answer α σ ι} (left : Step serve rely s turn t)
    (right : Step serve rely s turn u) : t = u := by
  obtain ⟨-⟩ := left
  obtain ⟨-⟩ := right
  rfl

/-- A routine may take its turn. -/
theorem turn_taken (i : ι) (s : Routines Answer α σ ι) :
    Step serve rely s (.resume i) (s.resume serve i) := by
  have taken : Step serve rely s (.resume i) (s.after serve (.resume i)) := by
    refine ⟨?_⟩
    intro store isOther
    cases isOther
  exact taken

/-- Turns that others may take, played from a state. -/
theorem run_played (allowed : ∀ a b, rely a b) (turns : List (Turn σ ι))
    (s : Routines Answer α σ ι) : Run (Step serve rely) s turns (turns.foldl (after serve) s) := by
  induction turns generalizing s with
  | nil => exact .done s
  | cons turn rest ih => exact .next ⟨fun store _ => allowed s.store store⟩ (ih _)

/-- What each routine has yet to meet. -/
def Meet (P : ι → Trace Answer → C → Prop) (Q : ι → Trace Answer → α → Prop)
    (s : Routines Answer α σ ι) : Prop :=
  ∀ i, (s.routine i).Meets (P i) (Q i) (s.trace i)

/-- A turn leaves every routine with what it has yet to meet. -/
theorem Meet.step (meet : Meet P Q s) (step : Step serve rely s turn t) : Meet P Q t := by
  obtain ⟨-⟩ := step
  cases turn with
  | other => exact meet
  | resume i =>
    show Meet P Q (s.resume serve i)
    cases shape : s.routine i with
    | done => rwa [resume_done shape]
    | ask =>
      rw [resume_ask shape]
      intro j
      by_cases own : j = i
      · subst own
        have mine := meet j
        rw [shape] at mine
        simpa using mine.2 _
      · simpa [Function.update_of_ne own] using meet j

/-- What a routine meets alone, it meets in every run. -/
theorem Meet.run (meet : Meet P Q s) (run : Run (Step serve rely) s turns t) : Meet P Q t :=
  run.invariant (fun held step => held.step step) meet

/-- The same for one routine among others of any kind. -/
theorem Meet.run_of {P : Trace Answer → C → Prop} {Q : Trace Answer → α → Prop} (i : ι)
    (meets : (s.routine i).Meets P Q (s.trace i)) (run : Run (Step serve rely) s turns t) :
    (t.routine i).Meets P Q (t.trace i) := by
  have each : Meet (fun j trace c => j = i → P trace c) (fun j trace a => j = i → Q trace a) s := by
    intro j
    by_cases own : j = i
    · subst own
      exact meets.mono (fun _ _ held _ => held) (fun _ _ held _ => held)
    · exact Routine.meets_of_forall (fun _ _ same => absurd same own)
        fun _ _ same => absurd same own
  exact (each.run run i).mono (fun _ _ held => held rfl) (fun _ _ held => held rfl)

/-- A trace only grows. -/
theorem Step.trace_grows (step : Step serve rely s turn t) (i : ι) : s.trace i <+: t.trace i := by
  obtain ⟨-⟩ := step
  cases turn with
  | other => exact List.prefix_rfl
  | resume j =>
    show s.trace i <+: (s.resume serve j).trace i
    cases shape : s.routine j with
    | done => simp [resume_done shape]
    | ask =>
      rw [resume_ask shape]
      by_cases own : i = j
      · subst own
        simp
      · simp [Function.update_of_ne own]

theorem trace_grows (run : Run (Step serve rely) s turns t) (i : ι) : s.trace i <+: t.trace i := by
  induction run with
  | done => exact List.prefix_rfl
  | next head _ ih => exact (head.trace_grows i).trans ih

/-- A turn of a routine splits the run. -/
theorem split_at_takes {mid : Routines Answer α σ ι} {i : ι}
    (run : Run (Step serve rely) s turns t)
    (takes : Run.Takes (Step serve rely) s turns mid (.resume i)) :
    (∃ before, Run (Step serve rely) s before mid) ∧
      ∃ after, Run (Step serve rely) (mid.resume serve i) after t := by
  obtain ⟨before, later, rfl, reached⟩ := takes
  obtain ⟨a, b, again, taken, rest⟩ := run.split_at
  obtain rfl : mid = a := by
    refine Run.deterministic ?_ reached again
    intro _ _ _ _ left right
    exact left.functional right
  obtain ⟨-⟩ := taken
  exact ⟨⟨before, reached⟩, later, rest⟩

/-- A call that a routine makes during a run stands in its trace. -/
theorem mem_trace_of_takes {mid : Routines Answer α σ ι} {i : ι} {c : C}
    {next : Answer c → Routine Answer α} (run : Run (Step serve rely) s turns t)
    (takes : Run.Takes (Step serve rely) s turns mid (.resume i))
    (asks : mid.routine i = .ask c next) : ⟨c, (serve c mid.store).1⟩ ∈ t.trace i := by
  obtain ⟨-, after, rest⟩ := split_at_takes run takes
  refine (trace_grows rest i).subset ?_
  rw [resume_ask asks]
  simp

/-- What stands in a trace after a run was there before, or is a call made during the run. -/
theorem takes_of_mem_trace {i : ι} {c : C} {answer : Answer c}
    (run : Run (Step serve rely) s turns t) (mem : ⟨c, answer⟩ ∈ t.trace i) :
    ⟨c, answer⟩ ∈ s.trace i ∨ ∃ mid next, Run.Takes (Step serve rely) s turns mid (.resume i) ∧
      mid.routine i = .ask c next ∧ answer = (serve c mid.store).1 := by
  induction run with
  | done => exact .inl mem
  | @next s _ _ turn _ head rest ih =>
    rcases ih mem with before | ⟨mid, next, ⟨earlier, later, split, reached⟩, made⟩
    case inr =>
      subst split
      exact .inr ⟨mid, next, ⟨turn :: earlier, later, rfl, .next head reached⟩, made⟩
    obtain ⟨-⟩ := head
    cases turn with
    | other => exact .inl before
    | resume j =>
      replace before : ⟨c, answer⟩ ∈ (s.resume serve j).trace i := before
      cases shape : s.routine j with
      | done => exact .inl (by rwa [resume_done shape] at before)
      | ask c' next =>
        rw [resume_ask shape] at before
        dsimp only at before
        by_cases own : i = j
        · subst own
          rw [Function.update_self, List.mem_append, List.mem_singleton] at before
          refine before.imp_right fun last => ?_
          cases last
          exact ⟨s, next, ⟨[], _, rfl, .done s⟩, shape, rfl⟩
        · exact .inl (by rwa [Function.update_of_ne own] at before)

end Routines

end OwnMesh.Foundations
