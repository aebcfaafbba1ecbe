import Mathlib

/-!
# Fallible programs over a state

A handler of a long-running process reads and writes a state and may give up at
any point.  Giving up does not undo anything: whatever the program wrote before
it failed stays written.  `Program σ ε α` is that kind of computation, a function
from a state to an answer (a value or an error) together with the state it leaves
in either case.

Three kinds of rules are provided.  The `run_` lemmas run a program on a state.
`bind_ok_iff` and `bind_error_cases` take a run of a composed program apart.
`Moves R m` says that every run of `m`, failed or not, relates the state before
to the state after by `R`; for a reflexive and transitive `R` it is closed under
all the ways of composing programs (`Moves.bind`, `Moves.forEach`,
`Moves.attempt`), so a frame property of a long program is proved piece by piece.
-/

namespace OwnMesh.Foundations

/-- A program over the state `σ` answers with a value or an error and leaves a
state in either case. -/
structure Program (σ ε α : Type) : Type where
  run : σ → Except ε α × σ

/-- How replacing a file ends.  A failure may be reported before the new file is in place or,
when only its directory could not be synchronised, after. -/
inductive AtomicWrite where
  | written
  | unwritten (reason : String)
  | unsynced (reason : String)
deriving DecidableEq, Repr

namespace Program

variable {σ τ ε δ α β : Type}

/-! ## Primitive programs -/

/-- Run a first program and, if it answered, a second one on what it left. -/
def andThen (m : Program σ ε α) (next : α → Program σ ε β) : Program σ ε β where
  run s :=
    match m.run s with
    | (.ok a, s') => (next a).run s'
    | (.error e, s') => (.error e, s')

instance : Monad (Program σ ε) where
  pure a := ⟨fun s => (.ok a, s)⟩
  bind := andThen

/-- Give up with an error. -/
def fail (e : ε) : Program σ ε α where
  run s := (.error e, s)

/-- Read a part of the state. -/
def reads (f : σ → α) : Program σ ε α where
  run s := (.ok (f s), s)

/-- Update the state. -/
def modify (f : σ → σ) : Program σ ε Unit where
  run s := (.ok (), f s)

/-- Ask a part of the state that answers and moves on. -/
def query (f : σ → α × σ) : Program σ ε α where
  run s := (.ok (f s).1, (f s).2)

/-- Give up unless the condition holds. -/
def require (c : Prop) [Decidable c] (e : ε) : Program σ ε Unit :=
  if c then pure () else fail e

/-- Run a program only if the condition holds. -/
def whenever (c : Prop) [Decidable c] (m : Program σ ε Unit) : Program σ ε Unit :=
  if c then m else pure ()

/-- Replace a file; `place` puts the new one in its place. -/
def replaceFile (write : σ → AtomicWrite × σ) (place : σ → σ) (failure : String → ε) :
    Program σ ε Unit where
  run s :=
    match write s with
    | (.written, t) => (.ok (), place t)
    | (.unwritten reason, t) => (.error (failure reason), t)
    | (.unsynced reason, t) => (.error (failure reason), place t)

/-- Lift an answer computed outside the state. -/
def ofExcept (r : Except ε α) : Program σ ε α where
  run s := (r, s)

/-- Run a program and hand its answer, error or not, to the caller. -/
def attempt (m : Program σ ε α) : Program σ δ (Except ε α) where
  run s := (.ok (m.run s).1, (m.run s).2)

/-- Translate the errors of a program. -/
def mapError (f : ε → δ) (m : Program σ ε α) : Program σ δ α where
  run s := ((m.run s).1.mapError f, (m.run s).2)

/-- Translate the answers of a program. -/
def mapAnswer (f : α → β) (m : Program σ ε α) : Program σ ε β where
  run s := ((m.run s).1.map f, (m.run s).2)

/-- Run a program on the part of the state that `read` selects and `write` stores
back. -/
def zoom (read : σ → τ) (write : τ → σ → σ) (m : Program τ ε α) : Program σ ε α where
  run s := ((m.run (read s)).1, write (m.run (read s)).2 s)

/-- Run a program on every element of a list; the first error stops the loop. -/
def forEach (body : α → Program σ ε Unit) : List α → Program σ ε Unit
  | [] => pure ()
  | a :: rest => do
    body a
    forEach body rest

/-- Run a program on every element of a list and collect the answers; the first error
stops the loop. -/
def collect (body : α → Program σ ε β) : List α → Program σ ε (List β)
  | [] => pure []
  | a :: rest => do
    let b ← body a
    let bs ← collect body rest
    pure (b :: bs)

/-! ## Running programs -/

@[simp]
theorem run_pure (a : α) (s : σ) : (pure a : Program σ ε α).run s = (.ok a, s) := rfl

@[simp]
theorem run_fail (e : ε) (s : σ) : (fail e : Program σ ε α).run s = (.error e, s) := rfl

@[simp]
theorem run_reads (f : σ → α) (s : σ) : (reads f : Program σ ε α).run s = (.ok (f s), s) := rfl

@[simp]
theorem run_modify (f : σ → σ) (s : σ) : (modify f : Program σ ε Unit).run s = (.ok (), f s) := rfl

@[simp]
theorem run_query (f : σ → α × σ) (s : σ) :
    (query f : Program σ ε α).run s = (.ok (f s).1, (f s).2) := rfl

@[simp]
theorem run_ofExcept (r : Except ε α) (s : σ) : (ofExcept r : Program σ ε α).run s = (r, s) := rfl

@[simp]
theorem run_attempt (m : Program σ ε α) (s : σ) :
    (attempt m : Program σ δ (Except ε α)).run s = (.ok (m.run s).1, (m.run s).2) := rfl

@[simp]
theorem run_mapError (f : ε → δ) (m : Program σ ε α) (s : σ) :
    (mapError f m).run s = ((m.run s).1.mapError f, (m.run s).2) := rfl

@[simp]
theorem run_mapAnswer (f : α → β) (m : Program σ ε α) (s : σ) :
    (mapAnswer f m).run s = ((m.run s).1.map f, (m.run s).2) := rfl

@[simp]
theorem run_zoom (read : σ → τ) (write : τ → σ → σ) (m : Program τ ε α) (s : σ) :
    (zoom read write m).run s = ((m.run (read s)).1, write (m.run (read s)).2 s) := rfl

variable {c : Prop}

theorem run_require_of_holds [Decidable c] (holds : c) (e : ε) (s : σ) :
    (require c e : Program σ ε Unit).run s = (.ok (), s) := by
  simp only [require, if_pos holds, run_pure]

theorem run_require_of_not [Decidable c] (refused : ¬ c) (e : ε) (s : σ) :
    (require c e : Program σ ε Unit).run s = (.error e, s) := by
  simp only [require, if_neg refused, run_fail]

@[simp]
theorem pure_bind_eq (a : α) (next : α → Program σ ε β) : (pure a >>= next) = next a := rfl

/-! ### Composed programs

Where the first part always answers, a composition runs in one step. -/

@[simp]
theorem run_pure_bind (a : α) (next : α → Program σ ε β) (s : σ) :
    (pure a >>= next).run s = (next a).run s := rfl

@[simp]
theorem run_fail_bind (e : ε) (next : α → Program σ ε β) (s : σ) :
    (fail e >>= next).run s = (.error e, s) := rfl

@[simp]
theorem run_reads_bind (f : σ → α) (next : α → Program σ ε β) (s : σ) :
    (reads f >>= next).run s = (next (f s)).run s := rfl

@[simp]
theorem run_modify_bind (f : σ → σ) (next : Unit → Program σ ε β) (s : σ) :
    (modify f >>= next).run s = (next ()).run (f s) := rfl

@[simp]
theorem run_query_bind (f : σ → α × σ) (next : α → Program σ ε β) (s : σ) :
    (query f >>= next).run s = (next (f s).1).run (f s).2 := rfl

@[simp]
theorem run_attempt_bind (m : Program σ ε α) (next : Except ε α → Program σ δ β) (s : σ) :
    (attempt m >>= next).run s = (next (m.run s).1).run (m.run s).2 := rfl

variable {m : Program σ ε α} {next : α → Program σ ε β} {s : σ}

theorem run_bind_of_ok {s' : σ} {a : α}
    (ran : m.run s = (.ok a, s')) : (m >>= next).run s = (next a).run s' := by
  show (match m.run s with
    | (.ok a, s') => (next a).run s'
    | (.error e, s') => (.error e, s')) = _
  rw [ran]

variable {e : ε}

theorem run_bind_of_error {s' : σ}
    (ran : m.run s = (.error e, s')) : (m >>= next).run s = (.error e, s') := by
  show (match m.run s with
    | (.ok a, s') => (next a).run s'
    | (.error e, s') => (.error e, s')) = _
  rw [ran]

/-- Compositions may be read from either side. -/
theorem bind_bind {γ : Type} (m : Program σ ε α) (next : α → Program σ ε β)
    (last : β → Program σ ε γ) : (m >>= next) >>= last = m >>= fun a => next a >>= last := by
  have same : ∀ s, ((m >>= next) >>= last).run s = (m >>= fun a => next a >>= last).run s := by
    intro s
    rcases first : m.run s with ⟨e | a, t⟩
    · rw [run_bind_of_error first, run_bind_of_error (run_bind_of_error first)]
    · rw [run_bind_of_ok first]
      rcases second : (next a).run t with ⟨e | b, u⟩
      · rw [run_bind_of_error second, run_bind_of_error ((run_bind_of_ok first).trans second)]
      · rw [run_bind_of_ok second, run_bind_of_ok ((run_bind_of_ok first).trans second)]
  exact congrArg Program.mk (funext same)

variable {t : σ} {P : Except ε β × σ → Prop}

/-- A composed run that answers is a run of the first part that answers, followed
by a run of the second. -/
theorem bind_ok_iff {b : β} : (m >>= next).run s = (.ok b, t) ↔
      ∃ a s', m.run s = (.ok a, s') ∧ (next a).run s' = (.ok b, t) := by
  constructor
  · intro ran
    rcases first : m.run s with ⟨_ | a, s'⟩
    · rw [run_bind_of_error first] at ran
      cases ran
    · rw [run_bind_of_ok first] at ran
      exact ⟨a, s', rfl, ran⟩
  · rintro ⟨a, s', first, second⟩
    rw [run_bind_of_ok first, second]

/-- A composed run that fails fails in its first part or, that part having
answered, in its second. -/
theorem bind_error_cases (ran : (m >>= next).run s = (.error e, t)) :
    m.run s = (.error e, t) ∨ ∃ a s', m.run s = (.ok a, s') ∧ (next a).run s' = (.error e, t) := by
  rcases first : m.run s with ⟨_ | a, s'⟩
  · rw [run_bind_of_error first] at ran
    cases ran
    exact .inl rfl
  · rw [run_bind_of_ok first] at ran
    exact .inr ⟨a, s', rfl, ran⟩

/-- What holds of every way a composed run can end holds of its end. -/
theorem run_bind_cases (failed : ∀ e t, m.run s = (.error e, t) → P (.error e, t))
    (answered : ∀ a t, m.run s = (.ok a, t) → P ((next a).run t)) : P ((m >>= next).run s) := by
  rcases first : m.run s with ⟨e | a, t⟩
  · rw [run_bind_of_error first]
    exact failed e t first
  · rw [run_bind_of_ok first]
    exact answered a t first

/-- Programs that go on alike from every answer of a common first part run alike. -/
theorem run_bind_congr {f g : α → Program σ ε β}
    (alike : ∀ a t, m.run s = (.ok a, t) → (f a).run t = (g a).run t) :
    (m >>= f).run s = (m >>= g).run s := by
  rcases first : m.run s with ⟨e | a, t⟩
  · rw [run_bind_of_error first, run_bind_of_error first]
  · rw [run_bind_of_ok first, run_bind_of_ok first, alike a t first]

/-- A check ends in the state it was made in. -/
theorem run_require_bind_cases [Decidable c]
    {next : Unit → Program σ ε β} (refused : ¬ c → P (.error e, s))
    (passed : c → P ((next ()).run s)) : P ((require c e >>= next).run s) := by
  by_cases holds : c
  · rw [run_bind_of_ok (run_require_of_holds holds e s)]
    exact passed holds
  · rw [run_bind_of_error (run_require_of_not holds e s)]
    exact refused holds

variable {r : Except ε α}

/-- So does an answer computed outside the state. -/
theorem run_ofExcept_bind_cases (failed : ∀ e, r = .error e → P (.error e, s))
    (answered : ∀ a, r = .ok a → P ((next a).run s)) : P ((ofExcept r >>= next).run s) := by
  cases r with
  | error e => exact failed e rfl
  | ok a => exact answered a rfl

/-- The ways replacing a file ends. -/
theorem run_replaceFile_cases {write : σ → AtomicWrite × σ} {place : σ → σ}
    {failure : String → ε} {P : Except ε Unit × σ → Prop}
    (written : (write s).1 = .written → P (.ok (), place (write s).2))
    (unwritten : ∀ reason, (write s).1 = .unwritten reason →
      P (.error (failure reason), (write s).2))
    (unsynced : ∀ reason, (write s).1 = .unsynced reason →
      P (.error (failure reason), place (write s).2)) :
    P ((replaceFile write place failure).run s) := by
  rcases outcome : write s with ⟨_ | reason | reason, t⟩ <;>
    simp only [replaceFile, outcome, reduceCtorEq, false_implies, implies_true] at *
  · exact written trivial
  · exact unwritten reason rfl
  · exact unsynced reason rfl

theorem require_ok_iff [Decidable c] {u : Unit} :
    (require c e : Program σ ε Unit).run s = (.ok u, t) ↔ c ∧ s = t := by
  by_cases holds : c
  · rw [run_require_of_holds holds]
    simp [holds]
  · rw [run_require_of_not holds]
    simp [holds]

theorem ofExcept_bind_ok_iff {b : β} :
    (ofExcept r >>= next).run s = (.ok b, t) ↔ ∃ a, r = .ok a ∧ (next a).run s = (.ok b, t) := by
  rw [bind_ok_iff]
  constructor
  · rintro ⟨a, s', first, second⟩
    cases first
    exact ⟨a, rfl, second⟩
  · rintro ⟨a, rfl, second⟩
    exact ⟨a, s, rfl, second⟩

@[simp]
theorem forEach_nil (body : α → Program σ ε Unit) :
    forEach body [] = (pure () : Program σ ε Unit) := rfl

/-- A list of checks passes exactly when each of them does, and changes nothing. -/
theorem forEach_ofExcept_ok_iff {check : α → Except ε Unit} {list : List α} {u : Unit} :
    (forEach (fun a => (ofExcept (check a) : Program σ ε Unit)) list).run s = (.ok u, t) ↔
      (∀ a ∈ list, check a = .ok ()) ∧ s = t := by
  induction list with
  | nil => simp
  | cons a rest ih =>
    rw [forEach, ofExcept_bind_ok_iff]
    constructor
    · rintro ⟨⟨⟩, checked, passed⟩
      obtain ⟨others, same⟩ := ih.mp passed
      exact ⟨List.forall_mem_cons.mpr ⟨checked, others⟩, same⟩
    · rintro ⟨all, same⟩
      obtain ⟨checked, others⟩ := List.forall_mem_cons.mp all
      exact ⟨(), checked, ih.mpr ⟨others, same⟩⟩

/-! ## Relations between the state before and after -/

/-- Every run of the program, failed or not, moves the state along `R`. -/
def Moves (R : σ → σ → Prop) (m : Program σ ε α) : Prop := ∀ s, R s (m.run s).2

namespace Moves

variable {R : σ → σ → Prop} {body : α → Program σ ε Unit}

theorem mono {Q : σ → σ → Prop} (moves : Moves R m) (weaker : ∀ s t, R s t → Q s t) : Moves Q m :=
  fun s => weaker s _ (moves s)

theorem of_eq (moves : Moves R m) (ran : m.run s = (r, t)) : R s t := by
  have related := moves s
  rwa [ran] at related

theorem pure [Std.Refl R] {a : α} : Moves R (Pure.pure a : Program σ ε α) :=
  fun s => refl_of R s

theorem fail [Std.Refl R] {e : ε} : Moves R (Program.fail e : Program σ ε α) :=
  fun s => refl_of R s

theorem reads [Std.Refl R] {f : σ → α} : Moves R (Program.reads f : Program σ ε α) :=
  fun s => refl_of R s

theorem ofExcept [Std.Refl R] : Moves R (Program.ofExcept r : Program σ ε α) :=
  fun s => refl_of R s

theorem require [Std.Refl R] {c : Prop} [Decidable c] {e : ε} :
    Moves R (Program.require c e : Program σ ε Unit) := by
  by_cases holds : c
  · simp only [Program.require, if_pos holds]
    exact Moves.pure
  · simp only [Program.require, if_neg holds]
    exact Moves.fail

theorem whenever [Std.Refl R] [Decidable c] {m : Program σ ε Unit}
    (moves : c → Moves R m) : Moves R (Program.whenever c m) := by
  by_cases holds : c
  · simp only [Program.whenever, if_pos holds]
    exact moves holds
  · simp only [Program.whenever, if_neg holds]
    exact Moves.pure

theorem modify {f : σ → σ} (step : ∀ s, R s (f s)) :
    Moves R (Program.modify f : Program σ ε Unit) := step

theorem query {f : σ → α × σ} (step : ∀ s, R s (f s).2) :
    Moves R (Program.query f : Program σ ε α) := step

theorem attempt (moves : Moves R m) :
    Moves R (Program.attempt m : Program σ δ (Except ε α)) := moves

/-- In a composition the second part is only run on the answers of the first, in the
states the first leaves. -/
theorem bind_at [IsTrans σ R] (first : R s (m.run s).2)
    (second : ∀ a t, m.run s = (.ok a, t) → R t ((next a).run t).2) :
    R s ((m >>= next).run s).2 := by
  rcases ran : m.run s with ⟨_ | a, s'⟩
  · rw [run_bind_of_error ran]
    rwa [ran] at first
  · rw [run_bind_of_ok ran]
    rw [ran] at first
    exact trans_of R first (second a s' ran)

theorem bind_ok [IsTrans σ R] (first : Moves R m)
    (second : ∀ a s t, m.run s = (.ok a, t) → R t ((next a).run t).2) : Moves R (m >>= next) :=
  fun s => bind_at (first s) fun a t ran => second a s t ran

theorem bind [IsTrans σ R] (first : Moves R m)
    (second : ∀ a, Moves R (next a)) : Moves R (m >>= next) :=
  bind_ok first fun a _ s' _ => second a s'

theorem ite [Decidable c] {n : Program σ ε α} (yes : c → Moves R m)
    (no : ¬ c → Moves R n) : Moves R (if c then m else n) := by
  by_cases holds : c
  · rw [if_pos holds]
    exact yes holds
  · rw [if_neg holds]
    exact no holds

/-- A loop moves the state along `R` when the round of each of its elements does. -/
theorem forEach_mem [Std.Refl R] [IsTrans σ R] {list : List α}
    (round : ∀ a ∈ list, Moves R (body a)) : Moves R (Program.forEach body list) := by
  induction list with
  | nil => exact Moves.pure
  | cons a rest ih =>
    exact Moves.bind (round a List.mem_cons_self) fun _ =>
      ih fun b member => round b (List.mem_cons_of_mem a member)

theorem forEach [Std.Refl R] [IsTrans σ R]
    (round : ∀ a, Moves R (body a)) (list : List α) : Moves R (Program.forEach body list) :=
  forEach_mem fun a _ => round a

theorem collect [Std.Refl R] [IsTrans σ R] {body : α → Program σ ε β}
    (round : ∀ a, Moves R (body a)) (list : List α) : Moves R (Program.collect body list) := by
  induction list with
  | nil => exact Moves.pure
  | cons a rest ih =>
    exact Moves.bind (round a) fun _ => Moves.bind ih fun _ => Moves.pure

end Moves

/-! ## Properties that stay -/

/-- A property of the first state is one of the second. -/
def Preserves (I : σ → Prop) (s t : σ) : Prop := I s → I t

instance (I : σ → Prop) : Std.Refl (Preserves I) := ⟨fun _ => id⟩

instance (I : σ → Prop) : IsTrans σ (Preserves I) :=
  ⟨fun _ _ _ first second => second ∘ first⟩

/-- What a program does along a transitive relation can be added to what was done. -/
theorem Moves.continues {R : σ → σ → Prop} [IsTrans σ R] (moves : Moves R m)
    (start : σ) : Moves (Preserves (R start)) m :=
  fun s related => trans_of R related (moves s)

/-! ## Parts of the state that stay -/

/-- A part of the state is as it was. -/
def Keeps (part : σ → α) (s t : σ) : Prop := part t = part s

instance (part : σ → α) : Std.Refl (Keeps part) := ⟨fun _ => rfl⟩

instance (part : σ → α) : IsTrans σ (Keeps part) :=
  ⟨fun _ _ _ first second => Eq.trans second first⟩

theorem run_bind_pure (m : Program σ ε α) (b : β) (s : σ) :
    ((m >>= fun _ => pure b).run s).2 = (m.run s).2 := by
  rcases ran : m.run s with ⟨_ | a, s'⟩
  · rw [run_bind_of_error ran]
  · rw [run_bind_of_ok ran, run_pure]

/-- A part that the second of two programs keeps is, after both, what the first left. -/
theorem part_after_bind {γ : Type} {part : σ → γ} (keeps : ∀ a, Moves (Keeps part) (next a))
    (s : σ) : part ((m >>= next).run s).2 = part (m.run s).2 := by
  rcases ran : m.run s with ⟨_ | a, s'⟩
  · rw [run_bind_of_error ran]
  · rw [run_bind_of_ok ran]
    exact keeps a s'

/-! ## When a program answers -/

/-- A program answers exactly when `C` holds, and then as `Q` states. -/
inductive Answers (C : Prop) (Q : α → σ → Prop) : Except ε α × σ → Prop where
  | ok {a : α} {t : σ} (holds : C) (stated : Q a t) : Answers C Q (.ok a, t)
  | error {e : ε} {t : σ} (refused : ¬ C) : Answers C Q (.error e, t)

/-- A program that never answers. -/
def Fails (m : Program σ ε α) : Prop := ∀ s, ∃ e t, m.run s = (.error e, t)

theorem Fails.fail {e : ε} : Fails (fail e : Program σ ε α) := fun s => ⟨e, s, rfl⟩

theorem Fails.bind {m : Program σ ε α} {next : α → Program σ ε β} (fails : ∀ a, Fails (next a)) :
    Fails (m >>= next) := by
  intro s
  rcases ran : m.run s with ⟨e | a, t⟩
  · exact ⟨e, t, run_bind_of_error ran⟩
  · rw [run_bind_of_ok ran]
    exact fails a t

section Answers

variable {m : Program σ ε α} {next : α → Program σ ε β} {s : σ} {C D : Prop}
  {Q : α → σ → Prop} {P : β → σ → Prop}

theorem Fails.answers (fails : Fails m) (refused : ¬ C) : Answers C Q (m.run s) := by
  obtain ⟨e, t, ran⟩ := fails s
  rw [ran]
  exact .error refused

theorem Answers.congr {r : Except ε α × σ} (answers : Answers C Q r) (same : C ↔ D) :
    Answers D Q r := by
  rwa [← propext same]

theorem Answers.bind (first : Answers C Q (m.run s))
    (second : ∀ a t, Q a t → Answers D P ((next a).run t)) :
    Answers (C ∧ D) P ((m >>= next).run s) := by
  rcases ran : m.run s with ⟨e | a, t⟩ <;> rw [ran] at first
  · rw [run_bind_of_error ran]
    cases first with
    | error refused => exact .error fun both => refused both.1
  · rw [run_bind_of_ok ran]
    cases first with
    | ok holds stated => exact (second a t stated).congr (and_iff_right holds).symm

/-- A failure that is caught ends in another. -/
theorem Answers.attempt_bind {then_ : Except ε α → Program σ ε β} (first : Answers C Q (m.run s))
    (fails : ∀ e, Fails (then_ (.error e)))
    (second : ∀ a t, Q a t → Answers D P ((then_ (.ok a)).run t)) :
    Answers (C ∧ D) P ((attempt m >>= then_).run s) := by
  rw [run_attempt_bind]
  generalize m.run s = r at first ⊢
  cases first with
  | error refused => exact (fails _).answers fun both => refused both.1
  | ok holds stated => exact (second _ _ stated).congr (and_iff_right holds).symm

theorem Answers.ok_iff {r : Except ε α × σ} (answers : Answers C Q r) :
    (∃ a t, r = (.ok a, t)) ↔ C := by
  cases answers with
  | ok holds => exact iff_of_true ⟨_, _, rfl⟩ holds
  | error refused => exact iff_of_false (by rintro ⟨_, _, ⟨⟩⟩) refused

theorem answers_require [Decidable C] (e : ε) (s : σ) :
    Answers C (fun _ t => t = s) ((require C e : Program σ ε Unit).run s) := by
  by_cases holds : C
  · rw [run_require_of_holds holds]
    exact .ok holds rfl
  · rw [run_require_of_not holds]
    exact .error holds

end Answers

end Program

/-! ## Ordered checks

A validator tests conditions in a fixed order and reports the first that fails.  It
is kept as the list of its conditions with their errors, so that what it accepts is
the conjunction of the conditions (`runChecks_ok_iff`) and what it reports is read
off the order.
-/

/-- Run checks in order; the first that fails gives the error. -/
def runChecks {ε : Type} : List (Bool × ε) → Except ε Unit
  | [] => .ok ()
  | (true, _) :: rest => runChecks rest
  | (false, e) :: _ => .error e

/-- A list of checks accepts exactly when each of them holds. -/
theorem runChecks_ok_iff {ε : Type} {checks : List (Bool × ε)} :
    runChecks checks = .ok () ↔ ∀ check ∈ checks, check.1 = true := by
  induction checks with
  | nil => simp [runChecks]
  | cons check rest ih =>
    obtain ⟨_ | _, e⟩ := check
    · simp [runChecks]
    · simp [runChecks, ih]

end OwnMesh.Foundations
