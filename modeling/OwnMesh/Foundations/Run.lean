import Mathlib

/-!
# Runs of a labelled transition system

`Run step s labels t` is a finite run from `s` to `t` whose steps carry the given
labels, in order.  The rules are the ways the developments above use a run: an invariant
carried to its end (`Run.invariant`), and a property that either lasts to the end or is
broken by one named step (`Run.lasts_or_breaks`).  For a property whose steps are
characterised, the runs that keep it throughout are too (`Run.throughout_iff`).
-/

namespace OwnMesh.Foundations

variable {σ ℓ : Type}

/-- A run from the first state to the last, with the labels of its steps. -/
inductive Run (step : σ → ℓ → σ → Prop) : σ → List ℓ → σ → Prop where
  | done (s : σ) : Run step s [] s
  | next {s t u : σ} {label : ℓ} {rest : List ℓ} (first : step s label t)
      (after : Run step t rest u) : Run step s (label :: rest) u

namespace Run

variable {step : σ → ℓ → σ → Prop} {s t u : σ} {labels more : List ℓ}

theorem append (first : Run step s labels t) (second : Run step t more u) :
    Run step s (labels ++ more) u := by
  induction first with
  | done => exact second
  | next head _ ih => exact .next head (ih second)

theorem split (run : Run step s (labels ++ more) u) :
    ∃ t, Run step s labels t ∧ Run step t more u := by
  induction labels generalizing s with
  | nil => exact ⟨s, .done s, run⟩
  | cons label rest ih =>
    cases run with
    | next head tail =>
      obtain ⟨t, before, after⟩ := ih tail
      exact ⟨t, .next head before, after⟩

/-- The step at a given label of a run, with the runs before and after it. -/
theorem split_at {label : ℓ} (run : Run step s (labels ++ label :: more) u) :
    ∃ a b, Run step s labels a ∧ step a label b ∧ Run step b more u := by
  obtain ⟨a, before, rest⟩ := run.split
  cases rest with
  | next head after => exact ⟨a, _, before, head, after⟩

variable {I : σ → Prop}

/-- What every step preserves holds at the end of a run. -/
theorem invariant (preserves : ∀ {a label b}, I a → step a label b → I b) (start : I s)
    (run : Run step s labels t) : I t := by
  induction run with
  | done => exact start
  | next head _ ih => exact ih (preserves start head)

/-- A property that each step either keeps or breaks lasts to the end of the run,
unless one of the steps is the one that breaks it. -/
theorem lasts_or_breaks {B : σ → ℓ → σ → Prop}
    (keeps : ∀ {a label b}, I a → step a label b → I b ∨ B a label b) (start : I s)
    (run : Run step s labels t) :
    I t ∨ ∃ before label after a b, labels = before ++ label :: after ∧
      Run step s before a ∧ step a label b ∧ B a label b ∧ Run step b after t := by
  induction run with
  | done => exact .inl start
  | @next s t u label rest head tail ih =>
    rcases keeps start head with kept | broken
    · rcases ih kept with last | ⟨before, l, after, a, b, split, found⟩
      · exact .inl last
      · obtain ⟨reached, taken, breaks, remaining⟩ := found
        refine .inr ⟨label :: before, l, after, a, b, ?_, .next head reached, taken, breaks,
          remaining⟩
        rw [split, List.cons_append]
    · exact .inr ⟨[], label, rest, s, t, rfl, .done s, head, broken, tail⟩

/-- The run comes through the state. -/
def Visits (step : σ → ℓ → σ → Prop) (s : σ) (labels : List ℓ) (mid : σ) : Prop :=
  ∃ before after, labels = before ++ after ∧ Run step s before mid

/-- The run takes a step with the label in the state. -/
def Takes (step : σ → ℓ → σ → Prop) (s : σ) (labels : List ℓ) (mid : σ) (label : ℓ) : Prop :=
  ∃ before after, labels = before ++ label :: after ∧ Run step s before mid

theorem Takes.visits {mid : σ} {label : ℓ} (takes : Takes step s labels mid label) :
    Visits step s labels mid := by
  obtain ⟨before, after, split, reached⟩ := takes
  exact ⟨before, label :: after, split, reached⟩

variable {C : σ → ℓ → Prop}

/-- What the steps that meet a condition preserve holds at the end of a run all of whose
steps meet it. -/
theorem invariant_where (preserves : ∀ {a label b}, I a → C a label → step a label b → I b)
    (start : I s) (run : Run step s labels t)
    (each : ∀ mid label, Takes step s labels mid label → C mid label) : I t := by
  induction run with
  | done => exact start
  | @next s u _ label rest head _ ih =>
    have first : C s label := each s label ⟨[], rest, rfl, .done s⟩
    refine ih (preserves start first head) ?_
    -- the steps of the tail are steps of the whole
    rintro m l ⟨before, after, rfl, reached⟩
    exact each m l ⟨label :: before, after, rfl, .next head reached⟩

/-- What every step preserves holds in every state the run comes through. -/
theorem Visits.invariant {mid : σ} (preserves : ∀ {a label b}, I a → step a label b → I b)
    (start : I s) (visits : Visits step s labels mid) : I mid := by
  obtain ⟨before, after, -, reached⟩ := visits
  exact reached.invariant preserves start

/-- The run of a system of total moves, played from a state. -/
theorem played (move : σ → ℓ → σ) (labels : List ℓ) (s : σ) :
    Run (fun a label b => b = move a label) s labels (labels.foldl move s) := by
  induction labels generalizing s with
  | nil => exact .done s
  | cons label rest ih => exact .next rfl (ih _)

/-- Where steps are determined by their labels, so are runs. -/
theorem deterministic (functional : ∀ a label b c, step a label b → step a label c → b = c)
    (left : Run step s labels t) (right : Run step s labels u) : t = u := by
  induction left with
  | done =>
    cases right
    rfl
  | next head _ ih =>
    cases right with
    | next other after =>
      obtain rfl := functional _ _ _ _ head other
      exact ih after

/-- What every step preserves while `I` holds is there at the end of a run throughout which
`I` holds. -/
theorem lasting {J : σ → Prop} (preserves : ∀ {a label b}, J a → I a → I b → step a label b → J b)
    (start : J s) (run : Run step s labels t)
    (throughout : ∀ mid, Visits step s labels mid → I mid) : J t := by
  induction run with
  | done => exact start
  | @next s u _ label rest head _ ih =>
    have first : I s := throughout s ⟨[], label :: rest, rfl, .done s⟩
    have second : I u := throughout u ⟨[label], rest, rfl, .next head (.done u)⟩
    refine ih (preserves start first second head) ?_
    rintro m ⟨before, after, rfl, reached⟩
    exact throughout m ⟨label :: before, after, rfl, .next head reached⟩

/-- In a deterministic system, if `C` says which steps keep `I`, then a run keeps `I`
throughout exactly when it starts in `I` and `C` holds of each of its steps.  `J` may be used
on the way and need only last as long as `I` does. -/
theorem throughout_iff_while {J : σ → Prop}
    (functional : ∀ a label b c, step a label b → step a label c → b = c)
    (preserves : ∀ {a label b}, J a → I a → I b → step a label b → J b)
    (exactly : ∀ {a label b}, J a → I a → step a label b → (I b ↔ C a label)) (start : J s)
    (run : Run step s labels t) : (∀ mid, Visits step s labels mid → I mid) ↔
      I s ∧ ∀ mid label, Takes step s labels mid label → C mid label := by
  constructor
  · intro throughout
    have first : I s := throughout s ⟨[], labels, rfl, .done s⟩
    refine ⟨first, ?_⟩
    rintro mid label ⟨before, after, rfl, reached⟩
    obtain ⟨a, b, again, taken, -⟩ := run.split_at
    obtain rfl := deterministic functional reached again
    have sound : J mid := by
      refine lasting preserves start reached ?_
      rintro m ⟨before', after', rfl, reached'⟩
      exact throughout m ⟨before', after' ++ label :: after, by simp, reached'⟩
    refine (exactly sound (throughout mid ⟨before, _, rfl, reached⟩) taken).mp ?_
    refine throughout b ⟨before ++ [label], after, by simp, ?_⟩
    exact reached.append (.next taken (.done b))
  · rintro ⟨holds, each⟩ mid ⟨before, after, rfl, reached⟩
    have both : J mid ∧ I mid := by
      refine invariant_where (I := fun a => J a ∧ I a) (C := C) ?_ ⟨start, holds⟩ reached ?_
      · rintro a label b ⟨sound, held⟩ allowed taken
        have kept : I b := (exactly sound held taken).mpr allowed
        exact ⟨preserves sound held kept taken, kept⟩
      · rintro m l ⟨before', after', rfl, reached'⟩
        exact each m l ⟨before', after' ++ after, by simp, reached'⟩
    exact both.2

/-- The case of an invariant that lasts by itself. -/
theorem throughout_iff {J : σ → Prop}
    (functional : ∀ a label b c, step a label b → step a label c → b = c)
    (preserves : ∀ {a label b}, J a → step a label b → J b)
    (exactly : ∀ {a label b}, J a → I a → step a label b → (I b ↔ C a label)) (start : J s)
    (run : Run step s labels t) : (∀ mid, Visits step s labels mid → I mid) ↔
      I s ∧ ∀ mid label, Takes step s labels mid label → C mid label :=
  throughout_iff_while functional (fun sound _ _ taken => preserves sound taken) exactly start run

end Run

end OwnMesh.Foundations
