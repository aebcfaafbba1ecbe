import OwnMesh.Supervisor.SpoolWindow

/-!
# Output between the ring of a host and its spool

A drain takes the oldest bytes out of the ring of a host and then appends them to the spool of
the stream.  The ledger of a stream keeps the ring and the bytes that drains have taken out of
it; the spool accounts for these as long as it is the window of exactly them.  A drain that
takes bytes and fails before the longer spool is in place loses them (`unwritten_output_lost`);
nothing else does, also not a failure after that (`drained_output_kept_iff`).
-/

namespace OwnMesh.Supervisor

open Foundations Program List SupervisorState

variable {ω : Type} {env : Environment ω} {id : String} {stderr : Bool} {spool : Spool}
  {bytes stream : List UInt8} {s t : SupervisorState ω} {binding : SupervisorBinding}

/-! ## One drain -/

/-- The first half of a drain. -/
def takeOutput (env : Environment ω) (binding : SupervisorBinding) (maxBytes : Nat)
    (stderr : Bool) : SupervisorM ω (Hosted × List UInt8 × Bool) := do
  let hosted ← controlled env binding
  let drained ← drainChild env hosted binding.sessionId stderr maxBytes
  pure (hosted, drained)

/-- The bytes a drain takes out of the ring. -/
def takenBytes (env : Environment ω) (binding : SupervisorBinding) (maxBytes : Nat)
    (stderr : Bool) (s : SupervisorState ω) : List UInt8 :=
  match ((takeOutput env binding maxBytes stderr).run s).1 with
  | .ok (_, bytes, _) => bytes
  | .error _ => []

/-- If a drain takes bytes out of the ring, the stream has a spool, and the spool with these
bytes is put in place: they are within the budget, the spool can be read and its offset does
not overflow, and the write does not fail before the file is replaced. -/
def AppendsTaken (env : Environment ω) (binding : SupervisorBinding) (maxBytes : Nat)
    (stderr : Bool) (s : SupervisorState ω) : Prop :=
  match (takeOutput env binding maxBytes stderr).run s with
  | (.ok (hosted, bytes, _), t) => bytes ≠ [] → ∃ spool, hosted.stream stderr = some spool ∧
      (landed env spool bytes t.world).isSome = true
  | (.error _, _) => True

/-- The spool is the window of these bytes: each was appended once, and in order. -/
def Accounted (id : String) (stderr : Bool) (s : SupervisorState ω) (stream : List UInt8) : Prop :=
  ∃ spool, s.spoolAt id stderr = some spool ∧ Window stream spool

/-- The same spool is not the window of a longer stream. -/
theorem accounted_append_iff (accounted : Accounted id stderr s stream)
    (same : t.spoolAt id stderr = s.spoolAt id stderr) :
    Accounted id stderr t (stream ++ bytes) ↔ bytes = [] := by
  obtain ⟨spool, found, window⟩ := accounted
  rw [Accounted, same]
  constructor
  · rintro ⟨spool', found', longer⟩
    obtain rfl := Option.some.inj (found.symm.trans found')
    have tail := longer.tail
    rw [window.tail, length_append] at tail
    exact length_eq_zero_iff.mp (by omega)
  · rintro rfl
    exact ⟨spool, found, (append_nil stream).symm ▸ window⟩

theorem drain_accounted_iff (accounted : Accounted binding.sessionId stderr s stream)
    (offset maxBytes : Nat) :
    Accounted binding.sessionId stderr ((drain env binding offset maxBytes stderr).run s).2
      (stream ++ takenBytes env binding maxBytes stderr s) ↔
        AppendsTaken env binding maxBytes stderr s := by
  unfold takenBytes AppendsTaken takeOutput drain
  rcases first : (controlled env binding).run s with ⟨e | hosted, s'⟩
  all_goals have books := (controlled_keepsBooks binding).of_eq first
  · simp only [run_bind_of_error first]
    exact iff_of_true ((accounted_append_iff accounted (spoolAt_of_books books)).mpr rfl) trivial
  rcases second : (drainChild env hosted binding.sessionId stderr maxBytes).run s' with
    ⟨e | drained, u⟩
  all_goals have books := ((drainChild_keepsBooks _ _ _ _).of_eq second).trans books
  · simp only [run_bind_of_ok first, run_bind_of_error second]
    exact iff_of_true ((accounted_append_iff accounted (spoolAt_of_books books)).mpr rfl) trivial
  simp only [run_bind_of_ok first, run_bind_of_ok second, run_pure]
  obtain ⟨spool, found, window⟩ := id accounted
  rw [SupervisorState.spoolAt, (controlled_ok first).1] at found
  have held : hosted.stream stderr = some spool := found
  have there : u.hosts.lookup binding.sessionId = some hosted :=
    (books_eq_iff.mp books).1 ▸ (controlled_ok first).1
  simp only [held]
  have stored :=
    drainStream_books env hosted binding.sessionId stderr spool drained offset maxBytes u
  by_cases empty : drained.1 = []
  · rw [if_pos empty] at stored
    rw [accounted_append_iff accounted (spoolAt_of_books (stored.trans books))]
    exact iff_of_true empty fun some_ => absurd empty some_
  rw [if_neg empty] at stored
  have after := (spoolAt_of_books stored).trans
    (appendSpool_spoolAt env drained.1 there held)
  cases lands : landed env spool drained.1 u.world with
  | none =>
    rw [lands] at after
    rw [accounted_append_iff accounted (after.trans (.symm ?_))]
    · refine iff_of_false empty fun lands' => ?_
      obtain ⟨_, found', isSome⟩ := lands' empty
      cases found'
      rw [lands] at isSome
      cases isSome
    · rw [SupervisorState.spoolAt, (controlled_ok first).1]
      exact held
  | some next =>
    rw [lands] at after
    obtain ⟨fits, appended⟩ := landed_some lands
    exact iff_of_true ⟨next, after, window.append fits appended⟩
      fun _ => ⟨spool, rfl, by rw [lands]; rfl⟩

/-! ## Runs -/

/-- The supervisor, the ring of a stream and the bytes that drains have taken out of it. -/
structure Ledger (ω : Type) where
  state : SupervisorState ω
  (ring removed : List UInt8)

/-- A drain of the stream, or anything else that leaves its spool alone: output of the child,
other calls and other sessions. -/
inductive RingEvent (ω : Type) where
  | drain (binding : SupervisorBinding) (offset maxBytes : Nat)
  | elsewhere (t : SupervisorState ω) (ring : List UInt8)

variable (env id stderr) in
inductive RingStep : Ledger ω → RingEvent ω → Ledger ω → Prop where
  /-- The bytes a drain gets are the oldest of the ring. -/
  | drain {l : Ledger ω} {binding : SupervisorBinding} {offset maxBytes : Nat}
      {bytes rest : List UInt8} (own : binding.sessionId = id)
      (taken : takenBytes env binding maxBytes stderr l.state = bytes)
      (oldest : l.ring = bytes ++ rest) : RingStep l (.drain binding offset maxBytes)
        ⟨((drain env binding offset maxBytes stderr).run l.state).2, rest, l.removed ++ bytes⟩
  | elsewhere {l : Ledger ω} {t : SupervisorState ω} {ring : List UInt8}
      (same : t.spoolAt id stderr = l.state.spoolAt id stderr) :
      RingStep l (.elsewhere t ring) ⟨t, ring, l.removed⟩

def RingEvent.Appends (env : Environment ω) (stderr : Bool) (l : Ledger ω) : RingEvent ω → Prop
  | .drain binding _ maxBytes => AppendsTaken env binding maxBytes stderr l.state
  | .elsewhere _ _ => True

/-- **Output between the ring and the spool.**  In every run of drains and of anything else, the
bytes that drains have taken out of the ring are at all times those appended to the spool, each
once and in order, exactly if for each drain that takes bytes the longer spool is put in
place. -/
theorem drained_output_kept_iff {l m : Ledger ω} {events : List (RingEvent ω)}
    (run : Run (RingStep env id stderr) l events m) :
    (∀ mid, Run.Visits (RingStep env id stderr) l events mid →
      Accounted id stderr mid.state mid.removed) ↔
        Accounted id stderr l.state l.removed ∧ ∀ mid event,
          Run.Takes (RingStep env id stderr) l events mid event → event.Appends env stderr mid := by
  refine Run.throughout_iff (J := fun _ => True) ?_ (fun _ _ => trivial) ?_ trivial run
  · rintro a event b c (⟨rfl, rfl, oldest⟩ | same) second
    · cases second with
      | drain _ taken oldest' =>
        subst taken
        rw [append_cancel_left (oldest.symm.trans oldest')]
    · cases second with
      | elsewhere => rfl
  · rintro l event m - accounted (⟨rfl, rfl, oldest⟩ | same)
    · exact drain_accounted_iff accounted _ _
    · exact iff_of_true (by rwa [Accounted, same]) trivial

/-- A host that has printed one byte, and how writing its spool ends. -/
def printingEnvironment (outcome : AtomicWrite) : Environment Int :=
  { clockEnvironment with
    now := fun w => (0, w)
    drainHost := fun _ _ _ w => (.ok ([1], false), w)
    writeSpool := fun w => (outcome, w) }

theorem idleState_accounted : Accounted "h" false idleState [] :=
  ⟨⟨0, []⟩, by decide +kernel, rfl, rfl, by decide⟩

/-- One drain whose write is reported as failed when the file is in place. -/
theorem drained_output_kept_iff_written : Accounted "h" false
    ((drain (printingEnvironment (.unsynced "sync")) (bindingOf (sampleManifest "h" 1)) 0 1
      false).run idleState).2 [1] := by
  have first : RingStep (printingEnvironment (.unsynced "sync")) "h" false ⟨idleState, [1], []⟩
    (.drain (bindingOf (sampleManifest "h" 1)) 0 1) ⟨_, [], [1]⟩ :=
    .drain rfl (by decide +kernel) rfl
  refine (drained_output_kept_iff (.next first (.done _))).mpr ⟨idleState_accounted, ?_⟩ _
    ⟨_, [], rfl, .next first (.done _)⟩
  rintro mid event ⟨_ | _, after, only, reached⟩
  · cases only
    cases reached
    exact fun _ => ⟨⟨0, []⟩, by decide +kernel⟩
  · simp at only

/-- The disk is full: the byte has left the ring and is not in the spool. -/
theorem unwritten_output_lost :
    takenBytes (printingEnvironment (.unwritten "disk full")) (bindingOf (sampleManifest "h" 1)) 1
      false idleState = [1] ∧
    ((drain (printingEnvironment (.unwritten "disk full")) (bindingOf (sampleManifest "h" 1)) 0 1
      false).run idleState).2.spoolAt "h" false = some ⟨0, []⟩ := by
  decide +kernel

end OwnMesh.Supervisor
