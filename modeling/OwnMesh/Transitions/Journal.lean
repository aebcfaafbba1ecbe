import OwnMesh.Ipc.Value
import OwnMesh.Sessions.Manager

/-!
# The transition journal

Before the daemon asks the session-host supervisor to move the controller seat of a
session, it writes down what it is about to do.  A record starts in the phase
`intent`, carries the binding the supervisor returned once it is `applied`, and is
cleared after the session store has been written.  What is in the journal when the
daemon starts is what a crash interrupted.

The journal is a table in memory and a file.  A failed write puts the table back, but it
may have failed after the new file was in place: then the change is on disk only, and the
next daemon finds it there.
-/

namespace OwnMesh.Transitions

open Foundations Ipc Sessions Program List AList

/-! ## Records -/

inductive TransitionPhase where
  | intent
  | applied
deriving DecidableEq, Repr

inductive TransitionKind where
  | detach
  | claim
  | give
  | renew
  | reclaim
  | close
  | terminate
deriving DecidableEq, Repr

/-- Terminal transitions end the host; they have no successor binding. -/
def TransitionKind.isTerminal : TransitionKind → Bool
  | close | terminate => true
  | _ => false

/-- The controller seat a transition leads to. -/
structure TransitionTarget where
  principal : String
  controllerEpoch : Nat
  bindingExpiresUnix : Int
  controllerAttached : Bool
  leaseId : Option String
  terminal : Bool
deriving DecidableEq, Repr

structure TransitionRecord where
  transitionId : String
  kind : TransitionKind
  phase : TransitionPhase
  (sessionId deviceId workspaceId authenticatedPrincipal : String)
  oldBinding : SidecarHostBinding
  target : TransitionTarget
  newBinding : Option SidecarHostBinding
  (createdUnix expiresUnix : Int)
deriving DecidableEq, Repr

/-- The record of a transition the supervisor has applied. -/
def TransitionRecord.markApplied (record : TransitionRecord)
    (binding : Option SidecarHostBinding) : TransitionRecord :=
  { record with phase := .applied, newBinding := binding }

/-! ## Validation -/

/-- The check of one identifier. -/
def valid (value : String) : Bool × String :=
  (validComponent value, "invalid transition journal identifier")

/-- The checks of a binding a record refers to. -/
def bindingChecks (binding : SidecarHostBinding) : List (Bool × String) :=
  [valid binding.deviceId, valid binding.workspaceId, valid binding.ownerPrincipal,
    valid binding.hostNonce,
    (decide (binding.controllerEpoch ≠ 0 ∧ 0 < binding.bindingExpiresUnix ∧
        binding.bindingExpiresUnix < binding.hostExpiresUnix),
      "invalid transition journal binding"),
    (binding.childPid.isSome == binding.childProcessBirth.isSome,
      "transition journal binding has incomplete child identity")]

/-- The checks of a record, in the order they are made. -/
def recordChecks (record : TransitionRecord) : List (Bool × String) :=
  [valid record.transitionId, valid record.sessionId, valid record.deviceId,
    valid record.workspaceId, valid record.authenticatedPrincipal, valid record.target.principal,
    (decide (record.target.controllerEpoch ≠ 0 ∧ 0 < record.createdUnix ∧
        record.createdUnix < record.expiresUnix ∧
        record.createdUnix < record.target.bindingExpiresUnix ∧
        record.target.bindingExpiresUnix ≤ record.expiresUnix),
      "invalid transition journal epoch or expiry"),
    (decide (record.oldBinding.hostExpiresUnix ≤ record.expiresUnix) &&
        record.newBinding.all
          (fun binding => decide (binding.hostExpiresUnix ≤ record.expiresUnix)),
      "invalid transition journal host-expiry bound")] ++
  bindingChecks record.oldBinding ++
  record.newBinding.toList.flatMap bindingChecks ++
  [(!(record.phase == .applied && record.newBinding.isNone && !record.target.terminal),
      "applied transition missing binding"),
    (record.target.terminal == record.kind.isTerminal,
      "transition kind/target.terminal mismatch")]

def validate (record : TransitionRecord) : Except String Unit := runChecks (recordChecks record)

/-- What the checks of a binding ask for. -/
structure ValidBinding (binding : SidecarHostBinding) : Prop where
  deviceId : validComponent binding.deviceId = true
  workspaceId : validComponent binding.workspaceId = true
  ownerPrincipal : validComponent binding.ownerPrincipal = true
  hostNonce : validComponent binding.hostNonce = true
  lifetime : binding.controllerEpoch ≠ 0 ∧ 0 < binding.bindingExpiresUnix ∧
    binding.bindingExpiresUnix < binding.hostExpiresUnix
  child : binding.childPid.isSome = binding.childProcessBirth.isSome

theorem bindingChecks_hold_iff {binding : SidecarHostBinding} :
    (∀ check ∈ bindingChecks binding, check.1 = true) ↔ ValidBinding binding := by
  simp only [bindingChecks, valid, forall_mem_cons, not_mem_nil, false_implies,
    implies_true, and_true, decide_eq_true_eq, beq_iff_eq]
  constructor
  · rintro ⟨device, workspace, owner, nonce, lifetime, child⟩
    exact ⟨device, workspace, owner, nonce, lifetime, child⟩
  · rintro ⟨device, workspace, owner, nonce, lifetime, child⟩
    exact ⟨device, workspace, owner, nonce, lifetime, child⟩

/-- What the checks of a record ask for. -/
structure ValidRecord (record : TransitionRecord) : Prop where
  identifiers : ∀ value ∈ [record.transitionId, record.sessionId, record.deviceId,
    record.workspaceId, record.authenticatedPrincipal, record.target.principal],
    validComponent value = true
  window : record.target.controllerEpoch ≠ 0 ∧ 0 < record.createdUnix ∧
    record.createdUnix < record.expiresUnix ∧
    record.createdUnix < record.target.bindingExpiresUnix ∧
    record.target.bindingExpiresUnix ≤ record.expiresUnix
  covers : record.oldBinding.hostExpiresUnix ≤ record.expiresUnix ∧
    ∀ binding ∈ record.newBinding, binding.hostExpiresUnix ≤ record.expiresUnix
  oldBinding : ValidBinding record.oldBinding
  newBinding : ∀ binding ∈ record.newBinding, ValidBinding binding
  applied : record.phase = .applied → record.newBinding = none → record.target.terminal = true
  terminal : record.target.terminal = record.kind.isTerminal

theorem newBindingChecks_hold_iff {newBinding : Option SidecarHostBinding} :
    (∀ check ∈ newBinding.toList.flatMap bindingChecks, check.1 = true) ↔
      ∀ binding ∈ newBinding, ValidBinding binding := by
  cases newBinding with
  | none => simp
  | some =>
    rw [Option.toList_some, flatMap_singleton, bindingChecks_hold_iff]
    simp

variable {record : TransitionRecord}

/-- The validator accepts exactly the valid records. -/
theorem validate_ok_iff : validate record = .ok () ↔ ValidRecord record := by
  rw [validate, runChecks_ok_iff, recordChecks, forall_mem_append, forall_mem_append,
    forall_mem_append, bindingChecks_hold_iff, newBindingChecks_hold_iff]
  simp only [forall_mem_cons, not_mem_nil, false_implies, implies_true, and_true, valid,
    Bool.and_eq_true, decide_eq_true_eq, beq_iff_eq, Option.all_eq_true, Bool.not_eq_true',
    Bool.and_eq_false_imp, Option.isNone_iff_eq_none, Bool.not_eq_false']
  constructor
  · rintro ⟨⟨⟨⟨t, s, d, w, a, p, window, old, new⟩, oldBinding⟩, newBinding⟩, applied, terminal⟩
    exact ⟨by simp [t, s, d, w, a, p], window, ⟨old, new⟩, oldBinding, newBinding,
      fun phase missing => applied ⟨phase, missing⟩, terminal⟩
  · rintro ⟨identifiers, window, ⟨old, new⟩, oldBinding, newBinding, applied, terminal⟩
    simp only [forall_mem_cons, not_mem_nil, false_implies, implies_true, and_true] at identifiers
    obtain ⟨t, s, d, w, a, p⟩ := identifiers
    exact ⟨⟨⟨⟨t, s, d, w, a, p, window, old, new⟩, oldBinding⟩, newBinding⟩,
      fun noted => applied noted.1 noted.2, terminal⟩

/-! ## The journal in memory and on disk -/

def maxBytes : Nat := 256 * 1024
def maxEntries : Nat := 64

def version : Nat := 1

/-- What the file holds. -/
structure Disk where
  version : Nat
  entries : Table String TransitionRecord

/-- What the surroundings decide: the bytes of an encoded journal, and how the write of the
file ends. -/
structure Environment (ω : Type) where
  encode : Disk → Except String (List UInt8)
  write : List UInt8 → ω → AtomicWrite × ω

structure TransitionJournal (ω : Type) where
  (entries file : Table String TransitionRecord)
  world : ω

/-- Programs on the journal; their errors are texts. -/
abbrev TransitionM (ω α : Type) : Type := Program (TransitionJournal ω) String α

/-- The entries of a table in the order of their identifiers. -/
def sortedEntries (entries : Table String TransitionRecord) : List (String × TransitionRecord) :=
  entries.toList.insertionSort fun a b => a.1 ≤ b.1

section Operations

variable {ω : Type} (env : Environment ω)

def persist : TransitionM ω Unit := do
  let entries ← reads TransitionJournal.entries
  match env.encode ⟨version, entries⟩ with
  | .error reason => fail s!"encode transition journal: {reason}"
  | .ok bytes => do
    require (bytes.length ≤ maxBytes) "transition journal byte cap reached"
    replaceFile
      (fun j => ((env.write bytes j.world).1, { j with world := (env.write bytes j.world).2 }))
      (fun j => { j with file := entries }) fun reason => s!"persist transition journal: {reason}"

/-- Change the table and write it; when the write fails, the table is what it was. -/
def replaceEntries (next : Table String TransitionRecord) : TransitionM ω Unit := do
  let previous ← reads TransitionJournal.entries
  Program.modify fun j => { j with entries := next }
  match ← attempt (persist env) with
  | .ok _ => pure ()
  | .error e => do
    Program.modify fun j => { j with entries := previous }
    fail e

/-- Write down a transition; writing down the same one again is no change. -/
def beginTransition (record : TransitionRecord) : TransitionM ω TransitionRecord := do
  ofExcept (validate record)
  let entries ← reads TransitionJournal.entries
  match entries.lookup record.transitionId with
  | some existing =>
    if existing = record then pure existing
    else fail "transition journal id reuse conflict"
  | none => do
    require (entries.entries.length < maxEntries) "transition journal entry cap reached"
    replaceEntries env (entries.insert record.transitionId record)
    pure record

/-- The record under an identifier that must be there. -/
def recordAt (id : String) : TransitionM ω TransitionRecord := do
  let entries ← reads TransitionJournal.entries
  match entries.lookup id with
  | some record => pure record
  | none => fail "transition journal record not found"

/-- Store a record in place of the one it continues. -/
def storeApplied (id : String) (candidate : TransitionRecord) : TransitionM ω Unit := do
  ofExcept (validate candidate)
  let entries ← reads TransitionJournal.entries
  replaceEntries env (entries.insert id candidate)

def markApplied (id : String) (binding : SidecarHostBinding) : TransitionM ω Unit := do
  let original ← recordAt id
  match original.phase with
  | .applied =>
    require (original.newBinding = some binding)
      "transition journal applied binding conflict"
  | .intent => storeApplied env id (original.markApplied (some binding))

def markTerminalApplied (id : String) : TransitionM ω Unit := do
  let original ← recordAt id
  require (original.target.terminal = true)
    "non-terminal transition cannot record terminal receipt"
  match original.phase with
  | .applied =>
    require (original.newBinding = none) "terminal transition applied binding conflict"
  | .intent => storeApplied env id (original.markApplied none)

/-- Remove a record; one that is not there is no error and no write. -/
def clear (id : String) : TransitionM ω Unit := do
  let entries ← reads TransitionJournal.entries
  match entries.lookup id with
  | none => pure ()
  | some _ => replaceEntries env (entries.erase id)

/-- The records that are still in the journal. -/
def TransitionJournal.pending (j : TransitionJournal ω) : List TransitionRecord :=
  (sortedEntries j.entries).map Prod.snd

/-- What is wrong with one entry of the file. -/
def entryFault (entry : String × TransitionRecord) : Option String :=
  if entry.1 ≠ entry.2.transitionId then
    some s!"transition journal key/id mismatch ({entry.1} != {entry.2.transitionId})"
  else
    match validate entry.2 with
    | .error message => some message
    | .ok _ => none

/-- What the daemon accepts of the file when it starts. -/
def openEntries (file : Table String TransitionRecord) :
    Except String (Table String TransitionRecord) :=
  if file.entries.length > maxEntries then
    .error s!"transition journal entry cap exceeded ({file.entries.length}/{maxEntries})"
  else
    match (sortedEntries file).findSome? entryFault with
    | some message => .error message
    | none => .ok file

end Operations

/-! ## What the operations do

An operation that answers has changed one entry, in memory and on disk alike, or nothing. -/

section Effects

variable {ω : Type} {env : Environment ω} {s t : TransitionJournal ω}

/-- Table and file are both `next`. -/
structure Replaced (next : Table String TransitionRecord) (t : TransitionJournal ω) : Prop where
  entries : t.entries = next
  file : t.file = next

/-- The table is what it was.  So is the file, or the work is done in it. -/
def Undone (done : TransitionJournal ω → Prop) (s t : TransitionJournal ω) : Prop :=
  t.entries = s.entries ∧ (t.file = s.file ∨ done { t with entries := t.file })

/-- The ends of an operation: it has done its work, or the table is put back. -/
def Ends {α : Type} (done : TransitionJournal ω → Prop) (s : TransitionJournal ω) :
    Except String α × TransitionJournal ω → Prop
  | (.ok _, t) => done t
  | (.error _, t) => Undone done s t

section Ends

variable {α : Type} {done more : TransitionJournal ω → Prop}

variable {m : TransitionM ω α}

theorem Ends.ok {a : α} (ends : Ends done s (m.run s)) (ran : m.run s = (.ok a, t)) : done t := by
  rwa [ran] at ends

theorem Ends.error {e : String} (ends : Ends done s (m.run s))
    (ran : m.run s = (.error e, t)) : Undone done s t := by
  rwa [ran] at ends

theorem Ends.mono {result : Except String α × TransitionJournal ω} (ends : Ends done s result)
    (implies : ∀ t, done t → more t) : Ends more s result := by
  obtain ⟨e | a, t⟩ := result
  · exact ⟨ends.1, ends.2.imp_right (implies _)⟩
  · exact implies t ends

theorem Ends.bind_pure {β : Type} {f : α → β} (ends : Ends done s (m.run s))
    (implies : ∀ t, done t → more t) : Ends more s ((m >>= fun a => pure (f a)).run s) :=
  run_bind_cases (fun _ _ ran => (ran ▸ ends).mono (α := α) implies) fun _ t ran =>
    implies t (ends.ok ran)

end Ends

variable {id : String}

variable (env) in
theorem persist_ends (s : TransitionJournal ω) :
    Ends (Replaced s.entries) s ((persist env).run s) := by
  simp only [persist, run_reads_bind]
  split
  · exact ⟨rfl, .inl rfl⟩
  · refine run_require_bind_cases (fun _ => ⟨rfl, .inl rfl⟩) fun _ => ?_
    exact run_replaceFile_cases (fun _ => ⟨rfl, rfl⟩) (fun _ _ => ⟨rfl, .inl rfl⟩)
      fun _ _ => ⟨rfl, .inr ⟨rfl, rfl⟩⟩

variable (env) in
theorem replaceEntries_ends (next : Table String TransitionRecord) (s : TransitionJournal ω) :
    Ends (Replaced next) s ((replaceEntries env next).run s) := by
  simp only [replaceEntries, run_reads_bind, run_modify_bind, run_attempt_bind]
  have written := persist_ends env { s with entries := next }
  generalize (persist env).run { s with entries := next } = result at *
  obtain ⟨e | u, t⟩ := result
  · exact ⟨rfl, written.2⟩
  · exact written

/-- The record was there already, or it is now. -/
def Begun (record : TransitionRecord) (s t : TransitionJournal ω) : Prop :=
  validate record = .ok () ∧ ((s.entries.lookup record.transitionId = some record ∧ s = t) ∨
      ((s.entries.lookup record.transitionId = none ∧ s.entries.entries.length < maxEntries) ∧
        Replaced (s.entries.insert record.transitionId record) t))

variable (env) in
theorem beginTransition_ends (record : TransitionRecord) (s : TransitionJournal ω) :
    Ends (Begun record s) s ((beginTransition env record).run s) := by
  refine run_ofExcept_bind_cases (fun _ _ => ⟨rfl, .inl rfl⟩) fun _ accepted => ?_
  rw [run_reads_bind]
  split
  next existing found =>
    split
    next same => exact ⟨accepted, .inl ⟨by rw [found, same], rfl⟩⟩
    · exact ⟨rfl, .inl rfl⟩
  next absent =>
    refine run_require_bind_cases (fun _ => ⟨rfl, .inl rfl⟩) fun room => ?_
    exact (replaceEntries_ends env _ s).bind_pure fun _ replaced =>
      ⟨accepted, .inr ⟨⟨absent, room⟩, replaced⟩⟩

theorem recordAt_ends (id : String) (s : TransitionJournal ω) :
    (∃ record, (recordAt id).run s = (.ok record, s) ∧ s.entries.lookup id = some record) ∨
      ∃ e, (recordAt id).run s = (.error e, s) := by
  simp only [recordAt, run_reads_bind]
  split
  next record found => exact .inl ⟨record, rfl, found⟩
  next => exact .inr ⟨_, rfl⟩

/-- What marking a record as applied does: it was applied already, or it is now. -/
def Marked (id : String) (binding : Option SidecarHostBinding) (s t : TransitionJournal ω) : Prop :=
  ∃ original, s.entries.lookup id = some original ∧
    ((original.phase = .applied ∧ original.newBinding = binding ∧ s = t) ∨
      (original.phase = .intent ∧ validate (original.markApplied binding) = .ok () ∧
        Replaced (s.entries.insert id (original.markApplied binding)) t))

/-- A record that is looked at is marked, or refused. -/
theorem requireMarked_ends {binding : Option SidecarHostBinding} {original : TransitionRecord}
    (found : s.entries.lookup id = some original) (conflict : String) :
    Ends (Marked id binding s) s ((match original.phase with
      | .applied => require (original.newBinding = binding) conflict
      | .intent => storeApplied env id (original.markApplied binding) : TransitionM ω Unit).run
        s) := by
  split
  next phase =>
    by_cases same : original.newBinding = binding
    · rw [run_require_of_holds same]
      exact ⟨original, found, .inl ⟨phase, same, rfl⟩⟩
    · rw [run_require_of_not same]
      exact ⟨rfl, .inl rfl⟩
  next phase =>
    refine run_ofExcept_bind_cases (fun _ _ => ⟨rfl, .inl rfl⟩) fun _ accepted => ?_
    exact (replaceEntries_ends env _ s).mono fun _ replaced =>
      ⟨original, found, .inr ⟨phase, accepted, replaced⟩⟩

variable (env) in
theorem markApplied_ends (id : String) (binding : SidecarHostBinding) (s : TransitionJournal ω) :
    Ends (Marked id (some binding) s) s ((markApplied env id binding).run s) := by
  rcases recordAt_ends id s with ⟨original, looked, found⟩ | ⟨e, missing⟩
  · rw [markApplied, run_bind_of_ok looked]
    exact requireMarked_ends found _
  · rw [markApplied, run_bind_of_error missing]
    exact ⟨rfl, .inl rfl⟩

variable (env) in
theorem markTerminalApplied_ends (id : String) (s : TransitionJournal ω) :
    Ends (Marked id none s) s ((markTerminalApplied env id).run s) := by
  rcases recordAt_ends id s with ⟨original, looked, found⟩ | ⟨e, missing⟩
  · rw [markTerminalApplied, run_bind_of_ok looked]
    exact run_require_bind_cases (fun _ => ⟨rfl, .inl rfl⟩) fun _ =>
      requireMarked_ends found _
  · rw [markTerminalApplied, run_bind_of_error missing]
    exact ⟨rfl, .inl rfl⟩

/-- The record is gone, if there was one. -/
def Cleared (id : String) (s t : TransitionJournal ω) : Prop :=
  (s.entries.lookup id = none ∧ s = t) ∨
    (∃ record, s.entries.lookup id = some record) ∧ Replaced (s.entries.erase id) t

variable (env) in
theorem clear_ends (id : String) (s : TransitionJournal ω) :
    Ends (Cleared id s) s ((clear env id).run s) := by
  simp only [clear, run_reads_bind]
  split
  next absent => exact .inl ⟨absent, rfl⟩
  next record found =>
    exact (replaceEntries_ends env _ s).mono fun _ erased => .inr ⟨⟨record, found⟩, erased⟩

end Effects

/-! ## How the journal evolves

Whatever programs do, the two tables change only in these ways.  `written` says which
records may be written down. -/

section Evolution

/-- The records in memory and on disk. -/
abbrev Tables : Type := Table String TransitionRecord × Table String TransitionRecord

/-- One change of the journal.  `unsynced` is a change that failed after the new file was in
place, `reopen` a restart, which reads the file. -/
inductive JournalStep (written : TransitionRecord → Prop) : Tables → Tables → Prop where
  | write {entries file : Table String TransitionRecord} {record : TransitionRecord}
      (valid : validate record = .ok ()) (allowed : written record) :
      JournalStep written (entries, file)
        (entries.insert record.transitionId record, entries.insert record.transitionId record)
  | mark {entries file : Table String TransitionRecord} {id : String}
      {record : TransitionRecord} {binding : Option SidecarHostBinding}
      (found : entries.lookup id = some record)
      (valid : validate (record.markApplied binding) = .ok ()) :
      JournalStep written (entries, file)
        (entries.insert id (record.markApplied binding),
          entries.insert id (record.markApplied binding))
  | clear {entries file : Table String TransitionRecord} (id : String) :
      JournalStep written (entries, file) (entries.erase id, entries.erase id)
  | unsynced {entries file next : Table String TransitionRecord}
      (step : JournalStep written (entries, file) (next, next)) :
      JournalStep written (entries, file) (entries, next)
  | reopen {entries file : Table String TransitionRecord} :
      JournalStep written (entries, file) (file, file)

/-- Any number of changes of the journal. -/
abbrev Evolves (written : TransitionRecord → Prop) : Tables → Tables → Prop :=
  Relation.ReflTransGen (JournalStep written)

variable {ω : Type} {env : Environment ω} {s t : TransitionJournal ω}
  {written : TransitionRecord → Prop} {id : String}
  {entries file : Table String TransitionRecord}

def TransitionJournal.tables (j : TransitionJournal ω) : Tables := (j.entries, j.file)

theorem Replaced.tables {next : Table String TransitionRecord} (replaced : Replaced next t) :
    t.tables = (next, next) :=
  Prod.ext replaced.entries replaced.file

theorem Ends.evolves {α : Type} {done : TransitionJournal ω → Prop}
    {result : Except String α × TransitionJournal ω} (ends : Ends done s result)
    (moved : ∀ t, done t → s = t ∨ ∃ next, Replaced next t ∧
      JournalStep written s.tables (next, next)) :
    Evolves written s.tables result.2.tables := by
  obtain ⟨e | a, t⟩ := result
  · obtain ⟨entries, same | landed⟩ := ends
    · rw [show t.tables = s.tables from Prod.ext entries same]
    · rcases moved _ landed with same | ⟨next, replaced, step⟩
      · rw [show t.tables = s.tables from Prod.ext entries
          (congrArg TransitionJournal.file same).symm]
      · rw [show t.tables = (s.entries, next) from Prod.ext entries replaced.file]
        exact .single (.unsynced step)
  · rcases moved t ends with rfl | ⟨next, replaced, step⟩
    · exact .refl
    · rw [replaced.tables]
      exact .single step

theorem beginTransition_evolves (allowed : written record) (s : TransitionJournal ω) :
    Evolves written s.tables ((beginTransition env record).run s).2.tables := by
  refine (beginTransition_ends env record s).evolves ?_
  rintro t ⟨valid, ⟨-, same⟩ | ⟨-, replaced⟩⟩
  · exact .inl same
  · exact .inr ⟨_, replaced, .write valid allowed⟩

theorem Marked.evolves {binding : Option SidecarHostBinding} (marked : Marked id binding s t) :
    s = t ∨ ∃ next, Replaced next t ∧ JournalStep written s.tables (next, next) := by
  obtain ⟨original, found, ⟨-, -, same⟩ | ⟨-, valid, replaced⟩⟩ := marked
  · exact .inl same
  · exact .inr ⟨_, replaced, .mark found valid⟩

theorem markApplied_evolves (id : String) (binding : SidecarHostBinding) (s : TransitionJournal ω) :
    Evolves written s.tables ((markApplied env id binding).run s).2.tables :=
  (markApplied_ends env id binding s).evolves fun _ marked => marked.evolves

theorem markTerminalApplied_evolves (id : String) (s : TransitionJournal ω) :
    Evolves written s.tables ((markTerminalApplied env id).run s).2.tables :=
  (markTerminalApplied_ends env id s).evolves fun _ marked => marked.evolves

theorem clear_evolves (id : String) (s : TransitionJournal ω) :
    Evolves written s.tables ((clear env id).run s).2.tables := by
  refine (clear_ends env id s).evolves ?_
  rintro t (⟨-, same⟩ | ⟨-, replaced⟩)
  · exact .inl same
  · exact .inr ⟨_, replaced, .clear id⟩

/-! ### What holds of every record -/

/-- Every record in memory and on disk has the property, under its identifier. -/
def Each (P : String → TransitionRecord → Prop) (tables : Tables) : Prop :=
  ∀ id record, tables.1.lookup id = some record ∨ tables.2.lookup id = some record → P id record

variable {P : String → TransitionRecord → Prop}

theorem each_insert (each : Each P (entries, file)) (holds : P id record) :
    Each P (entries.insert id record, entries.insert id record) := by
  intro key found there
  rcases Table.lookup_insert_some (or_self_iff.mp there) with ⟨rfl, rfl⟩ | older
  · exact holds
  · exact each key found (.inl older)

/-- A property that marking keeps and everything written has stays a property of all. -/
theorem Each.step {a b : Tables} (each : Each P a) (step : JournalStep written a b)
    (marked : ∀ id record binding, validate (record.markApplied binding) = .ok () →
      P id record → P id (record.markApplied binding))
    (writes : ∀ record, validate record = .ok () → written record → P record.transitionId record) :
    Each P b := by
  induction step with
  | write valid allowed => exact each_insert each (writes _ valid allowed)
  | mark found valid => exact each_insert each (marked _ _ _ valid (each _ _ (.inl found)))
  | clear id =>
    intro key found there
    exact each key found (.inl (Table.lookup_erase_some (or_self_iff.mp there)))
  | unsynced step ih =>
    intro key found there
    rcases there with kept | landed
    · exact each key found (.inl kept)
    · exact ih each key found (.inl landed)
  | reopen => exact fun id record there => each id record (.inr (or_self_iff.mp there))

theorem Each.evolves {a b : Tables} (each : Each P a) (evolves : Evolves written a b)
    (marked : ∀ id record binding, validate (record.markApplied binding) = .ok () →
      P id record → P id (record.markApplied binding))
    (writes : ∀ record, validate record = .ok () → written record → P record.transitionId record) :
    Each P b := by
  induction evolves with
  | refl => exact each
  | tail _ last ih => exact ih.step last marked writes

/-- No record with the property is in memory or on disk. -/
abbrev NoneSuch (Q : TransitionRecord → Prop) : Tables → Prop := Each fun _ record => ¬ Q record

/-- The reader of the file accepts the record under its identifier. -/
def WellFormed (id : String) (record : TransitionRecord) : Prop :=
  record.transitionId = id ∧ validate record = .ok ()

theorem wellFormed_evolves {a b : Tables} (each : Each WellFormed a)
    (evolves : Evolves written a b) : Each WellFormed b :=
  each.evolves evolves (fun _ _ _ valid wellFormed => ⟨wellFormed.1, valid⟩)
    fun _ valid _ => ⟨rfl, valid⟩

end Evolution

end OwnMesh.Transitions
