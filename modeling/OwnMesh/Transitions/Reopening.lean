import OwnMesh.Foundations.Run
import OwnMesh.Transitions.Journal

/-!
# The transition journal across restarts

The journal's file is a sequence of bytes that the JSON writer made of the table, and
the next daemon reads the table back from it.  This module adds the reading:
`parseAndValidate` is the check that the daemon and its diagnostics share, and
`openJournal` is what the daemon does when it starts.

Two things are shown about a journal that is opened and called in any order while
writes fail at will.  What is in memory is what is on disk, as long as a failed write
leaves the file alone, and the file opens again to the same entries.  A record that ends
the host can nevertheless carry a successor binding, because neither the validation nor
`mark_applied` looks at the kind; the calls that leave all such records bare are described
exactly.
-/

namespace OwnMesh.Transitions

open Foundations Ipc Sessions Program List AList Table

/-! ## Reading the file -/

/-- The file system and the JSON reader.  `contents` is the journal's file; `prepare`
and `read` attest the directory and the file and may refuse.  The laws are those of the
libraries below: the reader inverts the writer, a write that succeeds replaces the file and
one that fails before that leaves it alone, and looking at the directory changes nothing in
it. -/
structure Storage (ω : Type) extends Environment ω where
  path : String
  decode : List UInt8 → Except String Disk
  contents : ω → Option (List UInt8)
  (prepare read : ω → Option String × ω)
  decode_encode : ∀ {disk bytes}, encode disk = .ok bytes →
    ∃ stored, decode bytes = .ok stored ∧ stored.version = disk.version ∧
      ∀ id, stored.entries.lookup id = disk.entries.lookup id
  contents_written : ∀ bytes w, (write bytes w).1 = .written →
    contents (write bytes w).2 = some bytes
  contents_unwritten : ∀ bytes w reason, (write bytes w).1 = .unwritten reason →
    contents (write bytes w).2 = contents w
  contents_prepare : ∀ w, contents (prepare w).2 = contents w
  contents_read : ∀ w, contents (read w).2 = contents w

/-- The records of a file, in the order of their identifiers, if all of it is valid. -/
def parseAndValidate (decode : List UInt8 → Except String Disk) (bytes : List UInt8) :
    Except String (List TransitionRecord) :=
  match decode bytes with
  | .error reason => .error s!"parse transition journal: {reason}"
  | .ok disk =>
    if disk.version ≠ version then
      .error s!"invalid transition journal version (expected {version}, got {disk.version})"
    else
      match openEntries disk.entries with
      | .error message => .error message
      | .ok entries => .ok ((sortedEntries entries).map Prod.snd)

/-- The table of the records, each under its own identifier. -/
def collectRecords (records : List TransitionRecord) : Table String TransitionRecord :=
  Table.ofPairs (records.map fun record => (record.transitionId, record))

/-- Read the journal when the daemon starts. -/
def openJournal {ω : Type} (storage : Storage ω) :
    Program ω String (Table String TransitionRecord) := do
  match ← query storage.prepare with
  | some reason => fail s!"prepare transition journal: {reason}"
  | none =>
    match ← reads storage.contents with
    | none => pure ∅
    | some bytes => do
      match ← query storage.read with
      | some reason => fail s!"read transition journal: {reason}"
      | none => do
        require (bytes.length ≤ maxBytes)
          (s!"read transition journal: ipc protocol error: owner-only file exceeds " ++
            s!"{maxBytes} byte budget: {storage.path}")
        let records ← ofExcept (parseAndValidate storage.decode bytes)
        pure (collectRecords records)

/-! ## Tables that can be opened -/

/-- Every entry is valid and stands under its own identifier, and there are not too
many. -/
structure Sound (entries : Table String TransitionRecord) : Prop where
  keyed : ∀ {id record}, entries.lookup id = some record → record.transitionId = id
  valid : ∀ {id record}, entries.lookup id = some record → validate record = .ok ()
  capped : entries.entries.length ≤ maxEntries

theorem sound_empty : Sound ∅ where
  keyed := by
    intro id record found
    cases found
  valid := by
    intro id record found
    cases found
  capped := Nat.zero_le _

variable {a b : Table String TransitionRecord}

theorem Sound.congr (sound : Sound a) (same : ∀ id, b.lookup id = a.lookup id) : Sound b where
  keyed found := sound.keyed ((same _).symm.trans found)
  valid found := sound.valid ((same _).symm.trans found)
  capped := by
    rw [(perm_of_lookup_eq same).length_eq]
    exact sound.capped

variable {entries : Table String TransitionRecord}

/-- Storing a valid record under its own identifier keeps a table sound. -/
theorem Sound.insert (sound : Sound entries) {record : TransitionRecord}
    (valid : validate record = .ok ())
    (room : (entries.insert record.transitionId record).entries.length ≤ maxEntries) :
    Sound (entries.insert record.transitionId record) where
  keyed := by
    intro id stored found
    rcases lookup_insert_some found with ⟨rfl, rfl⟩ | older
    · rfl
    · exact sound.keyed older
  valid := by
    intro id stored found
    rcases lookup_insert_some found with ⟨rfl, rfl⟩ | older
    · exact valid
    · exact sound.valid older
  capped := room

theorem Sound.erase (sound : Sound entries) (id : String) : Sound (entries.erase id) :=
  ⟨fun found => sound.keyed (lookup_erase_some found),
    fun found => sound.valid (lookup_erase_some found),
    le_trans (length_erase_le id entries) sound.capped⟩

theorem mem_sortedEntries_iff {id : String} {record : TransitionRecord} :
    (id, record) ∈ sortedEntries entries ↔ entries.lookup id = some record := by
  rw [sortedEntries, mem_insertionSort, mem_toList_iff]

theorem entryFault_none_iff {entry : String × TransitionRecord} :
    entryFault entry = none ↔ entry.2.transitionId = entry.1 ∧ validate entry.2 = .ok () := by
  unfold entryFault
  by_cases same : entry.1 = entry.2.transitionId
  · rw [if_neg (not_not_intro same)]
    cases validate entry.2 with
    | error => simp
    | ok => simp [same]
  · rw [if_pos same]
    simp [Ne.symm same]

/-- The reader accepts exactly the sound tables, and takes them as they are. -/
theorem openEntries_ok_iff {file : Table String TransitionRecord} :
    openEntries file = .ok entries ↔ Sound file ∧ entries = file := by
  have unfaulted : (sortedEntries file).findSome? entryFault = none ↔
      ∀ id record, file.lookup id = some record →
        record.transitionId = id ∧ validate record = .ok () := by
    rw [List.findSome?_eq_none_iff]
    constructor
    · intro faults id record found
      exact entryFault_none_iff.mp (faults (id, record) (mem_sortedEntries_iff.mpr found))
    · rintro sound ⟨id, record⟩ member
      exact entryFault_none_iff.mpr (sound id record (mem_sortedEntries_iff.mp member))
  unfold openEntries
  by_cases many : file.entries.length > maxEntries
  · rw [if_pos many]
    constructor
    · intro refused
      cases refused
    · rintro ⟨sound, -⟩
      exact absurd sound.capped (Nat.not_le_of_gt many)
  · rw [if_neg many]
    cases fault : (sortedEntries file).findSome? entryFault with
    | some =>
      constructor
      · intro refused
        cases refused
      · rintro ⟨sound, -⟩
        have none_found := unfaulted.mpr fun id record found =>
          ⟨sound.keyed found, sound.valid found⟩
        rw [fault] at none_found
        cases none_found
    | none =>
      have entriesSound := unfaulted.mp fault
      constructor
      · intro opened
        cases opened
        exact ⟨⟨fun found => (entriesSound _ _ found).1, fun found => (entriesSound _ _ found).2,
          Nat.le_of_not_gt many⟩, rfl⟩
      · rintro ⟨-, rfl⟩
        rfl

instance : Std.Total fun a b : String × TransitionRecord => a.1 ≤ b.1 :=
  ⟨fun a b => String.le_total a.1 b.1⟩

instance : IsTrans (String × TransitionRecord) fun a b => a.1 ≤ b.1 :=
  ⟨fun _ _ _ first second => String.le_trans first second⟩

/-- The order of the entries does not depend on how the table came about. -/
theorem sortedEntries_congr
    (same : ∀ id, a.lookup id = b.lookup id) : sortedEntries a = sortedEntries b := by
  have perm : (sortedEntries a).Perm (sortedEntries b) :=
    ((perm_insertionSort _ _).trans (toList_perm same)).trans (perm_insertionSort _ _).symm
  refine perm.eq_of_pairwise ?_ (pairwise_insertionSort _ _) (pairwise_insertionSort _ _)
  rintro ⟨id, record⟩ ⟨id', record'⟩ left right first second
  have sameId : id = id' := String.le_antisymm first second
  subst sameId
  have found := mem_sortedEntries_iff.mp left
  rw [same id, mem_sortedEntries_iff.mp right] at found
  cases found
  rfl

/-- Collecting the records of a sound table gives the table back. -/
theorem lookup_collectRecords (sound : Sound entries) (id : String) :
    (collectRecords ((sortedEntries entries).map Prod.snd)).lookup id = entries.lookup id := by
  have pairs : ((sortedEntries entries).map Prod.snd).map
      (fun record => (record.transitionId, record)) = sortedEntries entries := by
    rw [map_map]
    conv_rhs => rw [← map_id (sortedEntries entries)]
    refine map_congr_left ?_
    rintro ⟨key, record⟩ member
    show (record.transitionId, record) = (key, record)
    rw [sound.keyed (mem_sortedEntries_iff.mp member)]
  have distinct : ((sortedEntries entries).map Prod.fst).Nodup :=
    (((perm_insertionSort _ _).map Prod.fst).nodup_iff).mpr entries.keys_toList_nodup
  refine Option.ext fun record => ?_
  rw [collectRecords, pairs, lookup_ofPairs_iff distinct, mem_sortedEntries_iff]

/-! ## Files that can be opened -/

section Files

variable {ω : Type} {storage : Storage ω}

/-- The file is accepted, and holds exactly these entries. -/
def Holds (storage : Storage ω) (bytes : List UInt8) (entries : Table String TransitionRecord) :
    Prop :=
  bytes.length ≤ maxBytes ∧ ∃ disk, storage.decode bytes = .ok disk ∧ disk.version = version ∧
      ∀ id, disk.entries.lookup id = entries.lookup id

/-- There is no file and no entry, or the file holds the entries. -/
def OnDisk (storage : Storage ω) (w : ω) (entries : Table String TransitionRecord) : Prop :=
  match storage.contents w with
  | none => entries = ∅
  | some bytes => Holds storage bytes entries

/-- A file that holds sound entries passes the check, which returns them in order. -/
theorem Holds.parseAndValidate {bytes : List UInt8} (holds : Holds storage bytes entries)
    (sound : Sound entries) :
    parseAndValidate storage.decode bytes = .ok ((sortedEntries entries).map Prod.snd) := by
  obtain ⟨-, disk, decoded, version_ok, same⟩ := holds
  have opened : openEntries disk.entries = .ok disk.entries :=
    openEntries_ok_iff.mpr ⟨sound.congr same, rfl⟩
  simp only [Transitions.parseAndValidate, decoded]
  rw [if_neg (not_not_intro version_ok), opened, ← sortedEntries_congr same]

/-- What passes the check are the records of a sound table. -/
theorem parseAndValidate_ok {bytes : List UInt8} {records : List TransitionRecord}
    (parsed : parseAndValidate storage.decode bytes = .ok records) :
    ∃ disk, storage.decode bytes = .ok disk ∧ disk.version = version ∧ Sound disk.entries ∧
      records = (sortedEntries disk.entries).map Prod.snd := by
  simp only [parseAndValidate] at parsed
  split at parsed
  · cases parsed
  next disk decoded =>
    split at parsed
    · cases parsed
    next version_ok =>
      split at parsed
      · cases parsed
      next entries opened =>
        obtain ⟨sound, rfl⟩ := openEntries_ok_iff.mp opened
        cases parsed
        exact ⟨disk, decoded, not_not.mp version_ok, sound, rfl⟩

/-- A journal that opens is sound, and is what the file says. -/
theorem openJournal_ok {w w' : ω} (opened : (openJournal storage).run w = (.ok entries, w')) :
    Sound entries ∧ OnDisk storage w' entries := by
  simp only [openJournal, run_query_bind] at opened
  split at opened
  · cases opened
  rw [run_reads_bind, storage.contents_prepare] at opened
  split at opened
  next absent =>
    cases opened
    refine ⟨sound_empty, ?_⟩
    rw [OnDisk, storage.contents_prepare, absent]
  next bytes present =>
    rw [run_query_bind] at opened
    split at opened
    · cases opened
    obtain ⟨_, v, checked, opened⟩ := bind_ok_iff.mp opened
    obtain ⟨fits, rfl⟩ := require_ok_iff.mp checked
    obtain ⟨records, parsed, opened⟩ := ofExcept_bind_ok_iff.mp opened
    cases opened
    obtain ⟨disk, decoded, version_ok, sound, rfl⟩ := parseAndValidate_ok parsed
    refine ⟨sound.congr (lookup_collectRecords sound), ?_⟩
    rw [OnDisk, storage.contents_read, storage.contents_prepare, present]
    exact ⟨fits, disk, decoded, version_ok, fun id => (lookup_collectRecords sound id).symm⟩

/-- What is on disk opens again, unless the directory or the file is refused. -/
theorem openJournal_of_onDisk {w : ω} (sound : Sound entries) (onDisk : OnDisk storage w entries)
    (prepared : (storage.prepare w).1 = none)
    (readable : (storage.read (storage.prepare w).2).1 = none) :
    ∃ reopened w', (openJournal storage).run w = (.ok reopened, w') ∧
      ∀ id, reopened.lookup id = entries.lookup id := by
  simp only [openJournal, run_query_bind, prepared]
  rw [run_reads_bind, storage.contents_prepare]
  unfold OnDisk at onDisk
  cases present : storage.contents w with rw [present] at onDisk
  | none =>
    subst onDisk
    exact ⟨∅, _, rfl, fun _ => rfl⟩
  | some =>
    have parsed := onDisk.parseAndValidate sound
    refine ⟨collectRecords ((sortedEntries entries).map Prod.snd),
      (storage.read (storage.prepare w).2).2, ?_, lookup_collectRecords sound⟩
    rw [run_query_bind, readable]
    simp only [run_bind_of_ok (run_require_of_holds onDisk.1 _ _), parsed]
    rfl

end Files

/-! ## Calls -/

/-- A call of the open journal. -/
inductive JournalCall where
  | beginTransition (record : TransitionRecord)
  | markApplied (id : String) (binding : SidecarHostBinding)
  | markTerminalApplied (id : String)
  | clear (id : String)
deriving DecidableEq

variable {call : JournalCall}

section Calls

variable {ω : Type}

def JournalCall.program (env : Environment ω) : JournalCall → TransitionM ω Unit
  | .beginTransition record => do
    let _ ← Transitions.beginTransition env record
    pure ()
  | .markApplied id binding => Transitions.markApplied env id binding
  | .markTerminalApplied id => Transitions.markTerminalApplied env id
  | .clear id => Transitions.clear env id

variable {env : Environment ω} {s t : TransitionJournal ω}

/-- What a call that answers has done to the entries, in memory and on disk. -/
def JournalCall.Done (s t : TransitionJournal ω) : JournalCall → Prop
  | .beginTransition record => validate record = .ok () ∧
      ((s.entries.lookup record.transitionId = some record ∧ s = t) ∨
        ((s.entries.lookup record.transitionId = none ∧ s.entries.entries.length < maxEntries) ∧
          Replaced (s.entries.insert record.transitionId record) t))
  | .markApplied id binding => Marked id (some binding) s t
  | .markTerminalApplied id => Marked id none s t
  | .clear id => (s.entries.lookup id = none ∧ s = t) ∨
      (∃ record, s.entries.lookup id = some record) ∧ Replaced (s.entries.erase id) t

theorem JournalCall.ends (env : Environment ω) (call : JournalCall) (s : TransitionJournal ω) :
    Ends (call.Done s) s ((call.program env).run s) := by
  cases call with
  | beginTransition record =>
    exact (beginTransition_ends env record s).bind_pure fun _ begun => begun
  | markApplied id binding => exact markApplied_ends env id binding s
  | markTerminalApplied id => exact markTerminalApplied_ends env id s
  | clear id => exact clear_ends env id s

theorem Marked.sound {id : String} {binding : Option SidecarHostBinding}
    (marked : Marked id binding s t) (sound : Sound s.entries) : Sound t.entries := by
  obtain ⟨original, found, ⟨-, -, rfl⟩ | ⟨-, accepted, replaced⟩⟩ := marked
  · exact sound
  · -- the record keeps its identifier, so it stays under its own key
    obtain rfl : original.transitionId = id := sound.keyed found
    rw [replaced.entries]
    refine sound.insert accepted ?_
    show (s.entries.insert original.transitionId _).entries.length ≤ maxEntries
    rw [length_insert_of_present found]
    exact sound.capped

theorem JournalCall.Done.sound (done : call.Done s t)
    (sound : Sound s.entries) : Sound t.entries := by
  cases call with
  | beginTransition =>
    obtain ⟨accepted, ⟨-, rfl⟩ | ⟨⟨absent, room⟩, replaced⟩⟩ := done
    · exact sound
    · rw [replaced.entries]
      refine sound.insert accepted ?_
      rw [length_insert_of_absent absent]
      exact room
  | markApplied | markTerminalApplied => exact Marked.sound done sound
  | clear id =>
    rcases done with ⟨-, rfl⟩ | ⟨-, replaced⟩
    · exact sound
    · rw [replaced.entries]
      exact sound.erase id

theorem JournalCall.sound (call : JournalCall) (sound : Sound s.entries) :
    Sound ((call.program env).run s).2.entries := by
  have ends := call.ends env s
  generalize (call.program env).run s = result at *
  obtain ⟨_ | _, t⟩ := result
  · rw [ends.1]
    exact sound
  · exact JournalCall.Done.sound ends sound

end Calls

/-! ### The file a call leaves -/

section Writing

variable {ω : Type} {storage : Storage ω} {s t : TransitionJournal ω}

/-- A call leaves the entries and the file alone, or the file is the encoding of the
entries. -/
inductive Stores (storage : Storage ω) (s t : TransitionJournal ω) : Prop where
  | kept (entries : t.entries = s.entries)
      (contents : storage.contents t.world = storage.contents s.world)
  | saved {bytes : List UInt8} (encoded : storage.encode ⟨version, t.entries⟩ = .ok bytes)
      (fits : bytes.length ≤ maxBytes) (present : storage.contents t.world = some bytes)

/-- Some write failed after the new file was in place. -/
def Storage.Unsyncs (storage : Storage ω) : Prop :=
  ∃ bytes w reason, (storage.write bytes w).1 = .unsynced reason

/-- A call that answers stores what it did, and so does one that fails unless its write failed
after the new file was in place. -/
def Saves {α : Type} (storage : Storage ω) (s : TransitionJournal ω) :
    Except String α × TransitionJournal ω → Prop
  | (.ok _, t) => Stores storage s t
  | (.error _, t) => Stores storage s t ∨ storage.Unsyncs

theorem Saves.refused {α : Type} {e : String} :
    Saves storage s ((.error e, s) : Except String α × TransitionJournal ω) :=
  .inl (.kept rfl rfl)

theorem Saves.bind_pure {α β : Type} {m : TransitionM ω α} {f : α → β}
    (saves : Saves storage s (m.run s)) : Saves storage s ((m >>= fun a => pure (f a)).run s) := by
  rcases ran : m.run s with ⟨e | a, t⟩ <;> rw [ran] at saves
  · rw [run_bind_of_error ran]
    exact saves
  · rw [run_bind_of_ok ran]
    exact saves

theorem replaceEntries_saves (storage : Storage ω) (next : Table String TransitionRecord)
    (s : TransitionJournal ω) :
    Saves storage s ((replaceEntries storage.toEnvironment next).run s) := by
  simp only [replaceEntries, persist, run_reads_bind, run_modify_bind, run_attempt_bind]
  cases encoded : storage.encode ⟨version, next⟩ with
  | error => exact .refused
  | ok bytes =>
    by_cases fits : bytes.length ≤ maxBytes
    · simp only [run_bind_of_ok (run_require_of_holds fits _ _), replaceFile]
      rcases outcome : (storage.write bytes s.world).1 with _ | reason | reason
      · exact .saved encoded fits (storage.contents_written bytes s.world outcome)
      -- the write failed, so the table is put back
      · exact .inl (.kept rfl (storage.contents_unwritten bytes s.world reason outcome))
      · exact .inr ⟨bytes, s.world, reason, outcome⟩
    · simp only [run_bind_of_error (run_require_of_not fits _ _)]
      exact .refused

/-- Marking a record stores it where it is not applied yet. -/
theorem requireMarked_saves (storage : Storage ω) (s : TransitionJournal ω) (id : String)
    (original : TransitionRecord) (binding : Option SidecarHostBinding) (conflict : String) :
    Saves storage s ((match original.phase with
      | .applied => require (original.newBinding = binding) conflict
      | .intent => storeApplied storage.toEnvironment id (original.markApplied binding) :
        TransitionM ω Unit).run s) := by
  split
  · by_cases same : original.newBinding = binding
    · rw [run_require_of_holds same]
      exact .kept rfl rfl
    · rw [run_require_of_not same]
      exact .refused
  · exact run_ofExcept_bind_cases (fun _ _ => .refused) fun _ _ => replaceEntries_saves storage _ s

theorem JournalCall.saves (storage : Storage ω) (call : JournalCall) (s : TransitionJournal ω) :
    Saves storage s ((call.program storage.toEnvironment).run s) := by
  cases call with
  | beginTransition record =>
    have begun : Saves storage s
        ((Transitions.beginTransition storage.toEnvironment record).run s) := by
      refine run_ofExcept_bind_cases (fun _ _ => .refused) fun _ _ => ?_
      rw [run_reads_bind]
      split
      · split
        · exact .kept rfl rfl
        · exact .refused
      · refine run_require_bind_cases (fun _ => .refused) fun _ => ?_
        exact (replaceEntries_saves storage _ s).bind_pure
    exact begun.bind_pure
  | markApplied id binding =>
    rcases recordAt_ends id s with ⟨original, looked, -⟩ | ⟨e, missing⟩
    · rw [JournalCall.program, Transitions.markApplied, run_bind_of_ok looked]
      exact requireMarked_saves storage s id original (some binding) _
    · rw [JournalCall.program, Transitions.markApplied, run_bind_of_error missing]
      exact .refused
  | markTerminalApplied id =>
    rcases recordAt_ends id s with ⟨original, looked, -⟩ | ⟨e, missing⟩
    · rw [JournalCall.program, Transitions.markTerminalApplied, run_bind_of_ok looked]
      exact run_require_bind_cases (fun _ => .refused) fun _ =>
        requireMarked_saves storage s id original none _
    · rw [JournalCall.program, Transitions.markTerminalApplied, run_bind_of_error missing]
      exact .refused
  | clear id =>
    rw [JournalCall.program, Transitions.clear, run_reads_bind]
    split
    · exact .kept rfl rfl
    · exact replaceEntries_saves storage _ s

theorem OnDisk.stores (onDisk : OnDisk storage s.world s.entries) (stores : Stores storage s t) :
    OnDisk storage t.world t.entries := by
  cases stores with
  | kept entries contents =>
    unfold OnDisk at onDisk ⊢
    rw [contents, entries]
    exact onDisk
  | saved encoded fits present =>
    unfold OnDisk
    rw [present]
    exact ⟨fits, storage.decode_encode encoded⟩

end Writing

/-! ## Memory is disk -/

section Runs

variable {ω : Type}

/-- The journal is open, or there is only its file. -/
inductive Handle (ω : Type) where
  | closed (world : ω)
  | opened (journal : TransitionJournal ω)

def Handle.world : Handle ω → ω
  | .closed w => w
  | .opened journal => journal.world

/-- Opening the journal, which a restart does at any moment, or a call of it. -/
inductive JournalEvent where
  | openJournal
  | call (call : JournalCall)

/-- The journal that opening it gives. -/
def Handle.ofOpening : Except String (Table String TransitionRecord) × ω → Handle ω
  | (.ok entries, w) => .opened ⟨entries, entries, w⟩
  | (.error _, w) => .closed w

/-- The journal after a call; one that is not open has no calls. -/
def Handle.afterCall (storage : Storage ω) (call : JournalCall) : Handle ω → Handle ω
  | .closed w => .closed w
  | .opened journal => .opened ((call.program storage.toEnvironment).run journal).2

def Handle.after (storage : Storage ω) (handle : Handle ω) : JournalEvent → Handle ω
  | .openJournal => .ofOpening ((openJournal storage).run handle.world)
  | .call call => handle.afterCall storage call

variable {storage : Storage ω}

/-- An open journal is sound and is what the file says. -/
def Handle.Consistent (storage : Storage ω) : Handle ω → Prop
  | .closed _ => True
  | .opened journal => Sound journal.entries ∧ OnDisk storage journal.world journal.entries

theorem Handle.Consistent.after {handle : Handle ω} (consistent : handle.Consistent storage)
    (synced : ¬ storage.Unsyncs) (event : JournalEvent) :
    (handle.after storage event).Consistent storage := by
  cases event with
  | openJournal =>
    show (Handle.ofOpening _).Consistent storage
    rcases opened : (openJournal storage).run handle.world with ⟨_ | entries, w⟩
    · trivial
    · exact openJournal_ok opened
  | call call =>
    cases handle with
    | closed => trivial
    | opened journal =>
      obtain ⟨sound, onDisk⟩ := consistent
      refine ⟨call.sound sound, onDisk.stores ?_⟩
      have saves := call.saves storage journal
      generalize (call.program storage.toEnvironment).run journal = result at *
      obtain ⟨_ | _, t⟩ := result
      · exact saves.resolve_right synced
      · exact saves

/-- **What the journal holds in memory is what is on disk.**  Let a failed write leave the old
file.  Whatever file there was at first, and however the journal was opened, called and
opened again while writes failed, an open journal agrees with its file: the file, if there is
one, passes the check, which returns the pending records, and it opens again to the same
entries unless the directory or the file is refused.  There are never too many entries. -/
theorem memory_is_disk (storage : Storage ω) (synced : ¬ storage.Unsyncs) (start : ω)
    (events : List JournalEvent) {journal : TransitionJournal ω}
    (reached : events.foldl (Handle.after storage) (.closed start) = .opened journal) :
    OnDisk storage journal.world journal.entries ∧
      (∀ bytes, storage.contents journal.world = some bytes →
        parseAndValidate storage.decode bytes = .ok journal.pending) ∧
      ((storage.prepare journal.world).1 = none →
        (storage.read (storage.prepare journal.world).2).1 = none →
        ∃ entries w, (openJournal storage).run journal.world = (.ok entries, w) ∧
          ∀ id, entries.lookup id = journal.entries.lookup id) ∧
      journal.entries.entries.length ≤ maxEntries := by
  have consistent : (events.foldl (Handle.after storage) (.closed start)).Consistent storage :=
    List.foldlRecOn events _ trivial fun _ held event _ => held.after synced event
  rw [reached] at consistent
  obtain ⟨sound, onDisk⟩ := consistent
  refine ⟨onDisk, ?_, openJournal_of_onDisk sound onDisk, sound.capped⟩
  intro bytes present
  unfold OnDisk at onDisk
  rw [present] at onDisk
  exact onDisk.parseAndValidate sound

end Runs

/-! ### A small storage

The files are numbers in unary, and each stands for a table on a fixed shelf. -/

def shelfStorage (shelf : List (Table String TransitionRecord)) :
    Storage (Option (List UInt8)) where
  path := "session-transition-journal.json"
  encode disk :=
    if disk.version = version then
      match shelf.findIdx? fun entries => decide (entries.entries = disk.entries.entries) with
      | some index => .ok (List.replicate index 0)
      | none => .error "not on the shelf"
    else .error "unknown version"
  decode bytes :=
    match shelf[bytes.length]? with
    | some entries => .ok ⟨version, entries⟩
    | none => .error "not on the shelf"
  write bytes _ := (.written, some bytes)
  contents w := w
  prepare w := (none, w)
  read w := (none, w)
  decode_encode := by
    intro disk bytes encoded
    split at encoded
    next known =>
      split at encoded
      next index place =>
        cases encoded
        obtain ⟨bound, same, -⟩ := List.findIdx?_eq_some_iff_getElem.mp place
        refine ⟨⟨version, disk.entries⟩, ?_, known.symm, fun _ => rfl⟩
        rw [length_replicate, List.getElem?_eq_getElem bound, AList.ext (of_decide_eq_true same)]
      · cases encoded
    · cases encoded
  contents_written _ _ _ := rfl
  contents_unwritten _ _ _ failed := by cases failed
  contents_prepare _ := rfl
  contents_read _ := rfl

def shelfBinding (epoch : Nat) : SidecarHostBinding where
  deviceId := "dev"
  workspaceId := "ws"
  ownerPrincipal := "dana"
  hostNonce := "nonce"
  controllerEpoch := epoch
  bindingExpiresUnix := 500
  hostExpiresUnix := 900
  childPid := none
  childProcessBirth := none

/-- The record of a session that is being closed. -/
def closeRecord : TransitionRecord where
  transitionId := "t"
  kind := .close
  phase := .intent
  sessionId := "s"
  deviceId := "dev"
  workspaceId := "ws"
  authenticatedPrincipal := "dana"
  oldBinding := shelfBinding 1
  target := ⟨"dana", 1, 500, false, none, true⟩
  newBinding := none
  createdUnix := 100
  expiresUnix := 900

def closeShelf : List (Table String TransitionRecord) :=
  [∅, (∅ : Table String TransitionRecord).insert "t" closeRecord,
    (∅ : Table String TransitionRecord).insert "t"
      (closeRecord.markApplied (some (shelfBinding 2)))]

theorem memory_is_disk_close :
    OnDisk (shelfStorage closeShelf) (some [0]) (AList.insert "t" closeRecord ∅) ∧
      parseAndValidate (shelfStorage closeShelf).decode [0] = .ok [closeRecord] := by
  have reached : [.openJournal, .call (.beginTransition closeRecord)].foldl
      (Handle.after (shelfStorage closeShelf)) (.closed none) =
      .opened ⟨insert "t" closeRecord ∅, insert "t" closeRecord ∅, some [0]⟩ := rfl
  obtain ⟨onDisk, parsed, -⟩ :=
    memory_is_disk (shelfStorage closeShelf) (by rintro ⟨_, _, _, ⟨⟩⟩) none _ reached
  exact ⟨onDisk, parsed [0] rfl⟩

/-! ## Records that end the host

A terminal transition has no successor binding, says the record.  The validation checks
that kind and target agree on being terminal, but not that such a record is bare, and
`mark_applied` stores a binding in any record that is still an intent. -/

/-- A record that ends the host carries no successor binding. -/
def TransitionRecord.Unbound (record : TransitionRecord) : Prop :=
  record.kind.isTerminal = true → record.newBinding = none

instance (record : TransitionRecord) : Decidable record.Unbound :=
  inferInstanceAs (Decidable (_ → _))

def TerminalUnbound (entries : Table String TransitionRecord) : Prop :=
  ∀ id record, entries.lookup id = some record → record.Unbound

/-- A call that puts no binding into a terminal record. -/
def JournalCall.LeavesUnbound (entries : Table String TransitionRecord) : JournalCall → Prop
  | .beginTransition record => record.Unbound
  | .markApplied id _ => ∀ record, entries.lookup id = some record → record.kind.isTerminal = false
  | .markTerminalApplied _ => True
  | .clear _ => True

section Terminal

variable {ω : Type} {s t : TransitionJournal ω}

theorem terminalUnbound_insert_iff (unbound : TerminalUnbound entries) (id : String)
    (record : TransitionRecord) : TerminalUnbound (entries.insert id record) ↔ record.Unbound := by
  constructor
  · intro after
    exact after id record (lookup_insert entries)
  · intro bare key stored found
    rcases lookup_insert_some found with ⟨rfl, rfl⟩ | older
    · exact bare
    · exact unbound key stored older

/-- One answered call keeps the terminal records bare exactly when it puts no binding
into one. -/
theorem JournalCall.Done.unbound_iff (done : call.Done s t) (unbound : TerminalUnbound s.entries) :
    TerminalUnbound t.entries ↔ call.LeavesUnbound s.entries := by
  cases call with
  | beginTransition =>
    obtain ⟨-, ⟨found, rfl⟩ | ⟨-, replaced⟩⟩ := done
    · exact iff_of_true unbound (unbound _ _ found)
    · rw [replaced.entries]
      exact terminalUnbound_insert_iff unbound _ _
  | markApplied id =>
    obtain ⟨original, found, ⟨-, bound, rfl⟩ | ⟨-, -, replaced⟩⟩ := done
    · refine iff_of_true unbound ?_
      intro record there
      obtain rfl : original = record := Option.some.inj (found.symm.trans there)
      have bare := unbound id original found
      rw [TransitionRecord.Unbound, bound] at bare
      simpa using bare
    · rw [replaced.entries, terminalUnbound_insert_iff unbound]
      simp [TransitionRecord.Unbound, TransitionRecord.markApplied, JournalCall.LeavesUnbound,
        found]
  | markTerminalApplied =>
    obtain ⟨original, found, ⟨-, -, rfl⟩ | ⟨-, -, replaced⟩⟩ := done
    · exact iff_of_true unbound trivial
    · rw [replaced.entries, terminalUnbound_insert_iff unbound]
      exact iff_of_true (fun _ => rfl) trivial
  | clear id =>
    rcases done with ⟨-, rfl⟩ | ⟨-, replaced⟩
    · exact iff_of_true unbound trivial
    · rw [replaced.entries]
      exact iff_of_true (fun key record found => unbound key record (lookup_erase_some found))
        trivial

/-- The call answers. -/
def Answers (env : Environment ω) (s : TransitionJournal ω) (call : JournalCall)
    (t : TransitionJournal ω) : Prop :=
  (call.program env).run s = (.ok (), t)

/-- The terminal records in memory are bare, and so are those the check finds in the
file. -/
def UnboundThroughout (storage : Storage ω) (j : TransitionJournal ω) : Prop :=
  TerminalUnbound j.entries ∧ ∀ bytes records, storage.contents j.world = some bytes →
      parseAndValidate storage.decode bytes = .ok records → ∀ record ∈ records, record.Unbound

variable {storage : Storage ω}

theorem unboundThroughout_iff (sound : Sound s.entries)
    (onDisk : OnDisk storage s.world s.entries) :
    UnboundThroughout storage s ↔ TerminalUnbound s.entries := by
  refine ⟨And.left, fun unbound => ⟨unbound, ?_⟩⟩
  intro bytes records present parsed record member
  unfold OnDisk at onDisk
  rw [present] at onDisk
  rw [onDisk.parseAndValidate sound] at parsed
  cases parsed
  obtain ⟨⟨id, stored⟩, listed, rfl⟩ := mem_map.mp member
  exact unbound id stored (mem_sortedEntries_iff.mp listed)

/-- **When terminal records stay bare.**  A journal is opened and then called, and every
call answers.  In every state it comes through, the terminal records in memory and those
of the file carry no successor binding if and only if those of the file it was opened
from carried none, every terminal record it was asked to write down carried none, and
`mark_applied` was only called for records that are not terminal. -/
theorem terminal_unbound_iff (storage : Storage ω) {w w' : ω}
    {entries : Table String TransitionRecord} {calls : List JournalCall}
    {last : TransitionJournal ω} (opened : (openJournal storage).run w = (.ok entries, w'))
    (run : Run (Answers storage.toEnvironment) ⟨entries, entries, w'⟩ calls last) :
    (∀ mid, Run.Visits (Answers storage.toEnvironment) ⟨entries, entries, w'⟩ calls mid →
        UnboundThroughout storage mid) ↔
      TerminalUnbound entries ∧
        ∀ mid call,
          Run.Takes (Answers storage.toEnvironment) ⟨entries, entries, w'⟩ calls mid call →
            call.LeavesUnbound mid.entries := by
  let Good : TransitionJournal ω → Prop := fun j =>
    Sound j.entries ∧ OnDisk storage j.world j.entries
  have start : Good ⟨entries, entries, w'⟩ := openJournal_ok opened
  have preserves : ∀ {a call b}, Good a → Answers storage.toEnvironment a call b → Good b := by
    rintro a call b ⟨sound, onDisk⟩ answered
    have saves := call.saves storage a
    rw [answered] at saves
    exact ⟨((call.ends _ a).ok answered).sound sound, onDisk.stores saves⟩
  have exactly : ∀ {a call b}, Good a → UnboundThroughout storage a →
      Answers storage.toEnvironment a call b →
      (UnboundThroughout storage b ↔ call.LeavesUnbound a.entries) := by
    intro a call b good unbound answered
    obtain ⟨sound, onDisk⟩ := preserves good answered
    rw [unboundThroughout_iff sound onDisk]
    exact ((call.ends _ a).ok answered).unbound_iff unbound.1
  rw [← unboundThroughout_iff start.1 start.2]
  exact run.throughout_iff (fun _ _ _ _ left right => congrArg Prod.snd (left.symm.trans right))
    preserves exactly start

end Terminal

theorem close_begins : Answers (shelfStorage closeShelf).toEnvironment ⟨∅, ∅, none⟩
    (.beginTransition closeRecord)
    ⟨insert "t" closeRecord ∅, insert "t" closeRecord ∅, some [0]⟩ :=
  rfl

/-- A journal that is asked to write down a bare closing record. -/
theorem terminal_unbound_iff_close : closeRecord.Unbound ∧
      ∀ mid, Run.Visits (Answers (shelfStorage closeShelf).toEnvironment) ⟨∅, ∅, none⟩
        [.beginTransition closeRecord] mid → UnboundThroughout (shelfStorage closeShelf) mid := by
  refine ⟨fun _ => rfl, ?_⟩
  have opened : (openJournal (shelfStorage closeShelf)).run none = (.ok ∅, none) := rfl
  refine (terminal_unbound_iff (shelfStorage closeShelf) opened
    (.next close_begins (.done _))).mpr ⟨?_, ?_⟩
  · intro id record found
    cases found
  · rintro mid call ⟨before, after, split, -⟩
    have member : call ∈ [JournalCall.beginTransition closeRecord] := by
      rw [split]
      simp
    obtain rfl := mem_singleton.mp member
    exact fun _ => rfl

/-- The journal accepts a successor binding for a record that closes the session, and
the file with that record passes the check. -/
theorem close_record_bound : ∃ j, Run (Answers (shelfStorage closeShelf).toEnvironment) ⟨∅, ∅, none⟩
        [.beginTransition closeRecord, .markApplied "t" (shelfBinding 2)] j ∧
      ¬ TerminalUnbound j.entries ∧
      ∃ bytes record, (shelfStorage closeShelf).contents j.world = some bytes ∧
        parseAndValidate (shelfStorage closeShelf).decode bytes = .ok [record] ∧
        ¬ record.Unbound := by
  let bound := closeRecord.markApplied (some (shelfBinding 2))
  have marked : Answers (shelfStorage closeShelf).toEnvironment
      ⟨insert "t" closeRecord ∅, insert "t" closeRecord ∅, some [0]⟩
      (.markApplied "t" (shelfBinding 2))
      ⟨insert "t" bound ∅, insert "t" bound ∅, some [0, 0]⟩ := rfl
  refine ⟨_, .next close_begins (.next marked (.done _)), ?_, [0, 0], bound, rfl, rfl, by decide⟩
  intro unbound
  exact absurd (unbound "t" bound rfl) (by decide)

end OwnMesh.Transitions
