import OwnMesh.Foundations.Bytes
import OwnMesh.Supervisor.Calls

/-!
# The window of a spool

A spool keeps the end of the stream that was put into it: `Window` says which bytes these are,
and that the base is the number of bytes dropped before them.  Pages read from the base on show
each of them once, and the file that holds a spool gives it back (`spool_window`).  The stream
consists of the appends whose file was put in place, also where the write was then reported as
failed; one that is longer than the whole window is refused (`append_refused`).
-/

namespace OwnMesh.Supervisor

open Foundations Program List

/-- `OMSP001` and a zero. -/
def spoolMagic : List UInt8 := [0x4f, 0x4d, 0x53, 0x50, 0x30, 0x30, 0x31, 0]
def spoolHeaderBytes : Nat := 16

def encodeSpool (spool : Spool) : List UInt8 :=
  spoolMagic ++ leBytes 8 spool.base ++ spool.retained

def decodeSpool (bytes : List UInt8) : Except String Spool :=
  if bytes.length < spoolHeaderBytes ∨ bytes.take 8 ≠ spoolMagic then
    .error "supervisor spool header is corrupt"
  else if supervisorSpoolMaxBytes + spoolHeaderBytes < bytes.length then
    .error "supervisor spool exceeds retained byte budget"
  else
    .ok
      { base := ofLeBytes ((bytes.drop 8).take 8)
        retained := bytes.drop spoolHeaderBytes }

variable {ω : Type} {env : Environment ω} {stream bytes : List UInt8} {spool next : Spool}

/-- The spool of a stream of a host. -/
def SupervisorState.spoolAt (s : SupervisorState ω) (id : String) (stderr : Bool) : Option Spool :=
  (s.hosts.lookup id).bind (·.stream stderr)

/-- Appends to a spool, however they end, and the stream of those whose file was put in
place. -/
inductive Spooled (env : Environment ω) : List UInt8 → Spool → Prop where
  | empty : Spooled env [] ⟨0, []⟩
  | append {stream bytes : List UInt8} {spool next : Spool} {hosted : Hosted} {id : String}
      {stderr : Bool} {s : SupervisorState ω} (before : Spooled env stream spool)
      (found : s.hosts.lookup id = some hosted) (held : hosted.stream stderr = some spool)
      (after : ((appendSpool env hosted id stderr spool bytes).run s).2.spoolAt id stderr =
        some next) :
      Spooled env (if (landed env spool bytes s.world).isSome then stream ++ bytes else stream) next

/-- A page that is read in full, as long as the file can be read. -/
def PageAt (env : Environment ω) (spool : Spool) (maxBytes total offset : Nat)
    (bytes : List UInt8) (next : Option Nat) : Prop :=
  ∀ s, (env.readSpool s.world).1 = none →
    ((readSpoolPage env spool offset maxBytes).run s).1 = .ok ⟨bytes, next, total, false⟩

/-- The spool holds the end of the stream. -/
structure Window (stream : List UInt8) (spool : Spool) : Prop where
  base : spool.base = stream.length - supervisorSpoolMaxBytes
  retained : spool.retained = stream.drop spool.base
  counted : spool.base < 2 ^ 64

/-- What an append puts in place fits, and is the longer spool. -/
theorem landed_some {w : ω} (lands : landed env spool bytes w = some next) :
    bytes.length ≤ supervisorSpoolMaxBytes ∧ spool.append bytes = .ok next := by
  unfold landed at lands
  split at lands
  next fits =>
    refine ⟨fits.1, ?_⟩
    generalize spool.append bytes = answer at lands ⊢
    generalize (env.writeSpool (env.readSpool w).2).1 = outcome at lands
    cases answer with
    | error => cases lands
    | ok => cases outcome <;> cases lands <;> rfl
  next => cases lands

section Appending

variable {hosted : Hosted} {id : String} {stderr : Bool} {s : SupervisorState ω}

theorem spoolAt_of_books {t : SupervisorState ω} (same : t.books = s.books) :
    t.spoolAt id stderr = s.spoolAt id stderr := by
  rw [SupervisorState.spoolAt, (SupervisorState.books_eq_iff.mp same).1, SupervisorState.spoolAt]

/-- The spool after an append is the one put in place, or the one before. -/
theorem appendSpool_spoolAt (env : Environment ω) (bytes : List UInt8)
    (found : s.hosts.lookup id = some hosted) (held : hosted.stream stderr = some spool) :
    ((appendSpool env hosted id stderr spool bytes).run s).2.spoolAt id stderr =
      some ((landed env spool bytes s.world).getD spool) := by
  have books := appendSpool_books env hosted id stderr spool bytes s
  cases lands : landed env spool bytes s.world with
  | none =>
    rw [lands] at books
    rw [spoolAt_of_books books, SupervisorState.spoolAt, found]
    exact held
  | some next =>
    rw [lands] at books
    have hosts := congrArg Prod.fst books
    dsimp only [SupervisorState.books] at hosts
    rw [SupervisorState.spoolAt, hosts, AList.lookup_insert]
    cases stderr with
    | true | false => rfl

end Appending

namespace Window

theorem tail (window : Window stream spool) :
    spool.base + spool.retained.length = stream.length := by
  rw [window.retained, length_drop, window.base]
  omega

theorem append (window : Window stream spool) (fits : bytes.length ≤ supervisorSpoolMaxBytes)
    (appended : spool.append bytes = .ok next) : Window (stream ++ bytes) next := by
  have tail := window.tail
  have base := window.base
  simp only [Spool.append] at appended
  split_ifs at appended with counted
  obtain rfl := Except.ok.inj appended
  refine ⟨?_, ?_, not_le.mp counted⟩ <;> dsimp only
  · rw [length_append]
    omega
  · rw [drop_append_of_le_length (by omega), window.retained, drop_drop]

/-- However an append ends, the spool is the window of what was put in place. -/
theorem appendSpool (window : Window stream spool) {hosted : Hosted} {id : String} {stderr : Bool}
    {s : SupervisorState ω} (found : s.hosts.lookup id = some hosted)
    (held : hosted.stream stderr = some spool)
    (after : ((Supervisor.appendSpool env hosted id stderr spool bytes).run s).2.spoolAt id stderr =
      some next) :
    Window (if (landed env spool bytes s.world).isSome then stream ++ bytes else stream) next := by
  rw [appendSpool_spoolAt _ _ found held] at after
  cases lands : landed env spool bytes s.world with
  | none =>
    rw [lands] at after
    cases after
    exact window
  | some longer =>
    rw [lands] at after
    cases after
    obtain ⟨fits, appended⟩ := landed_some lands
    exact window.append fits appended

theorem of_spooled (spooled : Spooled env stream spool) : Window stream spool := by
  induction spooled with
  | empty => exact ⟨rfl, rfl, by decide⟩
  | append _ found held after ih => exact ih.appendSpool found held after

variable (env) in
/-- A page between the base and the tail. -/
theorem page (window : Window stream spool) (counted : stream.length < 2 ^ 64)
    {maxBytes offset : Nat} (some_ : 0 < maxBytes) (budget : maxBytes ≤ supervisorSpoolMaxBytes)
    (low : spool.base ≤ offset) (high : offset ≤ stream.length) :
    PageAt env spool maxBytes stream.length offset ((stream.drop offset).take maxBytes)
      (if offset + maxBytes < stream.length then some (offset + maxBytes) else none) := by
  intro s readable
  have read : (attemptTo (fun reason => reason) env.readSpool).run s =
      (.ok (), { s with world := (env.readSpool s.world).2 }) :=
    attemptTo_ok_iff.mpr ⟨readable, rfl⟩
  have bytes : spool.retained.drop (offset - spool.base) = stream.drop offset := by
    rw [window.retained, drop_drop, Nat.add_sub_cancel' low]
  rw [readSpoolPage, run_bind_of_ok (run_require_of_holds (by omega) _ _), run_bind_of_ok read,
    Spool.readPage, window.tail, if_neg (not_le.mpr counted), if_neg (not_lt.mpr low),
    if_neg (not_lt.mpr high), bytes]
  have ends : offset + ((stream.drop offset).take maxBytes).length =
      min (offset + maxBytes) stream.length := by
    rw [length_take, length_drop]
    omega
  simp only [run_ofExcept, ends]
  split_ifs
  · rw [Nat.min_eq_left (by omega)]
  · omega
  · omega
  · rfl

theorem decode_encode (window : Window stream spool) :
    decodeSpool (encodeSpool spool) = .ok spool := by
  have tail := window.tail
  have base := window.base
  have header : (leBytes 8 spool.base).length = 8 := length_leBytes ..
  have size : (encodeSpool spool).length = spoolHeaderBytes + spool.retained.length := by
    rw [encodeSpool, length_append, length_append, header]
    rfl
  have magic : (encodeSpool spool).take 8 = spoolMagic := rfl
  have rest : (encodeSpool spool).drop 8 = leBytes 8 spool.base ++ spool.retained := rfl
  have payload : (encodeSpool spool).drop spoolHeaderBytes = spool.retained := by
    rw [show spoolHeaderBytes = 8 + 8 from rfl, ← drop_drop, rest, drop_left' header]
  rw [decodeSpool, if_neg (by rw [size, not_or, not_not]; exact ⟨by omega, magic⟩),
    if_neg (by omega), rest, take_left' header, payload, ofLeBytes_leBytes window.counted]

end Window

/-- **The window of a spool.**  Whatever has been put into a spool, its tail is the length of
the stream and its base what is dropped of it; a later append moves neither of them back; the
file gives the spool back; and while the tail fits into an offset, a page between base and tail
shows the bytes of the stream there, and the pages from the base on show the retained bytes,
each once and in order. -/
theorem spool_window (spooled : Spooled env stream spool) :
    spool.base + spool.retained.length = stream.length ∧
      spool.base = stream.length - min stream.length supervisorSpoolMaxBytes ∧
      (∀ hosted id stderr bytes s next, s.hosts.lookup id = some hosted →
        hosted.stream stderr = some spool →
        ((appendSpool env hosted id stderr spool bytes).run s).2.spoolAt id stderr = some next →
          spool.base ≤ next.base ∧ stream.length ≤ next.base + next.retained.length) ∧
      decodeSpool (encodeSpool spool) = .ok spool ∧
      (stream.length < 2 ^ 64 → ∀ maxBytes, 0 < maxBytes → maxBytes ≤ supervisorSpoolMaxBytes →
        (∀ offset, spool.base ≤ offset → offset ≤ stream.length → ∃ next,
          PageAt env spool maxBytes stream.length offset
            ((stream.drop offset).take maxBytes) next) ∧
        Pages (PageAt env spool maxBytes stream.length) spool.base (stream.drop spool.base)) := by
  have window := Window.of_spooled spooled
  refine ⟨window.tail, ?_, ?_, window.decode_encode, ?_⟩
  · rw [window.base]
    omega
  · intro hosted id stderr bytes s next found held after
    have later := window.appendSpool found held after
    rw [later.tail, later.base, window.base]
    split
    · rw [length_append]
      omega
    · exact ⟨le_refl _, le_refl _⟩
  · intro counted maxBytes some_ budget
    have page {offset} (low : spool.base ≤ offset) (high : offset ≤ stream.length) :=
      window.page env counted some_ budget low high
    refine ⟨fun offset low high => ⟨_, page low high⟩, ?_⟩
    refine Pages.all (fun offset => stream.drop offset)
      (fun offset => spool.base ≤ offset ∧ offset ≤ stream.length) ?_
      ⟨le_refl _, window.tail ▸ Nat.le_add_right ..⟩
    intro offset ⟨low, high⟩
    have read := page low high
    split_ifs at read
    · refine .inr ⟨_, _, read, ?_, ?_, by omega, by omega⟩
      · rw [ne_eq, ← length_eq_zero_iff, length_take, length_drop]
        omega
      · rw [← drop_drop, take_append_drop]
    · rw [take_of_length_le (by rw [length_drop]; omega)] at read
      exact .inl read

def idleHost : Hosted := ⟨sampleManifest "h" 1, sampleManifest "h" 1, ⟨0, []⟩, none⟩

def idleState : SupervisorState Int := ⟨(∅ : Table String Hosted).insert "h" idleHost, [], ∅, 0⟩

/-- A file system that puts files in place, but does not report it. -/
def unsyncedEnvironment : Environment Int :=
  { clockEnvironment with writeSpool := fun w => (.unsynced "sync", w) }

/-- Two bytes are put into a new spool, though the append fails. -/
theorem spool_window_two : Spooled unsyncedEnvironment [1, 2] ⟨0, [1, 2]⟩ ∧
    decodeSpool (encodeSpool ⟨0, [1, 2]⟩) = .ok ⟨0, [1, 2]⟩ := by
  have after : ((appendSpool unsyncedEnvironment idleHost "h" false ⟨0, []⟩ [1, 2]).run
      idleState).2.spoolAt "h" false = some ⟨0, [1, 2]⟩ := rfl
  have spooled : Spooled unsyncedEnvironment [1, 2] ⟨0, [1, 2]⟩ := .append .empty rfl rfl after
  exact ⟨spooled, (spool_window spooled).2.2.2.1⟩

/-- An append of one byte more than the budget leaves all as it is: the tail stays at 0. -/
theorem append_refused : (appendSpool clockEnvironment idleHost "h" false ⟨0, []⟩
      (replicate (supervisorSpoolMaxBytes + 1) 0)).run idleState =
        (.error "supervisor output chunk exceeds spool budget", idleState) := by
  have long : ¬ (replicate (supervisorSpoolMaxBytes + 1) (0 : UInt8)).length ≤
      supervisorSpoolMaxBytes := by
    rw [length_replicate]
    omega
  generalize replicate (supervisorSpoolMaxBytes + 1) (0 : UInt8) = bytes at long ⊢
  unfold appendSpool
  exact run_bind_of_error (run_require_of_not long _ _)

end OwnMesh.Supervisor
