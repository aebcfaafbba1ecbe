import OwnMesh.Daemon.Effects
import OwnMesh.Daemon.LiveOutput
import OwnMesh.Sessions.Ring

/-!
# The note of an exit

A drain of a host that has exited ends with a note in the session.  The host goes on saying
that it exited, and nothing remembers that the note was made, so every drain makes it again; a
note that cannot be written is taken back.  The ring of the session receives one note exactly
when one of the drains has its note written (`exitNote_once_iff`).

The notes that come in with a drain are told from older ones by their numbers, so the numbers
must not wrap: a drain appends at most `chunksPerDrain` chunks.
-/

namespace OwnMesh.Daemon

open Foundations Ipc Sessions Transitions Program List

variable {ω α β : Type} {env : DrainEnvironment ω} {id : String} {d d' : DaemonRuntime ω}
  {first top : Nat} {session : Session}

/-- The codes a host can report: none yet, success or failure. -/
def exitCodes : List (Option Nat) := [none, some 0, some 1]

def IsExitNote (chunk : OutputChunk) : Prop :=
  chunk.stream = .system ∧ chunk.data ∈ exitCodes.map exitNote

instance : DecidablePred IsExitNote := fun _ => inferInstanceAs (Decidable (_ ∧ _))

/-- The child of the host has exited: whenever its output can be read, it says so.  A byte that
is read is at most three bytes of text. -/
structure Exited (env : DrainEnvironment ω) (id : String) : Prop where
  reports : ∀ max w output, (env.drainOutput id max w).1 = .ok output →
    output.exited = true ∧ output.exitCode ∈ exitCodes
  short : ∀ max w output, (env.drainOutput id max w).1 = .ok output →
    output.text.length ≤ 3 * max

/-- The exit notes in the ring of the session that have the number or a later one. -/
def exitNotes (id : String) (first : Nat) (m : SessionManager) : Nat :=
  match m.sessions.lookup id with
  | some session => session.replay.countP fun chunk => first ≤ chunk.seq ∧ IsExitNote chunk
  | none => 0

/-- An open session that keeps what is pushed, and whose chunks have numbers below the next. -/
structure Receives (session : Session) : Prop where
  opened : session.info.state ≠ .closed
  limit : 0 < session.replayLimit
  counted : session.replayBytes ≤ chunkBytes session.replay
  numbered : ∀ chunk ∈ session.replay, chunk.seq < session.info.nextSeq

/-- No exit note has the number or a later one. -/
structure Unnoted (first : Nat) (session : Session) : Prop where
  reached : first ≤ session.info.nextSeq
  none : ∀ chunk ∈ session.replay, first ≤ chunk.seq → ¬ IsExitNote chunk

theorem Receives.unnoted (receives : Receives session) : Unnoted session.info.nextSeq session :=
  ⟨le_rfl, fun chunk member late =>
    absurd (receives.numbered chunk member) (not_lt.mpr late)⟩

section Push

variable {budget : Nat} {data : String} (stream : StreamKind)
  (receives : Receives session) (small : session.info.nextSeq + 1 < 2 ^ 64)
  (size : data.utf8ByteSize ≤ budget)

include small in
theorem nextSeq_pushChunk (chunk : OutputChunk) :
    (session.pushChunk budget chunk).info.nextSeq = session.info.nextSeq + 1 :=
  Nat.mod_eq_of_lt small

include receives size in
theorem Receives.keeps : ∃ before, before <:+ session.replay ∧
    (session.pushChunk budget ⟨session.info.nextSeq, data, stream⟩).replay =
      before ++ [⟨session.info.nextSeq, data, stream⟩] := by
  obtain ⟨before, suffix, kept, -⟩ := pushChunk_keepsLast receives.counted receives.limit
    ⟨session.info.nextSeq, data, stream⟩ size
  exact ⟨before, suffix, kept⟩

include receives small size

theorem Receives.push :
    Receives (session.pushChunk budget ⟨session.info.nextSeq, data, stream⟩) := by
  obtain ⟨before, suffix, kept, most⟩ := pushChunk_keepsLast receives.counted receives.limit
    ⟨session.info.nextSeq, data, stream⟩ size
  refine ⟨receives.opened, receives.limit, most, ?_⟩
  rw [nextSeq_pushChunk small, show (session.pushChunk budget _).replay = _ from kept]
  intro chunk member
  rcases mem_append.mp member with old | new
  · exact Nat.lt_succ_of_lt (receives.numbered chunk (suffix.subset old))
  · rw [mem_singleton.mp new]
    exact Nat.lt_succ_self _

theorem Unnoted.push (unnoted : Unnoted first session)
    (other : ∀ seq, ¬ IsExitNote ⟨seq, data, stream⟩) :
    Unnoted first (session.pushChunk budget ⟨session.info.nextSeq, data, stream⟩) := by
  obtain ⟨before, suffix, kept⟩ := receives.keeps stream size
  refine ⟨?_, ?_⟩
  · rw [nextSeq_pushChunk small]
    exact Nat.le_succ_of_le unnoted.reached
  · rw [kept]
    intro chunk member
    rcases mem_append.mp member with old | new
    · exact unnoted.none chunk (suffix.subset old)
    · rw [mem_singleton.mp new]
      exact fun _ => other _

end Push

/-! ## What a drain appends -/

/-- The host runs, and the session is ready for a note: its next number is at most `top`, and no
exit note has the number `first` or a later one. -/
structure Awaits (id : String) (first top : Nat) (d : DaemonRuntime ω) : Prop where
  live : d.liveHosts.contains id = true
  room : 25 ≤ d.sessions.maxReplayBytes
  session : ∃ session, d.sessions.sessions.lookup id = some session ∧ Receives session ∧
    Unnoted first session ∧ session.info.nextSeq ≤ top

theorem Awaits.mono (awaits : Awaits id first top d) {top' : Nat} (higher : top ≤ top') :
    Awaits id first top' d := by
  obtain ⟨live, room, session, found, receives, unnoted, numbers⟩ := awaits
  exact ⟨live, room, session, found, receives, unnoted, numbers.trans higher⟩

/-- The session after output that it takes. -/
theorem Awaits.push (awaits : Awaits id first top d) (small : top + 1 < 2 ^ 64) {data : String}
    {stream : StreamKind} (takes : TakesOutput d.sessions id data session) {first' : Nat}
    (unnoted : Unnoted first' (session.pushChunk d.sessions.maxReplayBytes
      ⟨session.info.nextSeq, data, stream⟩)) :
    Awaits id first' (top + 1)
      { d with sessions := ((pushOutput id data stream).run d.sessions).2 } := by
  obtain ⟨live, room, there, found, receives, -, numbers⟩ := awaits
  obtain rfl := Option.some.inj (takes.found.symm.trans found)
  have fits : session.info.nextSeq + 1 < 2 ^ 64 := by omega
  rw [takes.run stream]
  refine ⟨live, room, _, ?_, receives.push _ fits takes.budget, unnoted, ?_⟩
  · rw [Table.lookup_adjust_self, found]
    rfl
  · rw [nextSeq_pushChunk fits]
    exact Nat.succ_le_succ numbers

theorem Awaits.exitNotes_eq (awaits : Awaits id first top d) :
    exitNotes id first d.sessions = 0 := by
  obtain ⟨-, -, session, found, -, unnoted, -⟩ := awaits
  rw [exitNotes, found]
  refine countP_eq_zero.mpr fun chunk member => ?_
  rw [decide_eq_true_eq]
  exact fun ⟨late, note⟩ => unnoted.none chunk member late note

/-- The program appends no exit note, and at most so many chunks; it may go back to the sessions
of `start`. -/
def Feeds (id : String) (start : DaemonRuntime ω) (count : Nat) (m : DaemonM ω α) : Prop :=
  ∀ d first top, top + count < 2 ^ 64 → Awaits id first top start → Awaits id first top d →
    Awaits id first (top + count) (m.run d).2

namespace Feeds

variable {start : DaemonRuntime ω} {count more : Nat} {m : DaemonM ω α} {next : α → DaemonM ω β}

theorem mono (feeds : Feeds id start count m) (higher : count ≤ more) : Feeds id start more m :=
  fun d first top small back awaits =>
    (feeds d first top (by omega) back awaits).mono (Nat.add_le_add_left higher top)

theorem pure {a : α} : Feeds id start count (pure a : DaemonM ω α) :=
  fun _ _ _ _ _ awaits => awaits.mono (Nat.le_add_right _ _)

theorem bind (feeds : Feeds id start count m) (rest : ∀ a, Feeds id start more (next a)) :
    Feeds id start (count + more) (m >>= next) := by
  intro d first top small back awaits
  have middle := feeds d first top (by omega) back awaits
  rw [← Nat.add_assoc]
  rcases ran : m.run d with ⟨e | a, d'⟩ <;> rw [ran] at middle
  · rw [run_bind_of_error ran]
    exact middle.mono (Nat.le_add_right _ _)
  · rw [run_bind_of_ok ran]
    exact rest a d' first (top + count) (by omega) (back.mono (Nat.le_add_right _ _)) middle

theorem ask (question : ω → α × ω) : Feeds id start 0 (Daemon.ask question : DaemonM ω α) :=
  fun _ _ _ _ _ awaits => ⟨awaits.live, awaits.room, awaits.session⟩

theorem whenever {c : Prop} [Decidable c] {m : DaemonM ω Unit} (feeds : Feeds id start count m) :
    Feeds id start count (whenever c m) := by
  rw [Program.whenever]
  split
  · exact feeds
  · exact Feeds.pure

theorem forEach {body : α → DaemonM ω Unit} (list : List α)
    (each : ∀ a ∈ list, Feeds id start 1 (body a)) :
    Feeds id start list.length (forEach body list) := by
  induction list with
  | nil => exact Feeds.pure
  | cons a rest ih =>
    rw [length_cons, Nat.add_comm]
    exact bind (each a mem_cons_self) fun _ => ih fun b there => each b (mem_cons_of_mem a there)

/-- Sessions that cannot be written are put back as they were. -/
theorem commit : Feeds id start 0 (commitSessions env.toEnvironment start.sessions) := by
  intro d first top _ back awaits
  rcases written : env.writeSessions d.sessions d.world with ⟨_ | reason, w⟩
  · rw [commitSessions_of_written written]
    exact ⟨awaits.live, awaits.room, awaits.session⟩
  · rw [commitSessions_of_failed written]
    exact ⟨awaits.live, back.room, back.session⟩

theorem pass {body : SessionManager → DaemonM ω α}
    (each : ∀ start : DaemonRuntime ω, Feeds id start count (body start.sessions)) :
    Feeds id start count (reads DaemonRuntime.sessions >>= body) :=
  fun d first top small _ awaits => each d d first top small awaits awaits

end Feeds

variable {start : DaemonRuntime ω}

theorem pushOutput_feeds {data : String} {stream : StreamKind}
    (other : ∀ seq, ¬ IsExitNote ⟨seq, data, stream⟩) :
    Feeds id start 1 (withSessions (Sessions.discard (pushOutput id data stream))) := by
  intro d first top small _ awaits
  have after : ((withSessions (Sessions.discard (pushOutput id data stream)) :
      DaemonM ω Unit).run d).2 =
        { d with sessions := ((pushOutput id data stream).run d.sessions).2 } := by
    rw [← discard_run]
    rfl
  rw [after]
  by_cases takes : ∃ session, TakesOutput d.sessions id data session
  · obtain ⟨session, found, receives, unnoted, numbers⟩ := awaits.session
    obtain ⟨taking, takes⟩ := takes
    obtain rfl := Option.some.inj (found.symm.trans takes.found)
    exact awaits.push small takes (unnoted.push _ receives (by omega) takes.budget other)
  · rw [pushOutput_refused (not_exists.mp takes)]
    exact awaits.mono (Nat.le_succ top)

theorem systemNote_feeds {text : String} (other : text ∉ exitCodes.map exitNote) :
    Feeds id start 1 (systemNote id text) := by
  intro d first top small back awaits
  exact pushOutput_feeds (fun _ note => other note.2) d first top small back awaits

theorem length_chunkPieces_le (rounds : Nat) (text : List Char) :
    (chunkPieces rounds text).length ≤ rounds := by
  induction rounds generalizing text with
  | zero => simp [chunkPieces]
  | succ rounds ih =>
    cases text with
    | nil => simp [chunkPieces]
    | cons c rest => exact Nat.succ_le_succ (ih _)

theorem foldText_feeds (text : String) : Feeds id start text.length (foldText env id text) := by
  refine .pass fun start => .bind ((Feeds.forEach _ fun piece _ => pushOutput_feeds ?_).mono
    (length_chunkPieces_le _ _)) fun _ => .commit
  exact fun _ note => nomatch note.1

def chunksPerRead : Nat := 3 * maxChunkBytes

theorem drainLoop_feeds (exited : Exited env id) (rounds : Nat) (seen : Drained) :
    Feeds id start (rounds * chunksPerRead) (drainLoop env id rounds seen) := by
  induction rounds generalizing seen with
  | zero => exact .pure
  | succ rounds ih =>
    rw [drainLoop, Nat.succ_mul, Nat.add_comm]
    split
    · exact .pure
    · intro d first top small back awaits
      rw [run_ask_bind]
      have asked : Awaits id first top { d with
          world := (env.drainOutput id (min (maxReplayPageBytes - seen.bytes) maxChunkBytes)
            d.world).2 } := ⟨awaits.live, awaits.room, awaits.session⟩
      split
      next => exact asked.mono (Nat.le_add_right _ _)
      next output answer =>
        have short : output.text.length ≤ chunksPerRead :=
          (exited.short _ _ _ answer).trans (Nat.mul_le_mul_left 3 (Nat.min_le_right _ _))
        split
        · exact asked.mono (Nat.le_add_right _ _)
        · refine Feeds.bind ((foldText_feeds _).mono short) (fun _ => ?_) _ first top small back
            asked
          split
          · exact .pure
          · exact ih _

theorem pendingNote_other (remaining : Nat) :
    s!"[live-pty more output pending bytes={remaining}; continue replay]" ∉
      exitCodes.map exitNote := by
  intro member
  -- the eleventh character tells the notes apart
  have own : (s!"[live-pty more output pending bytes={remaining}; continue replay]").toList[10]? =
      some 'm' := by
    rw [String.toList_append, String.toList_append, append_assoc, getElem?_append_left (by decide)]
    decide
  have all : ∀ note ∈ exitCodes.map exitNote, note.toList[10]? = some 'e' := by decide
  rw [all _ member] at own
  exact absurd own (by decide)

theorem drainPending_feeds (exited : Exited env id) :
    Feeds id start (maxReplayPageBytes * chunksPerRead + 2) (env.drainPending id) := by
  have truncated : "[live-pty ring truncated under backpressure]" ∉ exitCodes.map exitNote := by
    decide
  have whole : Feeds id start (maxReplayPageBytes * chunksPerRead + (0 + (1 + (1 + 0) + 0)))
      (env.drainPending id) := by
    refine .bind (drainLoop_feeds exited _ _) fun seen => .bind (Feeds.ask _) fun pending =>
      .bind (.whenever (.pass fun start => ?_)) fun _ => .pure
    exact .bind (.whenever (systemNote_feeds truncated)) fun _ =>
      .bind (.whenever (systemNote_feeds (pendingNote_other _))) fun _ => .commit
  exact whole

/-- At most so many chunks are appended by a drain. -/
def chunksPerDrain : Nat := maxReplayPageBytes * chunksPerRead + 3

/-! ## The note -/

/-- A drain that gets as far as the note has seen the exit. -/
theorem drainLoop_exited (exited : Exited env id) {rounds : Nat} {seen seen' : Drained}
    (code : seen.exitCode ∈ exitCodes)
    (reads : seen.exited = true ∨ 0 < rounds ∧ seen.bytes < maxReplayPageBytes)
    (ran : (drainLoop env id rounds seen).run d = (.ok seen', d')) :
    seen'.exited = true ∧ seen'.exitCode ∈ exitCodes := by
  induction rounds generalizing seen d with
  | zero =>
    cases ran
    exact ⟨reads.resolve_right (by simp), code⟩
  | succ rounds ih =>
    rw [drainLoop] at ran
    split at ran
    next full =>
      cases ran
      exact ⟨reads.resolve_right (by omega), code⟩
    next =>
      rw [run_ask_bind] at ran
      split at ran
      next => cases ran
      next output answer =>
        obtain ⟨gone, reported⟩ := exited.reports _ _ _ answer
        have code' : (output.exitCode <|> seen.exitCode) ∈ exitCodes := by
          cases which : output.exitCode with
          | none => exact code
          | some =>
            rw [which] at reported
            exact reported
        have gone' : (seen.exited || output.exited) = true := by rw [gone, Bool.or_true]
        split at ran
        · cases ran
          exact ⟨gone', code'⟩
        · obtain ⟨_, _, -, ran⟩ := bind_ok_iff.mp ran
          split at ran
          · cases ran
            exact ⟨gone', code'⟩
          · exact ih code' (.inl gone') ran

theorem drainPending_exited (exited : Exited env id) {seen : Drained}
    (ran : (env.drainPending id).run d = (.ok seen, d')) :
    seen.exited = true ∧ seen.exitCode ∈ exitCodes := by
  obtain ⟨seen', d₁, looped, ran⟩ := bind_ok_iff.mp ran
  rw [run_ask_bind] at ran
  obtain ⟨_, _, -, ran⟩ := bind_ok_iff.mp ran
  cases ran
  exact drainLoop_exited exited (by decide) (.inr (by decide)) looped

/-- The number the next chunk of a session gets. -/
def nextNumber (id : String) (m : SessionManager) : Nat :=
  match m.get id with
  | .ok info => info.nextSeq
  | .error _ => 0

theorem nextNumber_eq {m : SessionManager} (found : m.sessions.lookup id = some session) :
    nextNumber id m = session.info.nextSeq := by
  rw [nextNumber, get_ok_iff.mpr ⟨session, found, rfl⟩]

/-- No chunk has the next number yet. -/
theorem Awaits.renew (awaits : Awaits id first top d) :
    Awaits id (nextNumber id d.sessions) top d := by
  obtain ⟨live, room, session, found, receives, -, numbers⟩ := awaits
  rw [nextNumber_eq found]
  exact ⟨live, room, session, found, receives, receives.unnoted, numbers⟩

/-- The sessions with the note. -/
def withNote (id : String) (code : Option Nat) (m : SessionManager) : SessionManager :=
  ((pushOutput id (exitNote code) .system).run m).2

theorem Awaits.noted (awaits : Awaits id first top d) (small : top + 1 < 2 ^ 64)
    {code : Option Nat} (reported : code ∈ exitCodes) :
    exitNotes id first (withNote id code d.sessions) = 1 ∧ ∃ next,
      Awaits id next (top + 1) { d with sessions := withNote id code d.sessions } := by
  obtain ⟨session, found, receives, unnoted, numbers⟩ := awaits.session
  have short : (exitNote code).utf8ByteSize ≤ 25 :=
    (by decide : ∀ code ∈ exitCodes, (exitNote code).utf8ByteSize ≤ 25) code reported
  have takes : TakesOutput d.sessions id (exitNote code) session :=
    ⟨found, short.trans (by decide), receives.opened, short.trans awaits.room⟩
  constructor
  · obtain ⟨before, suffix, kept⟩ := receives.keeps .system takes.budget
    have isNote : IsExitNote ⟨session.info.nextSeq, exitNote code, .system⟩ :=
      ⟨rfl, mem_map_of_mem reported⟩
    have here : (withNote id code d.sessions).sessions.lookup id = some
        (session.pushChunk d.sessions.maxReplayBytes
          ⟨session.info.nextSeq, exitNote code, .system⟩) := by
      rw [withNote, takes.run, Table.lookup_adjust_self, found]
      rfl
    have older : before.countP (fun chunk => first ≤ chunk.seq ∧ IsExitNote chunk) = 0 := by
      refine countP_eq_zero.mpr fun chunk member => ?_
      rw [decide_eq_true_eq]
      exact fun ⟨late, note⟩ => unnoted.none chunk (suffix.subset member) late note
    rw [exitNotes, here]
    dsimp only
    rw [kept, countP_append, older, countP_singleton]
    simp [isNote, unnoted.reached]
  · have receives' := receives.push .system (by omega) takes.budget
    exact ⟨_, awaits.push small takes receives'.unnoted⟩

/-- The note stays if the sessions with it can be written; else they are put back. -/
theorem noteExit_run (code : Option Nat) :
    ((env.noteExit id code).run d).2 =
      match env.writeSessions (withNote id code d.sessions) d.world with
      | (none, w) => { d with
          sessions := withNote id code d.sessions
          sessionsFile := withNote id code d.sessions, world := w }
      | (some _, w) => { d with world := w } := by
  have made : (systemNote id (exitNote code)).run d =
      (.ok (), { d with sessions := withNote id code d.sessions }) := by
    rw [withNote, ← discard_run]
    rfl
  rw [DrainEnvironment.noteExit, run_reads_bind, run_bind_of_ok made, run_attempt_bind]
  rcases written : env.writeSessions (withNote id code d.sessions) d.world with ⟨_ | reason, w⟩
  · rw [commitSessions_of_written written]
    rfl
  · rw [commitSessions_of_failed written]
    rfl

/-- The drain gets as far as the note, and the surroundings take the write of the sessions with
it. -/
def NoteWritten (env : DrainEnvironment ω) (id : String) (d : DaemonRuntime ω) : Prop :=
  ∃ seen d', (env.drainPending id).run d = (.ok seen, d') ∧
    (env.writeSessions (withNote id seen.exitCode d'.sessions) d'.world).1 = none

/-- One drain brings one note if the note is written, and else none. -/
theorem drain_notes (exited : Exited env id) (awaits : Awaits id first top d)
    (small : top + chunksPerDrain < 2 ^ 64) :
    let d' := ((env.drainLiveOutputIntoSession id).run d).2
    (NoteWritten env id d → exitNotes id first d'.sessions = 1) ∧
      (¬ NoteWritten env id d → exitNotes id first d'.sessions = 0) ∧
      ∃ next, Awaits id next (top + chunksPerDrain) d' := by
  rw [chunksPerDrain, ← Nat.add_assoc] at small ⊢
  rw [DrainEnvironment.drainLiveOutputIntoSession, run_reads_bind, if_pos awaits.live]
  have pending := drainPending_feeds exited d first top (by omega) awaits awaits
  rcases ran : (env.drainPending id).run d with ⟨e | seen, d₁⟩ <;> rw [ran] at pending
  · rw [run_bind_of_error ran]
    refine ⟨?_, fun _ => pending.exitNotes_eq, first, pending.mono (Nat.le_succ _)⟩
    rintro ⟨seen, _, other, -⟩
    cases ran.symm.trans other
  · obtain ⟨gone, reported⟩ := drainPending_exited exited ran
    have state : ((whenever (seen.exited = true) (env.noteExit id seen.exitCode) >>= fun _ =>
        (pure seen.bytes : DaemonM ω Nat)).run d₁).2 =
          ((env.noteExit id seen.exitCode).run d₁).2 := by
      rw [whenever, if_pos gone]
      exact run_bind_pure _ _ _
    obtain ⟨one, next, later⟩ := pending.noted small reported
    rw [run_bind_of_ok ran, state, noteExit_run]
    rcases written : env.writeSessions (withNote id seen.exitCode d₁.sessions) d₁.world with
      ⟨_ | reason, w⟩
    · refine ⟨fun _ => one, fun unwritten => ?_, next, later.live, later.room, later.session⟩
      exact absurd ⟨seen, d₁, ran, congrArg Prod.fst written⟩ unwritten
    · refine ⟨?_, fun _ => pending.exitNotes_eq, first, pending.live, pending.room,
        (pending.mono (Nat.le_succ _)).session⟩
      rintro ⟨_, _, other, wrote⟩
      cases ran.symm.trans other
      cases (congrArg Prod.fst written).symm.trans wrote

/-! ## Drain after drain -/

variable (env id d) in
/-- The daemon after some drains of the session. -/
def afterDrains : Nat → DaemonRuntime ω
  | 0 => d
  | n + 1 => ((env.drainLiveOutputIntoSession id).run (afterDrains n)).2

variable (env id d) in
/-- The exit notes that the ring of the session received with the first `n` drains: after each
drain, those in it under numbers that were not given out before the drain. -/
def receivedNotes (n : Nat) : Nat :=
  ∑ i ∈ Finset.range n, exitNotes id (nextNumber id (afterDrains env id d i).sessions)
    (afterDrains env id d (i + 1)).sessions

theorem afterDrains_awaits (exited : Exited env id) (awaits : Awaits id first top d) {n : Nat}
    (small : top + n * chunksPerDrain < 2 ^ 64) :
    Awaits id (nextNumber id (afterDrains env id d n).sessions) (top + n * chunksPerDrain)
      (afterDrains env id d n) := by
  induction n with
  | zero =>
    rw [Nat.zero_mul]
    exact awaits.renew
  | succ n ih =>
    rw [Nat.succ_mul, ← Nat.add_assoc] at small ⊢
    obtain ⟨-, -, next, later⟩ := drain_notes exited (ih (by omega)) small
    exact later.renew

/-- **The exit is noted by every drain.**  A session is open and keeps what is pushed, its host
has exited, and its numbers do not run out.  However many drains are made, its ring receives
exactly one exit note if and only if exactly one of them gets as far as the note and has it
written. -/
theorem exitNote_once_iff (exited : Exited env id) (live : d.liveHosts.contains id = true)
    (room : 25 ≤ d.sessions.maxReplayBytes) (found : d.sessions.sessions.lookup id = some session)
    (receives : Receives session) (n : Nat)
    (numbers : session.info.nextSeq + n * chunksPerDrain < 2 ^ 64) :
    receivedNotes env id d n = 1 ↔ ∃! i, i < n ∧ NoteWritten env id (afterDrains env id d i) := by
  classical
  have start : Awaits id session.info.nextSeq session.info.nextSeq d :=
    ⟨live, room, session, found, receives, receives.unnoted, le_rfl⟩
  have each : ∀ i ∈ Finset.range n,
      exitNotes id (nextNumber id (afterDrains env id d i).sessions)
        (afterDrains env id d (i + 1)).sessions =
          if NoteWritten env id (afterDrains env id d i) then 1 else 0 := by
    intro i member
    have upTo : (i + 1) * chunksPerDrain ≤ n * chunksPerDrain :=
      Nat.mul_le_mul_right _ (Finset.mem_range.mp member)
    rw [Nat.succ_mul] at upTo
    have awaits := afterDrains_awaits (n := i) exited start (by omega)
    obtain ⟨written, unwritten, -⟩ := drain_notes exited awaits (by omega)
    split
    next isWritten => exact written isWritten
    next notWritten => exact unwritten notWritten
  rw [receivedNotes, Finset.sum_congr rfl each, Finset.sum_boole, Nat.cast_id, Finset.card_eq_one]
  simp only [Finset.ext_iff, Finset.mem_filter, Finset.mem_range, Finset.mem_singleton]
  exact ⟨fun ⟨i, only⟩ => ⟨i, (only i).mpr rfl, fun j there => (only j).mp there⟩,
    fun ⟨i, there, only⟩ => ⟨i, fun j => ⟨only j, fun same => same ▸ there⟩⟩⟩

/-- Surroundings whose host has exited and has nothing left to say. -/
def exitedHost : DrainEnvironment Unit where
  toEnvironment := calmEnvironment 100
  drainOutput := fun _ _ _ => (.ok
    { text := "", ringTruncated := false, exited := true, exitCode := some 0, remaining := 0 }, ())
  pendingOutputBytes := fun _ _ => (0, ())

/-- A running session, controlled by a local client. -/
def controlledSession : Session :=
  let session := plainSession "s1" "bob" (plainBinding "alice" "host_1" 1 1000 2000)
  { session with
    info :=
      { session.info with
        state := .running
        controller := some
          { principalId := "alice", leaseId := "lease_1", epoch := 1, expiresUnix := 1000 } } }

def exitedDaemon : DaemonRuntime Unit :=
  { startedDaemon (plainManager (AList.singleton "s1" controlledSession)) ∅ with
    liveHosts := ["s1"] }

/-- One drain that has its note written brings one note. -/
theorem exitNote_once_iff_quiet : receivedNotes exitedHost "s1" exitedDaemon 1 = 1 := by
  refine (exitNote_once_iff ⟨?_, ?_⟩ rfl (by decide) rfl ⟨by decide, by decide, by decide, ?_⟩ 1
    (by decide)).mpr ⟨0, ⟨Nat.one_pos, _, _, rfl, rfl⟩, fun i there => by omega⟩
  · rintro max w output ⟨⟩
    exact ⟨rfl, by decide⟩
  · rintro max w output ⟨⟩
    exact Nat.zero_le _
  · rintro chunk ⟨⟩

/-- After two drains the ring holds two exit notes. -/
theorem exit_noted_twice :
    ((afterDrains exitedHost "s1" exitedDaemon 2).sessions.sessions.lookup "s1").map
        (fun session => session.replay) =
      some [⟨1, "[live-pty exited code=0]", .system⟩, ⟨2, "[live-pty exited code=0]", .system⟩] :=
  rfl

end OwnMesh.Daemon
