import OwnMesh.Sessions.Operations

/-!
# The ring of recent output

A session keeps its last chunks of output under two bounds, a number of chunks and a
number of bytes, and counts the bytes in a field of its own so that it need not add them
up.  `RingOk` is what this bookkeeping is meant to maintain.

Two operations can break it.  The mark that a restart leaves in the sessions it has lost
the host of is appended to the ring directly: it is not counted, and nothing is dropped for
it.  And the next number is a word that wraps: the chunk that takes the last number is
followed by the number zero.  A run keeps the rings in order exactly when each restart in it
finds no session to mark and no output takes the last number (`ring_accounting_iff`).
-/

namespace OwnMesh.Sessions

open Foundations Program List AList Table Session Moves

/-! ## Rings in order -/

/-- The numbers of the chunks are consecutive and end just below `next`. -/
def Numbered (next : Nat) : List OutputChunk → Prop
  | [] => True
  | chunk :: rest => chunk.seq + (rest.length + 1) = next ∧ Numbered next rest

structure RingOk (budget : Nat) (session : Session) : Prop where
  counted : session.replayBytes = chunkBytes session.replay
  fits : session.replayBytes ≤ budget
  short : session.replay.length ≤ session.replayLimit
  numbered : Numbered session.info.nextSeq session.replay

def RingsOk (m : SessionManager) : Prop :=
  ∀ id session, m.sessions.lookup id = some session → RingOk m.maxReplayBytes session

/-- The numbers of all rings are in order. -/
def RingsNumbered (m : SessionManager) : Prop :=
  ∀ id session, m.sessions.lookup id = some session → Numbered session.info.nextSeq session.replay

theorem chunkBytes_cons (chunk : OutputChunk) (rest : List OutputChunk) :
    chunkBytes (chunk :: rest) = chunk.data.utf8ByteSize + chunkBytes rest := by
  simp [chunkBytes]

theorem chunkBytes_append_singleton (chunks : List OutputChunk) (chunk : OutputChunk) :
    chunkBytes (chunks ++ [chunk]) = chunkBytes chunks + chunk.data.utf8ByteSize := by
  simp [chunkBytes]

theorem Numbered.of_suffix {next : Nat} {chunks kept : List OutputChunk}
    (numbered : Numbered next chunks) (suffix : kept <:+ chunks) : Numbered next kept := by
  induction chunks with
  | nil =>
    rw [suffix_nil.mp suffix]
    trivial
  | cons chunk rest ih =>
    rcases suffix_cons_iff.mp suffix with rfl | shorter
    · exact numbered
    · exact ih numbered.2 shorter

theorem Numbered.append {next : Nat} {chunks : List OutputChunk} (numbered : Numbered next chunks)
    {chunk : OutputChunk} (seq : chunk.seq = next) : Numbered (next + 1) (chunks ++ [chunk]) := by
  induction chunks with
  | nil => exact ⟨by simp [seq], trivial⟩
  | cons first rest ih =>
    refine ⟨?_, ih numbered.2⟩
    have before := numbered.1
    show first.seq + ((rest ++ [chunk]).length + 1) = next + 1
    rw [length_append, length_singleton]
    omega

theorem Numbered.last {next : Nat} {chunks : List OutputChunk} {chunk : OutputChunk}
    (numbered : Numbered next (chunks ++ [chunk])) : chunk.seq + 1 = next :=
  (numbered.of_suffix (suffix_append chunks [chunk])).1

/-! ## Making room -/

/-- Dropping by count keeps the last chunks and an exact count of their bytes. -/
theorem dropToCount_spec (limit : Nat) (chunks : List OutputChunk) :
    let kept := dropToCount limit (chunkBytes chunks) chunks
    kept.1 <:+ chunks ∧ kept.1.length ≤ limit ∧ kept.2 = chunkBytes kept.1 := by
  induction chunks with
  | nil => exact ⟨suffix_refl [], Nat.zero_le limit, rfl⟩
  | cons chunk rest ih =>
    rw [dropToCount]
    by_cases long : (chunk :: rest).length > limit
    · rw [if_pos long, chunkBytes_cons, Nat.add_sub_cancel_left]
      obtain ⟨suffix, short, counted⟩ := ih
      exact ⟨suffix.trans (suffix_cons chunk rest), short, counted⟩
    · rw [if_neg long]
      exact ⟨suffix_refl _, Nat.le_of_not_gt long, rfl⟩

/-- Dropping by bytes keeps the last chunks, an exact count of their bytes, and the
budget. -/
theorem trimToBytes_spec (budget : Nat) (chunks : List OutputChunk) :
    let kept := trimToBytes budget (chunkBytes chunks) chunks
    kept.1 <:+ chunks ∧ kept.2 = chunkBytes kept.1 ∧ kept.2 ≤ budget := by
  induction chunks with
  | nil => exact ⟨suffix_refl [], rfl, Nat.zero_le budget⟩
  | cons chunk rest ih =>
    rw [trimToBytes]
    by_cases large : chunkBytes (chunk :: rest) > budget
    · rw [if_pos large, chunkBytes_cons, Nat.add_sub_cancel_left]
      obtain ⟨suffix, counted, fits⟩ := ih
      exact ⟨suffix.trans (suffix_cons chunk rest), counted, fits⟩
    · rw [if_neg large]
      exact ⟨suffix_refl _, rfl, Nat.le_of_not_gt large⟩

theorem trimToCount_suffix (limit : Nat) (chunks : List OutputChunk) :
    trimToCount limit chunks <:+ chunks ∧ (trimToCount limit chunks).length ≤ limit := by
  induction chunks with
  | nil => exact ⟨suffix_refl [], Nat.zero_le limit⟩
  | cons chunk rest ih =>
    rw [trimToCount]
    by_cases long : (chunk :: rest).length > limit
    · rw [if_pos long]
      exact ⟨ih.1.trans (suffix_cons chunk rest), ih.2⟩
    · rw [if_neg long]
      exact ⟨suffix_refl _, Nat.le_of_not_gt long⟩

/-- The last chunk stays when chunks are dropped, and with a count that is not too high before
it is not too high after. -/
def KeepsLast (chunks : List OutputChunk) (last : OutputChunk)
    (kept : List OutputChunk × Nat) : Prop :=
  ∃ before, before <:+ chunks ∧ kept.1 = before ++ [last] ∧ kept.2 ≤ chunkBytes kept.1

section

variable {chunks : List OutputChunk} {last : OutputChunk} {bytes : Nat}

theorem KeepsLast.cons {kept : List OutputChunk × Nat} (keeps : KeepsLast chunks last kept)
    (first : OutputChunk) : KeepsLast (first :: chunks) last kept := by
  obtain ⟨before, suffix, rest⟩ := keeps
  exact ⟨before, suffix.trans (suffix_cons first chunks), rest⟩

theorem dropToCount_keepsLast {limit : Nat} (positive : 0 < limit)
    (most : bytes ≤ chunkBytes (chunks ++ [last])) :
    KeepsLast chunks last (dropToCount limit bytes (chunks ++ [last])) := by
  induction chunks generalizing bytes with
  | nil =>
    rw [nil_append] at most ⊢
    rw [dropToCount, if_neg (not_lt.mpr positive)]
    exact ⟨[], suffix_refl [], rfl, most⟩
  | cons first rest ih =>
    rw [cons_append, dropToCount]
    split
    · rw [cons_append, chunkBytes_cons] at most
      exact (ih (by omega)).cons first
    · exact ⟨first :: rest, suffix_refl _, rfl, most⟩

theorem trimToBytes_keepsLast {budget : Nat} (size : last.data.utf8ByteSize ≤ budget)
    (most : bytes ≤ chunkBytes (chunks ++ [last])) :
    KeepsLast chunks last (trimToBytes budget bytes (chunks ++ [last])) := by
  induction chunks generalizing bytes with
  | nil =>
    have single : chunkBytes [last] = last.data.utf8ByteSize := by simp [chunkBytes]
    rw [nil_append] at most ⊢
    rw [trimToBytes, if_neg (by omega)]
    exact ⟨[], suffix_refl [], rfl, most⟩
  | cons first rest ih =>
    rw [cons_append, trimToBytes]
    split
    · rw [cons_append, chunkBytes_cons] at most
      exact (ih (by omega)).cons first
    · exact ⟨first :: rest, suffix_refl _, rfl, most⟩

end

variable {session : Session}

variable {budget : Nat}

/-- A ring whose count is not too high keeps the chunk that is pushed. -/
theorem pushChunk_keepsLast (most : session.replayBytes ≤ chunkBytes session.replay)
    (positive : 0 < session.replayLimit) (chunk : OutputChunk)
    (size : chunk.data.utf8ByteSize ≤ budget) : KeepsLast session.replay chunk
      ((session.pushChunk budget chunk).replay, (session.pushChunk budget chunk).replayBytes) := by
  have counted : min (2 ^ 64 - 1) (session.replayBytes + chunk.data.utf8ByteSize) ≤
      chunkBytes (session.replay ++ [chunk]) := by
    rw [chunkBytes_append_singleton]
    omega
  obtain ⟨before, suffix, kept, most⟩ := dropToCount_keepsLast positive counted
  rw [kept] at most
  obtain ⟨before', suffix', last⟩ := trimToBytes_keepsLast size most
  rw [← kept] at last
  exact ⟨before', suffix'.trans suffix, last⟩

/-- What is left of a ring when a chunk is pushed onto it. -/
theorem RingOk.pushChunk_spec (ok : RingOk budget session) (small : budget ≤ maxReplayBytes)
    (chunk : OutputChunk) (size : chunk.data.utf8ByteSize ≤ budget) :
    let pushed := session.pushChunk budget chunk
    pushed.replayBytes = chunkBytes pushed.replay ∧ pushed.replayBytes ≤ budget ∧
      pushed.replay.length ≤ pushed.replayLimit ∧ pushed.replay <:+ session.replay ++ [chunk] := by
  have exactly : min (2 ^ 64 - 1) (session.replayBytes + chunk.data.utf8ByteSize) =
      chunkBytes (session.replay ++ [chunk]) := by
    have fits := ok.fits
    have bound : maxReplayBytes ≤ 2 ^ 62 := by decide
    rw [chunkBytes_append_singleton, ← ok.counted]
    omega
  obtain ⟨suffix, short, counted⟩ :=
    dropToCount_spec session.replayLimit (session.replay ++ [chunk])
  obtain ⟨suffix', counted', fits'⟩ := trimToBytes_spec budget
    (dropToCount session.replayLimit (chunkBytes (session.replay ++ [chunk]))
      (session.replay ++ [chunk])).1
  simp only [Session.pushChunk, exactly, counted]
  exact ⟨counted', fits', le_trans suffix'.length_le short, suffix'.trans suffix⟩

/-- A chunk with the next number leaves the ring in order, unless it is kept and that was the
last number. -/
theorem RingOk.pushChunk_iff (ok : RingOk budget session) (small : budget ≤ maxReplayBytes)
    (chunk : OutputChunk) (seq : chunk.seq = session.info.nextSeq)
    (size : chunk.data.utf8ByteSize ≤ budget) : RingOk budget (session.pushChunk budget chunk) ↔
      (0 < session.replayLimit → session.info.nextSeq + 1 < 2 ^ 64) := by
  obtain ⟨counted, fits, short, suffix⟩ := ok.pushChunk_spec small chunk size
  have next : (session.pushChunk budget chunk).info.nextSeq =
      (session.info.nextSeq + 1) % 2 ^ 64 := rfl
  constructor
  · intro after positive
    obtain ⟨before, -, ends, -⟩ := pushChunk_keepsLast ok.counted.le positive _ size
    dsimp only at ends
    have numbered := after.numbered
    rw [ends, next] at numbered
    have last := numbered.last
    omega
  · intro room
    refine ⟨counted, fits, short, ?_⟩
    rcases Nat.eq_zero_or_pos session.replayLimit with zero | positive
    · have empty : (session.pushChunk budget chunk).replay = [] :=
        length_eq_zero_iff.mp (Nat.le_zero.mp (short.trans zero.le))
      rw [empty]
      trivial
    · rw [next, Nat.mod_eq_of_lt (room positive)]
      exact (ok.numbered.append seq).of_suffix suffix

/-- Loading a session brings its ring under the bounds and counts it; of the numbers it
keeps the last ones as they are. -/
theorem enforceBudgets_spec (limit budget : Nat) (session : Session) :
    let loaded := session.enforceBudgets limit budget
    loaded.replay <:+ session.replay ∧ loaded.replayBytes = chunkBytes loaded.replay ∧
      loaded.replayBytes ≤ budget ∧ loaded.replay.length ≤ loaded.replayLimit := by
  obtain ⟨suffix, short⟩ :=
    trimToCount_suffix (clamp 1 limit session.replayLimit) session.replay
  obtain ⟨suffix', counted, fits⟩ := trimToBytes_spec budget
    (trimToCount (clamp 1 limit session.replayLimit) session.replay)
  exact ⟨suffix'.trans suffix, counted, fits, le_trans suffix'.length_le short⟩

/-! ## Operations that are not about output -/

/-- What the ring of a session consists of. -/
def Session.ring (session : Session) : List OutputChunk × Nat × Nat × Nat :=
  (session.replay, session.replayLimit, session.replayBytes, session.info.nextSeq)

/-- Every ring was there before, or is new and empty. -/
structure RingsFrom (m m' : SessionManager) : Prop where
  budget : m'.maxReplayBytes = m.maxReplayBytes
  sessions : ∀ id session, m'.sessions.lookup id = some session →
    (∃ old, m.sessions.lookup id = some old ∧ session.ring = old.ring) ∨
      session.replay = [] ∧ session.replayBytes = 0

instance : Std.Refl RingsFrom := ⟨fun _ => ⟨rfl, fun _ session found => .inl ⟨session, found, rfl⟩⟩⟩

instance : IsTrans SessionManager RingsFrom where
  trans _ _ _ first second := by
    refine ⟨second.budget.trans first.budget, ?_⟩
    intro id session found
    rcases second.sessions id session found with ⟨old, there, same⟩ | empty
    · rcases first.sessions id old there with ⟨older, before, same'⟩ | ⟨noChunks, noBytes⟩
      · exact .inl ⟨older, before, same.trans same'⟩
      · simp only [Session.ring, Prod.mk.injEq] at same
        exact .inr ⟨same.1.trans noChunks, same.2.2.1.trans noBytes⟩
    · exact .inr empty

theorem RingOk.congr {old : Session} (ok : RingOk budget old)
    (same : session.ring = old.ring) : RingOk budget session := by
  simp only [ring, Prod.mk.injEq] at same
  obtain ⟨replay, limit, bytes, next⟩ := same
  obtain ⟨counted, fits, short, numbered⟩ := ok
  refine ⟨?_, ?_, ?_, ?_⟩
  · rw [bytes, replay, counted]
  · rw [bytes]
    exact fits
  · rw [replay, limit]
    exact short
  · rw [replay, next]
    exact numbered

variable {m : SessionManager}

theorem RingsOk.of_ringsFrom {m' : SessionManager} (ok : RingsOk m)
    (rings : RingsFrom m m') : RingsOk m' := by
  intro id session found
  rw [rings.budget]
  rcases rings.sessions id session found with ⟨old, there, same⟩ | ⟨noChunks, noBytes⟩
  · exact (ok id old there).congr same
  · refine ⟨?_, ?_, ?_, ?_⟩
    · rw [noChunks, noBytes]
      rfl
    · rw [noBytes]
      exact Nat.zero_le _
    · rw [noChunks]
      exact Nat.zero_le _
    · rw [noChunks]
      trivial

theorem mapSessions_ringsFrom (m : SessionManager) (f : String → Session → Session)
    (same : ∀ id session, (f id session).ring = session.ring) :
    RingsFrom m { m with sessions := m.sessions.mapValues f } := by
  refine ⟨rfl, ?_⟩
  intro id session found
  rw [lookup_mapValues] at found
  obtain ⟨old, there, rfl⟩ := Option.map_eq_some_iff.mp found
  exact .inl ⟨old, there, same id old⟩

section

variable {f : SessionInfo → SessionInfo} (id : String)
  (same : ∀ info, (f info).nextSeq = info.nextSeq)
include same

theorem updateInfo_ringsFrom : Moves RingsFrom (updateInfo id f) := by
  refine .modify fun m => mapSessions_ringsFrom m _ ?_
  intro key session
  by_cases here : key = id
  · rw [if_pos here]
    simp only [ring, same]
  · rw [if_neg here]

theorem setInfo_ringsFrom : Moves RingsFrom (setInfo id f) :=
  setInfo_moves (updateInfo_ringsFrom id same)

end

theorem expireStaleLease_nextSeq (now : Int) (info : SessionInfo) :
    (info.expireStaleLease now).nextSeq = info.nextSeq := by
  unfold SessionInfo.expireStaleLease
  split
  · split <;> rfl
  · rfl

theorem openWith_ringsFrom (request : OpenRequest) (now : Int) (freshSession freshLease : String) :
    Moves RingsFrom (openWith request now freshSession freshLease) := by
  refine .bind .reads fun m => .bind .require fun _ => .bind (.modify fun m => ?_) fun _ => .pure
  refine ⟨rfl, ?_⟩
  intro id session found
  rcases lookup_insert_some found with ⟨rfl, rfl⟩ | older
  · exact .inr ⟨rfl, rfl⟩
  · exact .inl ⟨session, older, rfl⟩

theorem SeatOp.ringsFrom (op : SeatOp) : Moves RingsFrom op.program := by
  have update : ∀ id f, KeepsIo f → Moves RingsFrom (updateInfo id f) :=
    fun id f keeps => updateInfo_ringsFrom id keeps.nextSeq
  cases op with
  | openWith request now freshSession freshLease =>
    exact discard_moves (openWith_ringsFrom request now freshSession freshLease)
  | attachObserver id =>
    exact .bind (info_moves id) fun _ => .bind .require fun _ =>
      .ite (fun _ => updateInfo_ringsFrom id fun _ => rfl) fun _ => .pure
  | claimController id principal now fresh =>
    exact discard_moves (claimController_moves (update id) principal now fresh)
  | giveController id giver receiver now fresh =>
    exact discard_moves (giveController_moves (update id) giver receiver now fresh)
  | releaseController id principal now =>
    exact releaseController_moves (update id) principal now
  | detachControllerLease id principal leaseId epoch now =>
    exact detachControllerLease_moves (update id) principal leaseId epoch now
  | renewControllerLease id principal leaseId epoch now ttl =>
    exact discard_moves (renewControllerLease_moves (update id) principal leaseId epoch now ttl)
  | expireStaleLeases =>
    refine .modify fun m => mapSessions_ringsFrom m _ ?_
    intro id session
    simp only [ring, expireStaleLease_nextSeq]
  | reconcileControllerFromTransition id principal leaseId epoch expiresUnix attached =>
    exact reconcileControllerFromTransition_moves (update id) principal leaseId epoch expiresUnix
      attached
  | close id => exact setInfo_ringsFrom id fun _ => rfl

theorem setReceipt_ringsFrom (id : String) (channel : SeqChannel) (f : SessionInfo → SeqReceipt) :
    Moves RingsFrom (updateInfo id fun info => info.setReceipt (f info) channel) :=
  updateInfo_ringsFrom id fun _ => by cases channel <;> rfl

theorem authorizeController_moves {R : SessionManager → SessionManager → Prop} [Std.Refl R]
    [IsTrans SessionManager R] (id principal : String) (now : Int) :
    Moves R (authorizeController id principal now) :=
  .bind (info_moves id) fun _ => .require

theorem terminate_ringsFrom (id : String) : Moves RingsFrom (terminate id) := by
  refine .bind (setInfo_ringsFrom id fun _ => rfl) fun _ => .modify fun m => ⟨rfl, ?_⟩
  exact fun key session found => .inl ⟨session, lookup_erase_some found, rfl⟩

theorem terminateAll_ringsFrom : Moves RingsFrom terminateAll := by
  refine .bind .reads fun _ => .bind (.modify fun m => ⟨rfl, ?_⟩) fun _ => .pure
  intro id session found
  cases found

/-! ## Operations that are -/

/-- The rings are in order, under a budget that a manager can have. -/
def RingState (m : SessionManager) : Prop := m.maxReplayBytes ≤ maxReplayBytes ∧ RingsOk m

theorem RingState.of_ringsFrom {m' : SessionManager} (state : RingState m)
    (rings : RingsFrom m m') : RingState m' := by
  refine ⟨?_, state.2.of_ringsFrom rings⟩
  rw [rings.budget]
  exact state.1

/-- Output keeps the rings in order unless it is kept under the last number. -/
theorem pushOutput_ringsOk_iff (state : RingState m) (id data : String) (stream : StreamKind) :
    RingsOk ((pushOutput id data stream).run m).2 ↔ ∀ session, TakesOutput m id data session →
      0 < session.replayLimit → session.info.nextSeq + 1 < 2 ^ 64 := by
  by_cases takes : ∃ session, TakesOutput m id data session
  · obtain ⟨pushed, takes⟩ := takes
    have exactly := (state.2 id pushed takes.found).pushChunk_iff state.1
      ⟨pushed.info.nextSeq, data, stream⟩ rfl takes.budget
    have here := lookup_adjust_self id
      (pushChunk m.maxReplayBytes ⟨pushed.info.nextSeq, data, stream⟩) m.sessions
    rw [takes.found] at here
    rw [takes.run stream]
    constructor
    · intro after session other
      obtain rfl := Option.some.inj (takes.found.symm.trans other.found)
      exact exactly.mp (after id _ here)
    · intro room key session there
      by_cases isId : key = id
      · subst isId
        obtain rfl := Option.some.inj (here.symm.trans there)
        exact exactly.mpr (room pushed takes)
      · exact state.2 key session ((lookup_adjust_ne isId _ m.sessions).symm.trans there)
  · have none : ∀ session, ¬ TakesOutput m id data session := not_exists.mp takes
    rw [pushOutput_refused none]
    exact iff_of_true state.2 fun session here => absurd here (none session)

theorem clamp_le {low high : Nat} (order : low ≤ high) (n : Nat) : clamp low high n ≤ high := by
  unfold clamp
  split
  · exact order
  · split
    · exact le_refl high
    · omega

/-- A loaded manager is in order if its rings are numbered. -/
theorem ringState_enforceLoadedBudgets
    (numbered : RingsNumbered m.enforceLoadedBudgets) : RingState m.enforceLoadedBudgets := by
  refine ⟨clamp_le (by decide) _, ?_⟩
  intro id session found
  have inOrder := numbered id session found
  simp only [SessionManager.enforceLoadedBudgets, lookup_mapValues] at found
  obtain ⟨old, -, rfl⟩ := Option.map_eq_some_iff.mp found
  obtain ⟨-, counted, fits, short⟩ := enforceBudgets_spec
    (max (clamp 1 (max defaultReplayChunkLimit 1024) m.defaultReplayLimit) defaultReplayChunkLimit)
    (clamp 1 Sessions.maxReplayBytes m.maxReplayBytes) old
  exact ⟨counted, fits, short, inOrder⟩

/-- Loading leaves the rings numbered. -/
theorem RingsNumbered.enforceLoadedBudgets (numbered : RingsNumbered m) :
    RingsNumbered m.enforceLoadedBudgets := by
  intro id session found
  simp only [SessionManager.enforceLoadedBudgets, lookup_mapValues, lookup_retain] at found
  obtain ⟨old, kept, rfl⟩ := Option.map_eq_some_iff.mp found
  obtain ⟨there, -⟩ := Option.filter_eq_some_iff.mp kept
  exact (numbered id old there).of_suffix (enforceBudgets_spec _ _ old).1

theorem RingsOk.numbered (ok : RingsOk m) : RingsNumbered m :=
  fun id session found => (ok id session found).numbered

/-- A session that a restart finds without its host. -/
def Session.LosesHost (session : Session) : Prop :=
  session.info.state ≠ .closed ∧ (session.info.hostPid.isSome || session.info.kind = .pty) = true

/-- The mark of a restart is not counted. -/
theorem markHostDetached_uncounted (ok : RingOk budget session)
    (loses : session.LosesHost) : ¬ RingOk budget session.markHostDetached := by
  intro marked
  have counted := marked.counted
  unfold markHostDetached at counted
  rw [if_neg loses.1, if_pos loses.2] at counted
  rw [chunkBytes_append_singleton, ← ok.counted] at counted
  have size : 0 < "[system] session host disconnected after daemon restart\n".utf8ByteSize := by
    decide
  simp only at counted
  omega

theorem markHostDetached_of_keeps (keeps : ¬ session.LosesHost) :
    session.markHostDetached = session := by
  unfold markHostDetached
  by_cases closed : session.info.state = .closed
  · rw [if_pos closed]
  · have hosted : ¬ (session.info.hostPid.isSome || session.info.kind = .pty) = true :=
      fun hosted => keeps ⟨closed, hosted⟩
    rw [if_neg closed, if_neg hosted]

/-! ## Runs -/

/-- One operation, answered or refused. -/
def SessionStep (m : SessionManager) (op : SessionOp) (m' : SessionManager) : Prop :=
  (op.program.run m).2 = m'

/-- An operation that marks no session, and appends no output under the last number. -/
def SessionOp.SparesRings (m : SessionManager) : SessionOp → Prop
  | .pushOutput id data _ => ∀ session, TakesOutput m id data session →
      0 < session.replayLimit → session.info.nextSeq + 1 < 2 ^ 64
  | .markHostsDetachedAfterRestart =>
    ∀ id session, m.sessions.lookup id = some session → ¬ session.LosesHost
  | _ => True

theorem markHostsDetachedAfterRestart_ringsOk_iff (ok : RingsOk m) :
    RingsOk m.markHostsDetachedAfterRestart ↔
      SessionOp.markHostsDetachedAfterRestart.SparesRings m := by
  have marks : ∀ id, m.markHostsDetachedAfterRestart.sessions.lookup id =
      (m.sessions.lookup id).map markHostDetached :=
    fun id => lookup_mapValues _ m.sessions id
  constructor
  · intro after id session found loses
    have marked := marks id
    rw [found] at marked
    exact markHostDetached_uncounted (ok id session found) loses (after id _ marked)
  · intro spared id session found
    rw [marks id] at found
    obtain ⟨old, there, rfl⟩ := Option.map_eq_some_iff.mp found
    rw [markHostDetached_of_keeps (spared id old there)]
    exact ok id old there

/-- The operations that change rings. -/
def SessionOp.IsOutput : SessionOp → Prop
  | .pushOutput _ _ _ | .reload | .markHostsDetachedAfterRestart => True
  | _ => False

theorem SessionOp.ringsFrom (op : SessionOp) (other : ¬ op.IsOutput) :
    Moves RingsFrom op.program := by
  cases op with
  | markHostsDetachedAfterRestart | reload | pushOutput => exact absurd trivial other
  | seat op => exact op.ringsFrom
  | reserveControllerSeq id seq digest channel =>
    exact discard_moves (reserveControllerSeq_moves (setReceipt_ringsFrom id channel) seq digest)
  | finalizeControllerSeq id seq channel =>
    exact finalizeControllerSeq_moves (setReceipt_ringsFrom id channel) seq
  | advanceSeq id seq channel =>
    exact discard_moves (advanceSeq_moves (setReceipt_ringsFrom id channel) seq)
  | resize id principal cols rows now | setViewMode id principal mode now =>
    exact .bind (authorizeController_moves id principal now) fun _ =>
      setInfo_ringsFrom id fun _ => rfl
  | setHostPid id | setState id | setSidecarHostBinding id =>
    exact setInfo_ringsFrom id fun _ => rfl
  | setControllerExpiresUnix id expiresUnix =>
    refine .bind (info_moves id) fun info => ?_
    cases info.controller with
    | none => exact .fail
    | some => exact updateInfo_ringsFrom id fun _ => rfl
  | terminate id => exact terminate_ringsFrom id
  | terminateAll => exact discard_moves terminateAll_ringsFrom

/-- An operation keeps rings in order exactly when it spares them. -/
theorem SessionOp.ringsOk_iff (op : SessionOp) (state : RingState m) :
    RingsOk (op.program.run m).2 ↔ op.SparesRings m := by
  by_cases output : op.IsOutput
  · cases op with
    | markHostsDetachedAfterRestart => exact markHostsDetachedAfterRestart_ringsOk_iff state.2
    | reload =>
      refine iff_of_true ?_ trivial
      exact (ringState_enforceLoadedBudgets state.2.numbered.enforceLoadedBudgets).2
    | pushOutput id data stream =>
      have same := discard_run (Sessions.pushOutput id data stream) m
      exact (iff_of_eq (congrArg RingsOk same)).trans (pushOutput_ringsOk_iff state id data stream)
    | _ => exact absurd output id
  · refine iff_of_true (state.of_ringsFrom (op.ringsFrom output m)).2 ?_
    cases op <;> first | trivial | exact absurd trivial output

/-- No operation raises the budget above the largest. -/
theorem SessionOp.budget_le (op : SessionOp) (small : m.maxReplayBytes ≤ Sessions.maxReplayBytes) :
    (op.program.run m).2.maxReplayBytes ≤ Sessions.maxReplayBytes := by
  by_cases output : op.IsOutput
  · cases op with
    | markHostsDetachedAfterRestart => exact small
    | reload => exact clamp_le (by decide) _
    | pushOutput id data stream =>
      have keeps : Moves (Keeps SessionManager.maxReplayBytes)
          (Sessions.pushOutput id data stream) := pushOutput_moves (fun _ _ => rfl) _ _
      have kept := discard_moves keeps m
      exact le_trans (le_of_eq kept) small
    | _ => exact absurd output id
  · rw [(op.ringsFrom output m).budget]
    exact small

/-- The manager a daemon starts with; without a file it is an empty one. -/
def SessionManager.load : Option SessionManager → SessionManager
  | none => .new
  | some file => file.enforceLoadedBudgets

theorem ringsOk_load_iff (file : Option SessionManager) :
    RingsOk (SessionManager.load file) ↔ RingsNumbered (SessionManager.load file) := by
  refine ⟨RingsOk.numbered, ?_⟩
  cases file with
  | none =>
    intro _ id session found
    cases found
  | some => exact fun numbered => (ringState_enforceLoadedBudgets numbered).2

/-- **When the rings of all sessions stay in order.**  A manager is loaded from any file,
or starts empty, and is then operated in any way.  In every state it comes through, each
ring is counted, within its two bounds and numbered consecutively up to the next number
if and only if the rings of the file were numbered, no restart found a session to mark and no
output was kept under the last number there is. -/
theorem ring_accounting_iff (file : Option SessionManager) {ops : List SessionOp}
    {last : SessionManager} (run : Run SessionStep (SessionManager.load file) ops last) :
    (∀ mid, Run.Visits SessionStep (SessionManager.load file) ops mid → RingsOk mid) ↔
      RingsNumbered (SessionManager.load file) ∧
        ∀ mid op, Run.Takes SessionStep (SessionManager.load file) ops mid op →
          op.SparesRings mid := by
  let Small : SessionManager → Prop := fun m => m.maxReplayBytes ≤ Sessions.maxReplayBytes
  have start : Small (SessionManager.load file) := by
    cases file with
    | none => exact le_refl Sessions.maxReplayBytes
    | some => exact clamp_le (by decide) _
  rw [← ringsOk_load_iff]
  refine run.throughout_iff (J := Small) (fun _ _ _ _ left right => left.symm.trans right)
    ?_ ?_ start
  · rintro a op b small rfl
    exact op.budget_le small
  · rintro a op b small ok rfl
    exact op.ringsOk_iff ⟨small, ok⟩

def shellRequest (kind : SessionKind) : OpenRequest where
  kind := kind
  title := "shell"
  creator := "erin"
  command := none
  cwd := none
  size := none
  workspaceId := none

/-- The ring of a process session that has printed something. -/
theorem ring_accounting_iff_printed : (SessionManager.load none).list = [] ∧
      ∀ mid, Run.Visits SessionStep (SessionManager.load none)
        [.seat (.openWith (shellRequest .process) 100 "a" "b"), .pushOutput "ses_a" "hi" .stdout]
        mid → RingsOk mid := by
  refine ⟨rfl, (ring_accounting_iff none (.next rfl (.next rfl (.done _)))).mpr ⟨?_, ?_⟩⟩
  · intro id session found
    cases found
  · rintro mid op ⟨before, after, split, run⟩
    match before, split, run with
    | [], split, _ =>
      obtain ⟨rfl, -⟩ := cons_eq_cons.mp split
      trivial
    | [_], split, .next head (.done _) =>
      cases split
      cases head
      intro session takes _
      obtain rfl := Option.some.inj takes.found
      decide
    | _ :: _ :: _, split, _ => simp at split

/-- A terminal session that is loaded again holds 56 bytes of output and counts none. -/
theorem restart_mark_uncounted : ∃ m session, Run SessionStep (SessionManager.load none)
        [.seat (.openWith (shellRequest .pty) 100 "a" "b"), .reload,
          .markHostsDetachedAfterRestart] m ∧
      m.sessions.lookup "ses_a" = some session ∧ session.replayBytes = 0 ∧
      chunkBytes session.replay = 56 :=
  ⟨_, _, .next rfl (.next rfl (.next rfl (.done _))), rfl, rfl, rfl⟩

end OwnMesh.Sessions
