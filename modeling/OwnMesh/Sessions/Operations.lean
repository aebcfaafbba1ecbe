import OwnMesh.Foundations.Run
import OwnMesh.Sessions.Effects

/-!
# The other operations of the session manager

Opening a session, observers, output and its ring, the sequence numbers of controller
input, and the settings of a session; together with those of the manager module these
are all operations that change a manager.  `SeatOp` lists the ones that are about the
controller seat and `SessionOp` all of them, so that a run of the manager is a list of
operations, each of which may fail.
-/

namespace OwnMesh.Sessions

open Foundations Program

/-! ## Opening a session -/

def maxChunkBytes : Nat := 64 * 1024

structure PtySize where
  (cols rows : Nat)
deriving DecidableEq, Repr

def PtySize.default : PtySize := ⟨80, 24⟩

/-- What a new session is asked to be. -/
structure OpenRequest where
  kind : SessionKind
  (title creator : String)
  command : Option (List String)
  cwd : Option String
  size : Option PtySize
  workspaceId : Option String

def SessionManager.new : SessionManager where
  sessions := ∅
  defaultReplayLimit := defaultReplayChunkLimit
  defaultLeaseTtlSecs := 3600
  maxSessions := Sessions.maxSessions
  maxReplayBytes := Sessions.maxReplayBytes

/-- The description of a session that was just opened; its creator holds the seat. -/
def OpenRequest.info (request : OpenRequest) (id : String) (lease : ControllerLease) :
    SessionInfo where
  id := id
  kind := request.kind
  state := .running
  title := request.title
  controller := some lease
  controllerEpoch := 1
  observers := []
  cols := (request.size.getD .default).cols
  rows := (request.size.getD .default).rows
  nextSeq := 1
  viewMode := .raw
  hostPid := none
  sidecarHost := none
  command := request.command
  cwd := request.cwd
  workspaceId := request.workspaceId
  lastInputSeq := 0
  lastInputDigest := none
  lastInputState := .none
  lastResizeSeq := 0
  lastResizeDigest := none
  lastResizeState := .none

/-- Open a session; the two identifiers are drawn at random. -/
def openWith (request : OpenRequest) (now : Int) (freshSession freshLease : String) :
    SessionM SessionInfo := do
  let m ← reads id
  require (m.sessions.entries.length < m.maxSessions) .sessionLimit
  let id := s!"ses_{freshSession}"
  let info := request.info id
    { principalId := request.creator
      leaseId := s!"lease_{freshLease}"
      epoch := 1
      expiresUnix := now + m.defaultLeaseTtlSecs }
  Program.modify fun m =>
    { m with
      sessions := m.sessions.insert id
        { info := info, replay := [], replayLimit := m.defaultReplayLimit, replayBytes := 0 } }
  pure info

/-- Become an observer; the holder of the seat stays what it is, active or not. -/
def attachObserver (id principal : String) (now : Int) : SessionM Unit := do
  let info ← info id
  require (info.state ≠ .closed) .closed
  let active := (info.activeController now).any fun lease => lease.principalId = principal
  let expired := info.controller.any fun lease =>
    lease.principalId = principal && !lease.isActive now
  if principal ∉ info.observers ∧ active = false ∧ expired = false then
    updateInfo id fun info => { info with observers := info.observers ++ [principal] }
  else pure ()

theorem attachObserver_edits {m : SessionManager} {id : String} (principal : String) (now : Int) :
    Edits m id
      (fun info (_ : Unit) => info.state ≠ .closed ∧ principal ∉ info.observers ∧
        ∀ lease, info.controller = some lease → lease.principalId ≠ principal)
      (fun _ => True) (fun _ info => { info with observers := info.observers ++ [principal] })
      ((attachObserver id principal now).run m) := by
  refine info_bind_cases (fun e _ => .refused e) fun info found => ?_
  refine run_require_bind_cases (fun _ => .refused _) fun alive => ?_
  by_cases joins : principal ∉ info.observers ∧
      ((info.activeController now).any fun lease => lease.principalId = principal) = false ∧
      (info.controller.any fun lease =>
        lease.principalId = principal && !lease.isActive now) = false
  · rw [if_pos joins]
    refine .edited (b := ()) () found ⟨alive, joins.1, ?_⟩
    rintro lease held rfl
    obtain ⟨-, active, expired⟩ := joins
    rw [SessionInfo.activeController, held] at active
    rw [held] at expired
    cases lives : lease.isActive now with
    | true => simp [Option.filter_some, lives] at active
    | false => simp [lives] at expired
  · rw [if_neg joins]
    exact .still () found trivial

/-! ## Output -/

/-- Drop chunks from the front until at most `limit` remain, counting their bytes off. -/
def dropToCount (limit : Nat) : Nat → List OutputChunk → List OutputChunk × Nat
  | bytes, [] => ([], bytes)
  | bytes, chunk :: rest =>
    if (chunk :: rest).length > limit then
      dropToCount limit (bytes - chunk.data.utf8ByteSize) rest
    else (chunk :: rest, bytes)

/-- Append a chunk to the ring and make room for it. -/
def Session.pushChunk (budget : Nat) (chunk : OutputChunk) (session : Session) : Session :=
  let bytes := min (2 ^ 64 - 1) (session.replayBytes + chunk.data.utf8ByteSize)
  let (counted, bytes) := dropToCount session.replayLimit bytes (session.replay ++ [chunk])
  let (replay, bytes) := trimToBytes budget bytes counted
  { session with
    info := { session.info with nextSeq := followingSeq session.info.nextSeq }
    replay := replay
    replayBytes := bytes }

def pushOutput (id data : String) (stream : StreamKind) : SessionM OutputChunk := do
  require (data.utf8ByteSize ≤ maxChunkBytes) .chunkTooLarge
  let m ← reads fun m => m
  let info ← info id
  require (info.state ≠ .closed) .closed
  require (data.utf8ByteSize ≤ m.maxReplayBytes) .replayBudget
  let chunk : OutputChunk := { seq := info.nextSeq, data := data, stream := stream }
  Program.modify fun m =>
    { m with sessions := m.sessions.adjust id (Session.pushChunk m.maxReplayBytes chunk) }
  pure chunk

theorem pushOutput_cases {m : SessionManager} {id data : String} {stream : StreamKind}
    {P : Except SessionError OutputChunk × SessionManager → Prop} (refused : ∀ e, P (.error e, m))
    (pushed : ∀ info, m.get id = .ok info → data.utf8ByteSize ≤ m.maxReplayBytes →
      P (.ok ⟨info.nextSeq, data, stream⟩,
        { m with
          sessions := m.sessions.adjust id
            (Session.pushChunk m.maxReplayBytes ⟨info.nextSeq, data, stream⟩) })) :
    P ((pushOutput id data stream).run m) := by
  refine run_require_bind_cases (fun _ => refused _) fun _ => ?_
  refine info_bind_cases (fun e _ => refused e) fun info found => ?_
  refine run_require_bind_cases (fun _ => refused _) fun _ => ?_
  exact run_require_bind_cases (fun _ => refused _) (pushed info found)

/-- The session that takes the output. -/
structure TakesOutput (m : SessionManager) (id data : String) (session : Session) : Prop where
  found : m.sessions.lookup id = some session
  chunk : data.utf8ByteSize ≤ maxChunkBytes
  opened : session.info.state ≠ .closed
  budget : data.utf8ByteSize ≤ m.maxReplayBytes

theorem TakesOutput.run {m : SessionManager} {id data : String} {session : Session}
    (takes : TakesOutput m id data session) (stream : StreamKind) :
    (pushOutput id data stream).run m = (.ok ⟨session.info.nextSeq, data, stream⟩,
      { m with
        sessions := m.sessions.adjust id
          (Session.pushChunk m.maxReplayBytes ⟨session.info.nextSeq, data, stream⟩) }) := by
  rw [pushOutput, run_bind_of_ok (run_require_of_holds takes.chunk _ _), run_reads_bind,
    run_bind_of_ok (info_run (get_ok_iff.mpr ⟨session, takes.found, rfl⟩)),
    run_bind_of_ok (run_require_of_holds takes.opened _ _),
    run_bind_of_ok (run_require_of_holds takes.budget _ _)]
  rfl

theorem pushOutput_refused {m : SessionManager} {id data : String} {stream : StreamKind}
    (none : ∀ session, ¬ TakesOutput m id data session) :
    ((pushOutput id data stream).run m).2 = m := by
  refine run_require_bind_cases (P := (·.2 = m)) (fun _ => rfl) fun chunk => ?_
  refine info_bind_cases (P := (·.2 = m)) (fun _ _ => rfl) fun info found => ?_
  refine run_require_bind_cases (P := (·.2 = m)) (fun _ => rfl) fun opened => ?_
  refine run_require_bind_cases (P := (·.2 = m)) (fun _ => rfl) fun budget => ?_
  obtain ⟨session, there, rfl⟩ := get_ok_iff.mp found
  exact absurd ⟨there, chunk, opened, budget⟩ (none session)

variable {R : SessionManager → SessionManager → Prop}

theorem pushOutput_moves [Std.Refl R] {id : String} (push : ∀ m chunk, R m
      { m with sessions := m.sessions.adjust id (Session.pushChunk m.maxReplayBytes chunk) })
    (data : String) (stream : StreamKind) : Moves R (pushOutput id data stream) :=
  fun m => pushOutput_cases (P := fun r => R m r.2) (fun _ => refl_of R m) fun _ _ _ => push m _

/-- Who may write to the terminal: the active holder of the seat. -/
def authorizeStdin (id principal : String) (now : Int) : SessionM Unit := do
  let info ← info id
  require (info.state ≠ .closed) .closed
  match info.controller with
  | none => fail .notController
  | some lease => do
    require (lease.principalId = principal) .observerCannotWrite
    require (lease.isActive now = true) .notController

/-! ## Sequence numbers of controller input -/

/-- What happens to a sequence number that is asked for. -/
inductive SeqReserveOutcome where
  | deliver (seq : Nat)
  | retryPending (seq : Nat)
  | replayed (seq : Nat)
deriving DecidableEq, Repr

/-- Reserve a sequence number for a payload before its side effect. -/
def reserveControllerSeq (id : String) (seq : Nat) (digest : String) (channel : SeqChannel) :
    SessionM SeqReserveOutcome := do
  require (seq ≠ 0) (.invalid s!"{channel.kind}_seq must be >= 1")
  let info ← info id
  require (info.state ≠ .closed) .closed
  let receipt := info.receipt channel
  if 0 < receipt.seq ∧ seq = receipt.seq then do
    require (receipt.digest.getD "" = digest) (.sequenceConflict channel.kind seq)
    match receipt.state with
    | .applied => pure (.replayed seq)
    | .pending => pure (.retryPending seq)
    | .none => pure (.retryPending seq)
  else do
    let expected := min (2 ^ 64 - 1) (receipt.seq + 1)
    require (expected ≤ seq) (.sequenceStale channel.kind seq receipt.seq)
    require (seq ≤ expected) (.sequenceGap channel.kind seq expected)
    updateInfo id fun info => info.setReceipt ⟨seq, some digest, .pending⟩ channel
    pure (.deliver seq)

/-- Note that the side effect of a reserved number has happened. -/
def finalizeControllerSeq (id : String) (seq : Nat) (channel : SeqChannel) : SessionM Unit := do
  let info ← info id
  let last := (info.receipt channel).seq
  require (last = seq)
    (.invalid s!"{channel.kind}_seq finalize mismatch: reserved {last}, got {seq}")
  updateInfo id fun info =>
    info.setReceipt { info.receipt channel with state := .applied } channel

/-- Reserve and finalize in one go, without a payload. -/
def advanceSeq (id : String) (seq : Nat) (channel : SeqChannel) : SessionM Nat := do
  match ← reserveControllerSeq id seq "" channel with
  | .deliver seq | .retryPending seq => do
    finalizeControllerSeq id seq channel
    pure seq
  | .replayed seq => pure seq

/-- The outcomes of reserving a number.  A number that may be delivered follows the last
one; a number that is asked for again is the last one, with the same digest. -/
inductive Reserving (m : SessionManager) (id : String) (seq : Nat) (digest : String)
    (channel : SeqChannel) : Except SessionError SeqReserveOutcome → SessionManager → Prop
  | refused (e : SessionError) : Reserving m id seq digest channel (.error e) m
  | deliver (info : SessionInfo) (found : m.get id = .ok info)
      (next : seq = min (2 ^ 64 - 1) ((info.receipt channel).seq + 1))
      (first : ¬ (0 < (info.receipt channel).seq ∧ seq = (info.receipt channel).seq)) :
      Reserving m id seq digest channel (.ok (.deliver seq))
        (m.updateInfo id fun info => info.setReceipt ⟨seq, some digest, .pending⟩ channel)
  | retryPending : Reserving m id seq digest channel (.ok (.retryPending seq)) m
  | replayed (info : SessionInfo) (found : m.get id = .ok info)
      (last : 0 < (info.receipt channel).seq ∧ seq = (info.receipt channel).seq)
      (matching : (info.receipt channel).digest.getD "" = digest)
      (applied : (info.receipt channel).state = .applied) :
      Reserving m id seq digest channel (.ok (.replayed seq)) m

section Sequences

variable {m : SessionManager} {id : String} {channel : SeqChannel}

theorem reserveControllerSeq_cases (m : SessionManager) (id : String) (seq : Nat) (digest : String)
    (channel : SeqChannel) :
    Reserving m id seq digest channel ((reserveControllerSeq id seq digest channel).run m).1
      ((reserveControllerSeq id seq digest channel).run m).2 := by
  let Reserves : Except SessionError SeqReserveOutcome × SessionManager → Prop := fun result =>
    Reserving m id seq digest channel result.1 result.2
  refine run_require_bind_cases (P := Reserves) (fun _ => .refused _) fun _ => ?_
  refine info_bind_cases (fun e _ => .refused e) fun info found => ?_
  refine run_require_bind_cases (fun _ => .refused _) fun _ => ?_
  dsimp only
  split
  · next last =>
      refine run_require_bind_cases (fun _ => .refused _) fun matching => ?_
      cases state : (info.receipt channel).state with
      | applied => exact .replayed info found last matching state
      | pending | none => exact .retryPending
  · next first =>
      refine run_require_bind_cases (fun _ => .refused _) fun atLeast => ?_
      refine run_require_bind_cases (fun _ => .refused _) fun atMost => ?_
      exact .deliver info found (Nat.le_antisymm atMost atLeast) first

theorem finalizeControllerSeq_edits (seq : Nat) (channel : SeqChannel) :
    Edits m id (fun info (_ : Unit) => (info.receipt channel).seq = seq) (fun _ => False)
      (fun _ info => info.setReceipt { info.receipt channel with state := .applied } channel)
      ((finalizeControllerSeq id seq channel).run m) :=
  info_bind_cases (fun e _ => .refused e) fun _ found =>
    run_require_bind_cases (fun _ => .refused _) fun last => .edited (b := ()) () found last

variable {R : SessionManager → SessionManager → Prop} [Std.Refl R]
  (update : ∀ f : SessionInfo → SeqReceipt,
    Moves R (updateInfo id fun info => info.setReceipt (f info) channel))
include update

theorem reserveControllerSeq_moves (seq : Nat) (digest : String) :
    Moves R (reserveControllerSeq id seq digest channel) := by
  intro m
  have reserves := reserveControllerSeq_cases m id seq digest channel
  generalize ((reserveControllerSeq id seq digest channel).run m).1 = answer at reserves
  generalize ((reserveControllerSeq id seq digest channel).run m).2 = m' at reserves ⊢
  cases reserves with
  | refused | retryPending | replayed => exact refl_of R m
  | deliver => exact update (fun _ => ⟨seq, some digest, .pending⟩) m

theorem finalizeControllerSeq_moves (seq : Nat) : Moves R (finalizeControllerSeq id seq channel) :=
  fun _ => (finalizeControllerSeq_edits seq channel).moves fun _ => update _

theorem advanceSeq_moves [IsTrans SessionManager R] (seq : Nat) :
    Moves R (advanceSeq id seq channel) := by
  refine .bind (reserveControllerSeq_moves update seq "") fun outcome => ?_
  cases outcome with
  | deliver seq | retryPending seq =>
    exact .bind (finalizeControllerSeq_moves update seq) fun _ => .pure
  | replayed => exact .pure

end Sequences

/-! ## Settings -/

def resize (id principal : String) (cols rows : Nat) (now : Int) : SessionM Unit := do
  authorizeController id principal now
  setInfo id fun info => { info with cols := cols, rows := rows }

def setViewMode (id principal : String) (mode : PtyViewMode) (now : Int) : SessionM Unit := do
  authorizeController id principal now
  setInfo id fun info => { info with viewMode := mode }

def setState (id : String) (state : SessionState) : SessionM Unit :=
  setInfo id fun info => { info with state := state }

def setControllerExpiresUnix (id : String) (expiresUnix : Int) : SessionM Unit := do
  let info ← info id
  match info.controller with
  | none => fail .notController
  | some lease =>
    updateInfo id fun info =>
      { info with controller := some { lease with expiresUnix := expiresUnix } }

def terminateAll : SessionM Nat := do
  let count ← reads fun m : SessionManager => m.sessions.entries.length
  Program.modify fun m => { m with sessions := ∅ }
  pure count

/-! ## Runs of the manager -/

/-- The operations on the controller seat. -/
inductive SeatOp where
  | openWith (request : OpenRequest) (now : Int) (freshSession freshLease : String)
  | attachObserver (id principal : String) (now : Int)
  | claimController (id principal : String) (now : Int) (fresh : String)
  | giveController (id giver receiver : String) (now : Int) (fresh : String)
  | releaseController (id principal : String) (now : Int)
  | detachControllerLease (id principal leaseId : String) (epoch : Nat) (now : Int)
  | renewControllerLease (id principal leaseId : String) (epoch : Nat) (now ttl : Int)
  | expireStaleLeases (now : Int)
  | reconcileControllerFromTransition (id principal leaseId : String) (epoch : Nat)
      (expiresUnix : Int) (attached : Bool)
  | close (id : String)

/-- Run a program for what it does to the manager. -/
def discard {α : Type} (m : SessionM α) : SessionM Unit := do
  let _ ← m
  pure ()

theorem discard_moves [Std.Refl R]
    [IsTrans SessionManager R] {α : Type} {m : SessionM α} (moves : Moves R m) :
    Moves R (discard m) :=
  .bind moves fun _ => .pure

/-- The state a program leaves is that of its run, whatever it answers. -/
theorem discard_run {α : Type} (m : SessionM α) (s : SessionManager) :
    ((discard m).run s).2 = (m.run s).2 := by
  rcases ran : m.run s with ⟨_ | a, t⟩
  · rw [discard, run_bind_of_error ran]
  · rw [discard, run_bind_of_ok ran]
    rfl

def SeatOp.program : SeatOp → SessionM Unit
  | .openWith request now freshSession freshLease =>
    discard (Sessions.openWith request now freshSession freshLease)
  | .attachObserver id principal now => Sessions.attachObserver id principal now
  | .claimController id principal now fresh =>
    discard (Sessions.claimController id principal now fresh)
  | .giveController id giver receiver now fresh =>
    discard (Sessions.giveController id giver receiver now fresh)
  | .releaseController id principal now => Sessions.releaseController id principal now
  | .detachControllerLease id principal leaseId epoch now =>
    Sessions.detachControllerLease id principal leaseId epoch now
  | .renewControllerLease id principal leaseId epoch now ttl =>
    discard (Sessions.renewControllerLease id principal leaseId epoch now ttl)
  | .expireStaleLeases now => Program.modify fun m => m.expireStaleLeases now
  | .reconcileControllerFromTransition id principal leaseId epoch expiresUnix attached =>
    Sessions.reconcileControllerFromTransition id principal leaseId epoch expiresUnix attached
  | .close id => Sessions.close id

/-- All operations that change the manager.  `reload` saves the manager and loads it
again; `markHostsDetachedAfterRestart` is what the daemon does to a manager it has
loaded. -/
inductive SessionOp where
  | seat (op : SeatOp)
  | pushOutput (id data : String) (stream : StreamKind)
  | reserveControllerSeq (id : String) (seq : Nat) (digest : String) (channel : SeqChannel)
  | finalizeControllerSeq (id : String) (seq : Nat) (channel : SeqChannel)
  | advanceSeq (id : String) (seq : Nat) (channel : SeqChannel)
  | resize (id principal : String) (cols rows : Nat) (now : Int)
  | setViewMode (id principal : String) (mode : PtyViewMode) (now : Int)
  | setHostPid (id : String) (pid : Option Nat)
  | setState (id : String) (state : SessionState)
  | setSidecarHostBinding (id : String) (binding : Option SidecarHostBinding)
  | setControllerExpiresUnix (id : String) (expiresUnix : Int)
  | terminate (id : String)
  | terminateAll
  | reload
  | markHostsDetachedAfterRestart

def SessionOp.program : SessionOp → SessionM Unit
  | .seat op => op.program
  | .pushOutput id data stream => discard (Sessions.pushOutput id data stream)
  | .reserveControllerSeq id seq digest channel =>
    discard (Sessions.reserveControllerSeq id seq digest channel)
  | .finalizeControllerSeq id seq channel => Sessions.finalizeControllerSeq id seq channel
  | .advanceSeq id seq channel => discard (Sessions.advanceSeq id seq channel)
  | .resize id principal cols rows now => Sessions.resize id principal cols rows now
  | .setViewMode id principal mode now => Sessions.setViewMode id principal mode now
  | .setHostPid id pid => Sessions.setHostPid id pid
  | .setState id state => Sessions.setState id state
  | .setSidecarHostBinding id binding => Sessions.setSidecarHostBinding id binding
  | .setControllerExpiresUnix id expiresUnix =>
    Sessions.setControllerExpiresUnix id expiresUnix
  | .terminate id => Sessions.terminate id
  | .terminateAll => discard Sessions.terminateAll
  | .reload => Program.modify SessionManager.enforceLoadedBudgets
  | .markHostsDetachedAfterRestart =>
    Program.modify SessionManager.markHostsDetachedAfterRestart

end OwnMesh.Sessions
