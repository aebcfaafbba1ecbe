import OwnMesh.Daemon.Handlers
import OwnMesh.Sessions.Operations

/-!
# Output of a host the daemon runs itself

A drain reads what the host of a session has to say, in rounds and up to a budget, appends it
to the session and writes the session.  When something was lost, or is left, a note says so;
when the child of the host has exited, another note says that.
-/

namespace OwnMesh.Daemon

open Foundations Ipc Sessions Program

/-- What a host the daemon runs itself had to say when its output was read. -/
structure DrainOutput where
  text : String
  (ringTruncated exited : Bool)
  exitCode : Option Nat
  remaining : Nat

/-- The surroundings of a drain. -/
structure DrainEnvironment (ω : Type) extends Environment ω where
  drainOutput : String → Nat → ω → Except String DrainOutput × ω
  pendingOutputBytes : String → ω → Nat × ω

section Programs

variable {ω : Type} (env : DrainEnvironment ω)

def maxReplayPageBytes : Nat := 256 * 1024

/-- As many characters as fit into the budget, and the rest. -/
def takeBytes : Nat → List Char → List Char × List Char
  | _, [] => ([], [])
  | budget, c :: rest =>
    if c.utf8Size ≤ budget then
      let (piece, remaining) := takeBytes (budget - c.utf8Size) rest
      (c :: piece, remaining)
    else ([], c :: rest)

/-- A text in pieces of at most one chunk; every piece takes at least one character. -/
def chunkPieces : Nat → List Char → List String
  | 0, _ => []
  | _, [] => []
  | rounds + 1, text =>
    let (piece, rest) := takeBytes maxChunkBytes text
    String.ofList piece :: chunkPieces rounds rest

/-- What draining has seen so far. -/
structure Drained where
  bytes : Nat
  (ringTruncated exited : Bool)
  exitCode : Option Nat
  remaining : Nat

/-- Append the pieces of a text to the session and write it. -/
def foldText (id text : String) : DaemonM ω Unit := do
  let snapshot ← reads DaemonRuntime.sessions
  forEach (fun piece => withSessions (Sessions.discard (pushOutput id piece .stdout)))
    (chunkPieces text.length text.toList)
  commitSessions env.toEnvironment snapshot

/-- Read the output of the host until it is empty or the budget is used up.  A round
that goes on has read at least one byte, so the budget bounds the rounds too. -/
def drainLoop (id : String) : Nat → Drained → DaemonM ω Drained
  | 0, seen => pure seen
  | rounds + 1, seen =>
    if maxReplayPageBytes ≤ seen.bytes then pure seen
    else do
      match ← ask (env.drainOutput id (min (maxReplayPageBytes - seen.bytes) maxChunkBytes)) with
      | .error e => fail (.remote AppError.internal s!"live PTY drain failed: {e}")
      | .ok output => do
        let seen : Drained :=
          { bytes := seen.bytes + output.text.utf8ByteSize
            ringTruncated := seen.ringTruncated || output.ringTruncated
            exited := seen.exited || output.exited
            exitCode := output.exitCode <|> seen.exitCode
            remaining := output.remaining }
        if output.text = "" then pure seen
        else do
          foldText env id output.text
          if output.remaining = 0 then pure seen else drainLoop id rounds seen

/-- Append a note to the session; a note that does not fit is dropped. -/
def systemNote (id text : String) : DaemonM ω Unit := do
  let _ ← attempt (withSessions (Sessions.discard (pushOutput id text .system)) : DaemonM ω Unit)
  pure ()

/-- The part of a drain that comes before the note of an exit. -/
def DrainEnvironment.drainPending (id : String) : DaemonM ω Drained := do
  let seen ← drainLoop env id maxReplayPageBytes
    { bytes := 0, ringTruncated := false, exited := false, exitCode := none, remaining := 0 }
  let pending ← ask (env.pendingOutputBytes id)
  let remaining := max seen.remaining pending
  whenever (seen.ringTruncated = true ∨ 0 < remaining) (do
    let snapshot ← reads DaemonRuntime.sessions
    whenever (seen.ringTruncated = true)
      (systemNote id "[live-pty ring truncated under backpressure]")
    whenever (0 < remaining)
      (systemNote id s!"[live-pty more output pending bytes={remaining}; continue replay]")
    commitSessions env.toEnvironment snapshot)
  pure seen

def exitNote : Option Nat → String
  | some code => s!"[live-pty exited code={code}]"
  | none => "[live-pty exited]"

/-- A note that cannot be written is taken back, and the drain goes on. -/
def DrainEnvironment.noteExit (id : String) (code : Option Nat) : DaemonM ω Unit := do
  let snapshot ← reads DaemonRuntime.sessions
  systemNote id (exitNote code)
  let _ ← attempt (commitSessions env.toEnvironment snapshot)
  pure ()

def DrainEnvironment.drainLiveOutputIntoSession (id : String) : DaemonM ω Nat := do
  let live ← reads fun d : DaemonRuntime ω => d.liveHosts.contains id
  if live then do
    let seen ← env.drainPending id
    whenever (seen.exited = true) (env.noteExit id seen.exitCode)
    pure seen.bytes
  else pure 0

end Programs

end OwnMesh.Daemon
