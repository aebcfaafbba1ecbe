import OwnMesh.DeviceRoom.Messages

/-!
# Expired pending operations

`pruneExpiredPending` returns the operations it removes so that the room can fail their rows,
and `handleMessage` has a result field for them.  Of the places that prune, only the branch for
a ready agent fills it: the replay guard, the requests of clients, the reports of agents,
`prepareInjectOperation` and `status` discard the list.

`prunedSilently` are the moments at which a call prunes and discards.  A call reports exactly
what it removes if and only if nothing has expired, and nothing is over the cap, at any of these
moments (`reports_removed_iff`).  The guard prunes before every message, so a ready agent is
told nothing that had already expired when its message came in (`ready_drops_expired`).
-/

namespace OwnMesh.DeviceRoom

open ControlPlane Foundations Ipc List Router MessageOutcome

/-! ## Pruning -/

section Prune

variable {parseDate : String → Option Int} {now : Int}

/-- The operations that pruning removes. -/
def expired (parseDate : String → Option Int) (now : Int)
    (pending : OrderedMap String PendingOperation) : List PendingOperation :=
  (expiredEntries parseDate now pending).map Prod.snd

@[simp]
theorem pruneExpiredPending_dropped (r : Router) : (r.pruneExpiredPending parseDate now).1.dropped =
      r.dropped ++ expired parseDate now r.pending :=
  rfl

theorem pruneExpiredPending_removed (r : Router) :
    (r.pruneExpiredPending parseDate now).2 = expired parseDate now r.pending :=
  rfl

/-- The operations that stay and those that are listed as dropped are the ones before. -/
theorem pruneExpiredPending_perm (r : Router) :
    ((r.pruneExpiredPending parseDate now).1.pending.values ++
      expired parseDate now r.pending).Perm r.pending.values := by
  let fresh := r.pending.retain fun entry => !isStale parseDate now entry.2
  let sorted := fresh.entries.insertionSort fun a b => createdFirst a b
  have split : (overflow fresh ++ sorted.drop (fresh.size - maxPendingOperations)).Perm
      fresh.entries := by
    rw [overflow, take_append_drop]
    exact perm_insertionSort _ _
  have stale := filter_append_perm (fun entry => isStale parseDate now entry.2) r.pending.entries
  have entries : ((r.pruneExpiredPending parseDate now).1.pending.entries ++
      expiredEntries parseDate now r.pending).Perm r.pending.entries := by
    refine (perm_append_comm_assoc _ _ _).trans (Perm.trans ?_ stale)
    exact (OrderedMap.retain_perm split).append_left _
  have values := entries.map Prod.snd
  rwa [map_append] at values

/-- Pruning that removes nothing leaves the pending operations alone. -/
theorem pruneExpiredPending_idle {r : Router} (idle : expired parseDate now r.pending = []) :
    (r.pruneExpiredPending parseDate now).1.pending = r.pending := by
  have none_ : expiredEntries parseDate now r.pending = [] := map_eq_nil_iff.mp idle
  obtain ⟨noStale, noOver⟩ := append_eq_nil_iff.mp none_
  have fresh : (r.pending.retain fun entry => !isStale parseDate now entry.2) = r.pending := by
    refine OrderedMap.retain_eq_self ?_
    intro entry stored
    have alive := filter_eq_nil_iff.mp noStale entry stored
    simpa using alive
  simp only [pruneExpiredPending, noOver]
  rw [fresh]
  exact OrderedMap.retain_eq_self fun _ _ => rfl

theorem pruneAll_dropped (r : Router) :
    (r.pruneAll parseDate now).1.dropped = r.dropped ++ expired parseDate now r.pending :=
  rfl

theorem pruneAll_idle {r : Router} (idle : expired parseDate now r.pending = []) :
    (r.pruneAll parseDate now).1.pending = r.pending :=
  pruneExpiredPending_idle (r := { r with
    ingressGuards := r.ingressGuards.mapValues (pruneSeenMessageIds now) }) idle

end Prune

/-! ## What the parts of a call drop and report -/

variable {env : Platform} {r : Router}

/-- The operations that an outcome reports as expired. -/
def MessageOutcome.reported : MessageOutcome → List PendingOperation
  | .returned result => result.expiredPending.getD []
  | .thrown => []

section Frames

variable {sessionId : String} {now : Int}

@[simp]
theorem sendToSession_keeps (frame : Frame) :
    (r.sendToSession env sessionId frame).1.pending = r.pending ∧
      (r.sendToSession env sessionId frame).1.dropped = r.dropped := by
  rw [sendToSession]
  split <;> exact ⟨rfl, rfl⟩

@[simp]
theorem reply_keeps (type : String) (payload : Fields) (correlationId : Option Json) :
    (r.reply env sessionId type payload correlationId now).pending = r.pending ∧
      (r.reply env sessionId type payload correlationId now).dropped = r.dropped := by
  simp [reply, nextEnvelope]

@[simp]
theorem sendError_keeps (code message : String) (correlationId : Option Json) :
    (r.sendError env sessionId code message correlationId now).pending = r.pending ∧
      (r.sendError env sessionId code message correlationId now).dropped = r.dropped :=
  reply_keeps _ _ _

@[simp]
theorem reported_rejected (error : String) : (returned (rejected error)).reported = [] :=
  rfl

@[simp]
theorem reported_accepted : (returned accepted).reported = [] :=
  rfl

end Frames

/-- A part of a call that drops nothing without reporting it. -/
def Reports (r : Router) (done : Router × MessageOutcome) : Prop :=
  done.1.dropped = r.dropped ++ done.2.reported

/-- A part of a call that prunes at the time and discards the list. -/
def Discards (parseDate : String → Option Int) (now : Int) (r : Router)
    (done : Router × MessageOutcome) : Prop :=
  done.1.dropped = r.dropped ++ expired parseDate now r.pending ∧ done.2.reported = []

section

variable (now : Int) (sessionId : String) (att : SessionAttachment) (msg : Fields)

theorem handleProof_reports : Reports r (r.handleProof env now sessionId att msg) := by
  rw [handleProof, Reports]
  split
  · simp
  · split
    · simp
    · split
      · simp [reported]
      · dsimp only
        split <;> simp

end

/-- A client's request is read far enough to prune. -/
def requestPrunes (env : Platform) (att : SessionAttachment) (msg : Fields) : Bool :=
  att.role = .client &&
    match (msg.get "payload").filter (!·.isNull) with
    | none => false
    | some payload => (readRequest env att msg payload).isOk

variable {now : Int} {sessionId : String} {att : SessionAttachment} {msg : Fields}

theorem handleRequest_discards (prunes : requestPrunes env att msg = true) :
    Discards env.parseDate now r (r.handleRequest env now sessionId att msg) := by
  simp only [requestPrunes, Bool.and_eq_true, decide_eq_true_eq] at prunes
  obtain ⟨isClient, readable⟩ := prunes
  rw [handleRequest, Discards, if_neg (not_not.mpr isClient)]
  split
  next missing => simp [missing] at readable
  next payload present =>
    simp only [present] at readable
    split
    next failed => simp [failed, Except.isOk, Except.toBool] at readable
    next failed => simp [failed, Except.isOk, Except.toBool] at readable
    next parts read =>
      dsimp only
      split
      · simp
      · split
        · simp
        · simp only [stageRequest, nextEnvelope]
          constructor <;> split <;> rfl

theorem handleRequest_reports (unread : requestPrunes env att msg = false) :
    Reports r (r.handleRequest env now sessionId att msg) := by
  rw [handleRequest, Reports]
  split
  · simp
  next isClient =>
    simp only [requestPrunes, not_not.mp isClient, decide_true, Bool.true_and] at unread
    split
    · simp [reported]
    next payload present =>
      simp only [present] at unread
      split <;> simp
      next parts read => simp [read, Except.isOk, Except.toBool] at unread

/-- An agent's report is read far enough to prune. -/
def reportPrunes (att : SessionAttachment) : Bool := att.role = .agent && att.phase = .ready

theorem handleReport_discards (msg : Fields) (type : String) (prunes : reportPrunes att = true) :
    Discards env.parseDate now r (r.handleReport env now att msg type) := by
  simp only [reportPrunes, Bool.and_eq_true, decide_eq_true_eq] at prunes
  rw [handleReport, Discards, prunes.1, prunes.2]
  dsimp only
  split
  · simp at *
  · split
    · simp
    · split
      · exact ⟨rfl, rfl⟩
      · simp

theorem handleReport_reports (msg : Fields) (type : String) (early : reportPrunes att = false) :
    Reports r (r.handleReport env now att msg type) := by
  have refused : (decide (att.role ≠ .agent) || decide (att.phase ≠ .ready)) = true := by
    rw [reportPrunes] at early
    cases isAgent : decide (att.role = .agent) <;> simp_all
  rw [handleReport, Reports, if_pos refused]
  simp

/-! ## Messages -/

/-- The type of the message prunes and discards. -/
def typePrunes (env : Platform) (att : SessionAttachment) (msg : Fields) : Bool :=
  match (msg.get "type").bind Json.asText with
  | some "operation.request" => requestPrunes env att msg
  | some "operation.result" => reportPrunes att
  | some "operation.event" => reportPrunes att
  | some "operation.progress" => reportPrunes att
  | _ => false

theorem handleType_discards (now : Int) (sessionId : String)
    (prunes : typePrunes env att msg = true) :
    Discards env.parseDate now r (r.handleType env now sessionId att msg) := by
  rw [typePrunes] at prunes
  rw [handleType]
  split at prunes
  next type => simp only [type]; exact handleRequest_discards prunes
  next type => simp only [type]; exact handleReport_discards msg _ prunes
  next type => simp only [type]; exact handleReport_discards msg _ prunes
  next type => simp only [type]; exact handleReport_discards msg _ prunes
  next => cases prunes

theorem handleType_reports (now : Int) (sessionId : String)
    (quiet : typePrunes env att msg = false) :
    Reports r (r.handleType env now sessionId att msg) := by
  rw [handleType]
  split
  next => rw [handleHello, Reports]
          split
          · simp
          · simp [nextEnvelope]
  next => exact handleProof_reports now sessionId att msg
  next => rw [handleReady, Reports]
          repeat' split
          all_goals simp [reported, readyResult, pruneExpiredPending_removed, rejected]
  next type =>
    simp only [typePrunes, type] at quiet
    exact handleRequest_reports quiet
  next type =>
    simp only [typePrunes, type] at quiet
    exact handleReport_reports msg _ quiet
  next type =>
    simp only [typePrunes, type] at quiet
    exact handleReport_reports msg _ quiet
  next type =>
    simp only [typePrunes, type] at quiet
    exact handleReport_reports msg _ quiet
  next => rw [handleReconcile, Reports]
          repeat' split
          all_goals simp [reported, rejected]
  next => simp only [handleRegistry, Reports, nextEnvelope]
          repeat' split
          all_goals simp [reported, rejected]
  next => simp [Reports]
  next => simp [Reports]

/-- The guard prunes, whatever it answers, and does not touch the pending operations
otherwise. -/
theorem guardOrReject_frame (env : Platform) (r : Router) (guardNow : Int) (sessionId : String)
    (msg : Fields) : (r.guardOrReject env guardNow sessionId msg).1.dropped =
        (r.pruneAll env.parseDate guardNow).1.dropped ∧
      (r.guardOrReject env guardNow sessionId msg).1.pending =
        (r.pruneAll env.parseDate guardNow).1.pending := by
  simp only [guardOrReject]
  split
  · simp
  · split
    · split <;> simp
    · split
      · split <;> simp
      · split
        · split <;> simp
        · split
          · split <;> simp
          · simp only [admitMessage]
            split <;> split <;> exact ⟨rfl, rfl⟩

variable {result : HandleMessageResult}

theorem guardOrReject_reported {guardNow : Int}
    (answer : (r.guardOrReject env guardNow sessionId msg).2 = some result) :
    (returned result).reported = [] := by
  simp only [guardOrReject] at answer
  repeat' split at answer
  all_goals first
    | (obtain rfl := Option.some.inj answer; rfl)
    | cases answer

theorem readEnvelope_frame (env : Platform) (r : Router) (now : Int) (sessionId raw : String) :
    (r.readEnvelope env now sessionId raw).1.dropped = r.dropped ∧
      (r.readEnvelope env now sessionId raw).1.pending = r.pending := by
  rw [readEnvelope]
  repeat' split
  all_goals simp

theorem readEnvelope_reported {raw : String}
    (answer : (r.readEnvelope env now sessionId raw).2 = .error result) :
    (returned result).reported = [] := by
  rw [readEnvelope] at answer
  repeat' split at answer
  all_goals first
    | (obtain rfl := Except.error.inj answer; rfl)
    | cases answer

/-! ## Calls -/

inductive RouterCall where
  | handleMessage (guardNow now : Int) (sessionId raw : String)
  | prepareInjectOperation (now : Int) (op : InjectRequest)
  | status (now : Int)

/-- The router after a call, and the operations the caller is told have expired. -/
def RouterCall.perform (env : Platform) (r : Router) : RouterCall → Router × List PendingOperation
  | .handleMessage guardNow now sessionId raw =>
    let handled := r.handleMessage env guardNow now sessionId raw
    (handled.1, handled.2.reported)
  | .prepareInjectOperation now op => ((r.prepareInjectOperation env now op).1, [])
  | .status now => ((r.status env now).1, [])

/-- The call reports exactly the operations that it removes because they have expired or are
over the cap, each of them once. -/
def ReportsRemoved (env : Platform) (r : Router) (call : RouterCall) : Prop :=
  (call.perform env r).1.dropped = r.dropped ++ (call.perform env r).2

/-- The times at which a call prunes and discards the list. -/
def RouterCall.prunedSilently (env : Platform) (r : Router) : RouterCall → List Int
  | .handleMessage guardNow now sessionId raw =>
    match r.readEnvelope env guardNow sessionId raw with
    | (_, .error _) => []
    | (r, .ok (att, msg)) =>
      match r.guardOrReject env guardNow sessionId msg with
      | (_, some _) => [guardNow]
      | (r, none) =>
        if typePrunes env (withLastSeq att r sessionId) msg then [guardNow, now]
        else [guardNow]
  | .prepareInjectOperation now _ => [now]
  | .status now => [now]

theorem registerSession_dropped (att : SessionAttachment) :
    (r.registerSession att).1.dropped = r.dropped := by
  rw [registerSession]
  split
  · rfl
  · dsimp only
    repeat' split
    all_goals rfl

theorem injectSession_dropped (now : Int) (from_ : String) :
    (r.injectSession now from_).1.dropped = r.dropped := by
  rw [injectSession]
  split
  · rfl
  · dsimp only
    split <;> exact registerSession_dropped _

theorem prepareInjectOperation_dropped (now : Int) (op : InjectRequest) :
    (r.prepareInjectOperation env now op).1.dropped =
      r.dropped ++ expired env.parseDate now r.pending := by
  simp only [prepareInjectOperation]
  split
  · simp
  · split
    · simp
    · split
      · simp
      · split
        next session refusal refused =>
          have kept := congrArg (fun done => done.1.dropped) refused
          simp only [injectSession_dropped, pruneExpiredPending_dropped] at kept
          exact kept.symm
        next session created registered =>
          have kept := congrArg (fun done => done.1.dropped) registered
          simp only [injectSession_dropped, pruneExpiredPending_dropped] at kept
          simp only [stageInject]
          split
          · exact kept.symm
          · split <;> exact kept.symm

theorem handleMessage_reports_iff (guardNow now : Int) (sessionId raw : String) :
    ReportsRemoved env r (.handleMessage guardNow now sessionId raw) ↔
      ∀ t ∈ RouterCall.prunedSilently env r (.handleMessage guardNow now sessionId raw),
        expired env.parseDate t r.pending = [] := by
  have envelope := readEnvelope_frame env r guardNow sessionId raw
  simp only [ReportsRemoved, RouterCall.perform, RouterCall.prunedSilently, handleMessage]
  rcases read : r.readEnvelope env guardNow sessionId raw with ⟨read_, result | ⟨att, msg⟩⟩
  · have silent := readEnvelope_reported (congrArg Prod.snd read)
    rw [read] at envelope
    simp only [silent, append_nil, not_mem_nil, false_implies, implies_true, iff_true]
    exact envelope.1
  · rw [read] at envelope
    have guarded := guardOrReject_frame env read_ guardNow sessionId msg
    rw [pruneAll_dropped, envelope.1, envelope.2] at guarded
    have sameGuard : (read_.pruneAll env.parseDate guardNow).1.pending =
        (r.pruneAll env.parseDate guardNow).1.pending := by
      have same : read_.pending = r.pending := envelope.2
      simp only [pruneAll, pruneExpiredPending, same]
    dsimp only
    rcases answer : read_.guardOrReject env guardNow sessionId msg with ⟨passed, _ | result⟩
    · rw [answer] at guarded
      dsimp only
      split
      next prunes =>
        -- Of the two discarded prunings, the second finds what the first has left.
        have discards := handleType_discards (r := passed) now sessionId prunes
        simp only [mem_cons, forall_eq_or_imp, not_mem_nil, false_implies, implies_true, and_true]
        rw [discards.1, discards.2, guarded.1, append_nil, append_assoc, append_right_eq_self,
          append_eq_nil_iff]
        refine and_congr_right fun idle => ?_
        rw [guarded.2, sameGuard, pruneAll_idle idle]
      next quiet =>
        have reports := handleType_reports (r := passed) now sessionId (Bool.not_eq_true _ ▸ quiet)
        simp only [mem_singleton, forall_eq]
        rw [Reports, guarded.1] at reports
        rw [reports, append_left_inj, append_right_eq_self]
    · have silent := guardOrReject_reported (congrArg Prod.snd answer)
      rw [answer] at guarded
      simp only [silent, append_nil, mem_singleton, forall_eq]
      rw [guarded.1, append_right_eq_self]

/-- **Reported expiries.**  A call on the router reports exactly the pending operations that it
removes as expired or over the cap if and only if there are none of them at the times at which
it prunes and discards the list. -/
theorem reports_removed_iff (env : Platform) (r : Router) (call : RouterCall) :
    ReportsRemoved env r call ↔
      ∀ t ∈ call.prunedSilently env r, expired env.parseDate t r.pending = [] := by
  cases call with
  | handleMessage guardNow now sessionId raw =>
    exact handleMessage_reports_iff guardNow now sessionId raw
  | prepareInjectOperation =>
    simp only [ReportsRemoved, RouterCall.perform, RouterCall.prunedSilently,
      prepareInjectOperation_dropped, append_nil, append_right_eq_self,
      mem_singleton, forall_eq]
  | status =>
    simp only [ReportsRemoved, RouterCall.perform, RouterCall.prunedSilently, status,
      pruneExpiredPending_dropped, append_nil, append_right_eq_self,
      mem_singleton, forall_eq]

/-! ## A ready agent -/

/-- An operation that was injected at time zero. -/
def forgotten : PendingOperation where
  correlationId := "op_1"
  type := "fs.read"
  fromSession := "http_client"
  createdAt := some 0
  payload := []
  expiresAt := none
  dispatchedAt := none
  dispatchCount := 0
  liveOnly := false

def readyMessage : Fields :=
  [("protocol", .text protocol), ("type", .text "ready"), ("message_id", .text "msg_1"),
    ("seq", .number (.integer 1)), ("payload", .object [])]

/-- A platform on which every message is the one above. -/
def readyPlatform : Platform where
  enc := ⟨fun _ => "", fun _ => "", fun _ => ""⟩
  parse := fun _ => some (.object readyMessage)
  parseDate := fun _ => none
  integer := fun value =>
    match value with
    | .number (.integer n) => some n
    | _ => none
  lower := id
  timestamp := fun _ => ""
  localeLe := fun _ _ => true
  messageId := fun _ => ""
  nonceB := fun _ => ""
  connectionId := fun _ => ""
  verifyProof := fun _ _ _ => true
  delivers := fun _ => true

/-- A room with a proven agent and the operation above. -/
def forgetfulRoom : Router where
  deviceId := "dev_1"
  sessions := OrderedMap.empty.set "agent"
    { role := .agent, deviceId := "dev_1", sessionId := "agent", connectedAt := 0,
      phase := .proven }
  pending := OrderedMap.empty.set "op_1" forgotten
  ingressGuards := OrderedMap.empty
  seqOut := 0
  sent := []
  dropped := []

/-- The agent becomes ready after the operation's time to live: the operation is removed and
the answer lists nothing. -/
theorem ready_drops_expired :
    let call := RouterCall.handleMessage 900001 900001 "agent" ""
    (call.perform readyPlatform forgetfulRoom).1.dropped = [forgotten] ∧
      (call.perform readyPlatform forgetfulRoom).2 = [] ∧
      ¬ ReportsRemoved readyPlatform forgetfulRoom call := by
  have dropped : (RouterCall.perform readyPlatform forgetfulRoom
      (.handleMessage 900001 900001 "agent" "")).1.dropped = [forgotten] := rfl
  have reported : (RouterCall.perform readyPlatform forgetfulRoom
      (.handleMessage 900001 900001 "agent" "")).2 = [] := rfl
  refine ⟨dropped, reported, ?_⟩
  intro reports
  cases reports

end OwnMesh.DeviceRoom
