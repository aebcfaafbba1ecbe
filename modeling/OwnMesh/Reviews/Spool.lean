import OwnMesh.Foundations.Run

/-!
# The spool of a review

The outputs of a review are appended to a spool of bounded chunks, which the result store
checks once more before it writes the file.  The spool always passes these checks.  An output
that does not fit is cut, and a notice says so; but one that finds no room at all is dropped
without a word, after the spool was filled exactly or by sixty chunks.
-/

namespace OwnMesh.Reviews

open Foundations List

def reviewCaptureBytes : Nat := 160 * 1024
def reviewContentBytes : Nat := 140 * 1024
def maxChunkBytes : Nat := 64 * 1024
def maxTests : Nat := 16
def maxResultBytes : Nat := 512 * 1024
def maxResultFileBytes : Nat := 900 * 1024

inductive ResultKind where
  | gitStatus | gitDiff | commandStdout | commandStderr | testStdout | testStderr | system
deriving DecidableEq

structure ReviewResultChunk where
  kind : ResultKind
  testIndex : Option UInt8
  bytes : List UInt8
deriving DecidableEq

variable {chunks more : List ReviewResultChunk}

def used (chunks : List ReviewResultChunk) : Nat := (chunks.map fun chunk => chunk.bytes.length).sum

def textBytes (text : String) : List UInt8 := text.toList.flatMap String.utf8EncodeChar

def appendReviewSystem (chunks : List ReviewResultChunk) (text : List UInt8) :
    List ReviewResultChunk :=
  if 64 ≤ chunks.length then chunks
  else
    let room := reviewCaptureBytes - used chunks
    if room = 0 then chunks
    else chunks ++ [⟨.system, none, text.take (min (min text.length room) maxChunkBytes)⟩]

/-- The slices of the bytes, all but the last of the size. -/
def slices (size : Nat) (bytes : List UInt8) : List (List UInt8) :=
  (range ((bytes.length + size - 1) / size)).map fun i => (bytes.drop (i * size)).take size

def truncationNotice (omitted : Nat) : List UInt8 :=
  textBytes s!"review output truncated: omitted {omitted} bytes"

/-- The chunks for the bytes. -/
def parts (kind : ResultKind) (testIndex : Option UInt8) (bytes : List UInt8) :
    List ReviewResultChunk :=
  (slices maxChunkBytes bytes).map fun part => ⟨kind, testIndex, part⟩

def appendReviewResult (chunks : List ReviewResultChunk) (kind : ResultKind)
    (testIndex : Option UInt8) (bytes : List UInt8) : List ReviewResultChunk :=
  if 60 ≤ chunks.length then chunks
  else
    let room := reviewContentBytes - used chunks
    if room = 0 then chunks
    else
      let take := min bytes.length room
      let stored := chunks ++ parts kind testIndex (bytes.take take)
      if take < bytes.length then appendReviewSystem stored (truncationNotice (bytes.length - take))
      else stored

/-! ## The checks of the result store -/

def validReviewId (id : String) : Bool :=
  decide (id.utf8ByteSize ≤ 128) && "rev_".toList.isPrefixOf id.toList &&
    id.toList.all fun c => c.isAlphanum || c == '_'

def kindIndexValid (kind : ResultKind) (testIndex : Option UInt8) : Bool :=
  decide (kind = .testStdout ∨ kind = .testStderr) == testIndex.isSome

/-- The chunk is not one that a review has. -/
def ReviewResultChunk.faulty (chunk : ReviewResultChunk) : Bool :=
  decide (maxChunkBytes < chunk.bytes.length) ||
    chunk.testIndex.any (fun i => decide (maxTests ≤ i.toNat)) ||
    !kindIndexValid chunk.kind chunk.testIndex

def ResultKind.name : ResultKind → String
  | .gitStatus => "git_status"
  | .gitDiff => "git_diff"
  | .commandStdout => "command_stdout"
  | .commandStderr => "command_stderr"
  | .testStdout => "test_stdout"
  | .testStderr => "test_stderr"
  | .system => "system"

def commaSeparated : List String → String
  | [] => ""
  | [item] => item
  | item :: rest => item ++ "," ++ commaSeparated rest

def ReviewResultChunk.json (chunk : ReviewResultChunk) : String :=
  "\x7b\"kind\":\"" ++ chunk.kind.name ++ "\",\"test_index\":" ++
    chunk.testIndex.elim "null" (toString ·.toNat) ++ ",\"bytes\":[" ++
    commaSeparated (chunk.bytes.map (toString ·.toNat)) ++ "]\x7d"

/-- What `serde_json::to_vec` makes of the file. -/
def resultDisk (expiresUnix : Int64) (chunks : List ReviewResultChunk) : List UInt8 :=
  textBytes ("\x7b\"version\":1,\"expires_unix\":" ++ toString expiresUnix.toInt ++
    ",\"chunks\":[" ++ commaSeparated (chunks.map ReviewResultChunk.json) ++ "]\x7d")

/-- The checks that come before the file is written. -/
def checkReviewResult (reviewId : String) (expiresUnix : Int64)
    (chunks : List ReviewResultChunk) : Except String Unit :=
  if !validReviewId reviewId || decide (64 < chunks.length) ||
      chunks.any ReviewResultChunk.faulty then
    .error "invalid bounded review result chunks"
  else if maxResultBytes < used chunks then .error "review result aggregate cap exceeded"
  else if maxResultFileBytes < (resultDisk expiresUnix chunks).length then
    .error "encoded review result cap exceeded"
  else .ok ()

/-! ## The bounds -/

/-- What the spool keeps to, however much is appended. -/
structure Bounded (chunks : List ReviewResultChunk) : Prop where
  count : chunks.length ≤ 64
  total : used chunks ≤ reviewCaptureBytes
  each : ∀ chunk ∈ chunks, chunk.faulty = false

theorem used_append : used (chunks ++ more) = used chunks + used more := by
  simp [used]

theorem used_singleton (chunk : ReviewResultChunk) : used [chunk] = chunk.bytes.length := by
  simp [used]

theorem Bounded.system (bounded : Bounded chunks) (text : List UInt8) :
    Bounded (appendReviewSystem chunks text) := by
  have total := bounded.total
  rw [appendReviewSystem]
  split
  · exact bounded
  dsimp only
  split
  · exact bounded
  refine ⟨?_, ?_, forall_mem_append.mpr ⟨bounded.each, forall_mem_singleton.mpr ?_⟩⟩
  · simp only [length_append, length_singleton]
    omega
  · rw [used_append, used_singleton, length_take]
    omega
  · simp [ReviewResultChunk.faulty, kindIndexValid]

theorem flatten_slices {size : Nat} (positive : 0 < size) (bytes : List UInt8) :
    (slices size bytes).flatten = bytes := by
  have upTo : ∀ n, ((range n).map fun i => (bytes.drop (i * size)).take size).flatten =
      bytes.take (n * size) := by
    intro n
    induction n with
    | zero => simp
    | succ n ih => simp [range_succ, ih, Nat.succ_mul, take_add]
  rw [slices, upTo, take_of_length_le]
  have whole := Nat.div_add_mod (bytes.length + size - 1) size
  have rest := Nat.mod_lt (bytes.length + size - 1) positive
  rw [Nat.mul_comm]
  omega

section Parts

variable (kind : ResultKind) (testIndex : Option UInt8) (bytes : List UInt8)

theorem flatMap_parts : (parts kind testIndex bytes).flatMap ReviewResultChunk.bytes = bytes := by
  rw [parts, flatMap_map, flatMap_id']
  exact flatten_slices (by decide) bytes

theorem used_parts : used (parts kind testIndex bytes) = bytes.length := by
  conv_rhs => rw [← flatMap_parts kind testIndex bytes, length_flatMap]
  rfl

theorem length_parts (before : Nat) : (parts kind testIndex
    (bytes.take (min bytes.length (reviewContentBytes - before)))).length ≤ 3 := by
  rw [parts, length_map, slices, length_map, length_range, length_take, reviewContentBytes,
    maxChunkBytes]
  omega

end Parts

structure ReviewOutput where
  kind : ResultKind
  testIndex : Option UInt8
  bytes : List UInt8
  indexed : kindIndexValid kind testIndex = true
  known : testIndex.any (fun i => decide (maxTests ≤ i.toNat)) = false
  sized : bytes.length < 2 ^ 64

/-- A call that appends to the spool. -/
inductive Append where
  | result (output : ReviewOutput)
  | system (text : String)

def Append.bytes : Append → List UInt8
  | .result output => output.bytes
  | .system text => textBytes text

def Append.apply (chunks : List ReviewResultChunk) : Append → List ReviewResultChunk
  | .result output => appendReviewResult chunks output.kind output.testIndex output.bytes
  | .system text => appendReviewSystem chunks (textBytes text)

theorem Bounded.apply (bounded : Bounded chunks) (call : Append) : Bounded (call.apply chunks) := by
  cases call with
  | system text => exact bounded.system _
  | result output =>
    rw [Append.apply, appendReviewResult]
    split
    · exact bounded
    dsimp only
    split
    · exact bounded
    have stored : Bounded (chunks ++ parts output.kind output.testIndex (output.bytes.take
        (min output.bytes.length (reviewContentBytes - used chunks)))) := by
      refine ⟨?_, ?_, forall_mem_append.mpr ⟨bounded.each, ?_⟩⟩
      · have few := length_parts output.kind output.testIndex output.bytes (used chunks)
        rw [length_append]
        omega
      · have reserved : reviewContentBytes ≤ reviewCaptureBytes := by decide
        rw [used_append, used_parts, length_take]
        omega
      · simp only [parts, slices, mem_map]
        rintro _ ⟨_, ⟨i, -, rfl⟩, rfl⟩
        simp [ReviewResultChunk.faulty, output.indexed, output.known]
    split
    · exact stored.system _
    · exact stored

/-! ## The size of the file -/

theorem textBytes_append (first second : String) :
    textBytes (first ++ second) = textBytes first ++ textBytes second := by
  simp [textBytes]

theorem length_textBytes_le (text : String) : (textBytes text).length ≤ 4 * text.length := by
  have each := sum_le_card_nsmul (text.toList.map fun c => (String.utf8EncodeChar c).length) 4
    (forall_mem_map.mpr fun c _ => by
      rw [String.length_utf8EncodeChar]
      exact c.utf8Size_le_four)
  rw [textBytes, length_flatMap]
  rwa [length_map, String.length_toList, smul_eq_mul, mul_comm] at each

theorem length_commaSeparated_le (items : List String) :
    (textBytes (commaSeparated items)).length ≤
      (items.map fun item => (textBytes item).length + 1).sum := by
  induction items with
  | nil => simp [commaSeparated, textBytes]
  | cons item rest ih =>
    cases rest with
    | nil => simp [commaSeparated]
    | cons next rest =>
      have comma : (textBytes ",").length = 1 := by decide
      rw [commaSeparated, textBytes_append, textBytes_append, length_append, length_append, comma,
        map_cons, sum_cons]
      · omega
      · simp

theorem length_byte_le (byte : UInt8) : (textBytes (toString byte.toNat)).length ≤ 3 := by
  have small : ∀ n < 256, (textBytes (toString n)).length ≤ 3 := by decide +kernel
  exact small _ byte.toNat_lt

theorem ReviewResultChunk.length_json_le (chunk : ReviewResultChunk) :
    (textBytes chunk.json).length ≤ 54 + 4 * chunk.bytes.length := by
  have kind : (textBytes chunk.kind.name).length ≤ 14 := by
    cases chunk.kind <;> decide
  have index : (textBytes (chunk.testIndex.elim "null" (toString ·.toNat))).length ≤ 4 := by
    cases chunk.testIndex with
    | none => decide
    | some index => exact (length_byte_le index).trans (by decide)
  have bytes := length_commaSeparated_le (chunk.bytes.map (toString ·.toNat))
  have byte (n : Nat) (isByte : n ∈ chunk.bytes.map fun byte =>
      (textBytes (toString byte.toNat)).length + 1) : n ≤ 4 := by
    obtain ⟨byte, -, rfl⟩ := mem_map.mp isByte
    have := length_byte_le byte
    omega
  have each := sum_le_card_nsmul _ 4 byte
  have fixed : (textBytes "\x7b\"kind\":\"").length = 9 ∧
      (textBytes "\",\"test_index\":").length = 15 ∧ (textBytes ",\"bytes\":[").length = 10 ∧
      (textBytes "]\x7d").length = 2 := by decide +kernel
  simp only [map_map, Function.comp_def, length_map, smul_eq_mul] at bytes each
  simp only [json, textBytes_append, length_append]
  omega

theorem length_toString_int64_le (n : Int64) : (toString n.toInt).length ≤ 21 := by
  have low := n.le_toInt
  have high := n.toInt_lt
  have digits (m : Nat) (small : m < 10 ^ 20) : (toString m).length ≤ 20 :=
    Nat.repr_length m 20 (by decide) small
  cases isInt : n.toInt with
  | ofNat m =>
    rw [isInt, Int.ofNat_eq_natCast] at high
    exact (digits m (by omega)).trans (by decide)
  | negSucc m =>
    have rest := digits (m + 1) (by omega)
    have sign : toString (Int.negSucc m) = "-" ++ toString (m + 1) := rfl
    have minus : ("-" : String).length = 1 := by decide
    rw [sign, String.length_append]
    omega

theorem length_resultDisk_le (expiresUnix : Int64) (chunks : List ReviewResultChunk) :
    (resultDisk expiresUnix chunks).length ≤ 128 + 55 * chunks.length + 4 * used chunks := by
  have items := length_commaSeparated_le (chunks.map ReviewResultChunk.json)
  have each : ((chunks.map ReviewResultChunk.json).map fun item =>
      (textBytes item).length + 1).sum ≤ 55 * chunks.length + 4 * used chunks := by
    induction chunks with
    | nil => simp
    | cons chunk rest ih =>
      have own := chunk.length_json_le
      have := ih (length_commaSeparated_le _)
      simp only [map_cons, sum_cons, length_cons, used] at this ⊢
      omega
  have date := (length_textBytes_le (toString expiresUnix.toInt)).trans
    (Nat.mul_le_mul_left 4 (length_toString_int64_le expiresUnix))
  have fixed : (textBytes "\x7b\"version\":1,\"expires_unix\":").length = 28 ∧
      (textBytes ",\"chunks\":[").length = 11 ∧ (textBytes "]\x7d").length = 2 := by decide
  simp only [resultDisk, textBytes_append, length_append]
  omega

/-- A spool within the bounds passes the checks of the result store. -/
theorem Bounded.checked (bounded : Bounded chunks) {reviewId : String}
    (valid : validReviewId reviewId = true) (expiresUnix : Int64) :
    checkReviewResult reviewId expiresUnix chunks = .ok () := by
  have count := bounded.count
  have total := bounded.total
  have file := length_resultDisk_le expiresUnix chunks
  have fits : (resultDisk expiresUnix chunks).length ≤ maxResultFileBytes := by
    unfold reviewCaptureBytes at total
    unfold maxResultFileBytes
    omega
  have sound : chunks.any ReviewResultChunk.faulty = false := by simpa using bounded.each
  rw [checkReviewResult, valid, sound, if_neg (by simp [count]),
    if_neg (not_lt.mpr (total.trans (by decide))), if_neg (not_lt.mpr fits)]

/-! ## Notices -/

/-- The text says that something is missing from the spool. -/
def IsNotice (text : List UInt8) : Prop :=
  text = textBytes "review aggregate spool truncated at bounded chunk budget" ∨
    ∃ omitted, text = truncationNotice omitted

def HasNotice (chunks : List ReviewResultChunk) : Prop :=
  ∃ chunk ∈ chunks, chunk.kind = .system ∧ IsNotice chunk.bytes

/-- The spool, and whether a byte that was appended is missing from it. -/
structure ReviewSpool where
  chunks : List ReviewResultChunk
  missing : Bool

def ReviewSpool.append (s : ReviewSpool) (call : Append) : ReviewSpool where
  chunks := call.apply s.chunks
  missing := s.missing || !call.bytes.isPrefixOf
    (((call.apply s.chunks).drop s.chunks.length).flatMap ReviewResultChunk.bytes)

/-- How much of a text there is room for. -/
def systemRoom (chunks : List ReviewResultChunk) : Nat :=
  min (reviewCaptureBytes - used chunks) maxChunkBytes

/-- The call finds room, or the spool has a notice, or a text that is stored is one. -/
def Noted (chunks : List ReviewResultChunk) : Append → Prop
  | .result output => HasNotice chunks ∨ output.bytes = [] ∨
      chunks.length < 60 ∧ used chunks < reviewContentBytes
  | .system text => HasNotice chunks ∨ textBytes text = [] ∨
      chunks.length < 64 ∧ ((textBytes text).length ≤ systemRoom chunks ∨
        used chunks < reviewCaptureBytes ∧ IsNotice ((textBytes text).take (systemRoom chunks)))

theorem length_truncationNotice {omitted : Nat} (small : omitted < 2 ^ 64) :
    (truncationNotice omitted).length ≤ 240 := by
  have digits : (toString omitted).length ≤ 20 :=
    Nat.repr_length omitted 20 (by decide) (small.trans (by decide))
  refine (length_textBytes_le _).trans ?_
  rw [String.length_append, String.length_append]
  have prose : (toString "review output truncated: omitted ").length = 33 ∧
    (toString " bytes").length = 6 := by decide
  omega

theorem hasNotice_append : HasNotice (chunks ++ more) ↔ HasNotice chunks ∨ HasNotice more := by
  simp only [HasNotice, mem_append, or_and_right, exists_or]

/-- The text is stored, as far as there is room. -/
theorem appendReviewSystem_of_room {text : List UInt8} (few : chunks.length < 64)
    (room : used chunks < reviewCaptureBytes) : appendReviewSystem chunks text =
      chunks ++ [⟨.system, none, text.take (systemRoom chunks)⟩] := by
  rw [appendReviewSystem, if_neg (not_le.mpr few), if_neg (by omega), min_assoc,
    min_comm text.length, ← take_eq_take_min, systemRoom]

/-- An output is stored if there is room; what is cut from it is noted. -/
theorem appendReviewResult_of_room (output : ReviewOutput) (few : chunks.length < 60)
    (room : used chunks < reviewContentBytes) :
    ∃ added, appendReviewResult chunks output.kind output.testIndex output.bytes = chunks ++ added ∧
      (HasNotice added ∨ output.bytes = added.flatMap ReviewResultChunk.bytes) := by
  rw [appendReviewResult, if_neg (not_le.mpr few), if_neg (by omega)]
  dsimp only
  split
  next cut =>
    have parts := length_parts output.kind output.testIndex output.bytes (used chunks)
    have notice := length_truncationNotice (lt_of_le_of_lt (Nat.sub_le output.bytes.length
      (min output.bytes.length (reviewContentBytes - used chunks))) output.sized)
    have reserved : reviewContentBytes + 240 ≤ reviewCaptureBytes ∧ 240 ≤ maxChunkBytes := by decide
    rw [appendReviewSystem_of_room, systemRoom, used_append, used_parts, length_take,
      take_of_length_le (l := truncationNotice _), append_assoc]
    · exact ⟨_, rfl, .inl ⟨_, mem_append_right _ (mem_singleton_self _), rfl, .inr ⟨_, rfl⟩⟩⟩
    · omega
    · rw [length_append]
      omega
    · rw [used_append, used_parts, length_take]
      omega
  next whole =>
    refine ⟨_, rfl, .inr ?_⟩
    rw [flatMap_parts, take_of_length_le (not_lt.mp whole)]

/-- One call leaves nothing missing without a notice exactly when it finds room, or there is a
notice already. -/
theorem noted_iff {s : ReviewSpool} (noted : s.missing = true → HasNotice s.chunks)
    (call : Append) :
    ((s.append call).missing = true → HasNotice (s.append call).chunks) ↔ Noted s.chunks call := by
  have kept {added : List ReviewResultChunk} (next : call.apply s.chunks = s.chunks ++ added) :
      ((s.append call).missing = true → HasNotice (s.append call).chunks) ↔
        HasNotice (s.chunks ++ added) ∨ call.bytes <+: added.flatMap ReviewResultChunk.bytes := by
    have still : s.missing = true → HasNotice (s.chunks ++ added) := fun lost =>
      hasNotice_append.mpr (.inl (noted lost))
    simp only [ReviewSpool.append, next, drop_left, Bool.or_eq_true, Bool.not_eq_true',
      ← Bool.not_eq_true, isPrefixOf_iff_prefix]
    tauto
  cases call with
  | system text =>
    rw [Noted]
    by_cases full : 64 ≤ s.chunks.length ∨ reviewCaptureBytes ≤ used s.chunks
    · have same : appendReviewSystem s.chunks (textBytes text) = s.chunks ++ [] := by
        rw [appendReviewSystem, append_nil]
        dsimp only
        split_ifs <;> first | rfl | omega
      rw [kept same, append_nil]
      refine or_congr_right ⟨fun empty => .inl (prefix_nil.mp empty), ?_⟩
      rintro (empty | ⟨few, fits | ⟨room, -⟩⟩)
      · exact prefix_nil.mpr empty
      · have nothing : (textBytes text).length = 0 := by rw [systemRoom] at fits; omega
        exact prefix_nil.mpr (length_eq_zero_iff.mp nothing)
      · omega
    · push Not at full
      rw [kept (appendReviewSystem_of_room full.1 full.2), flatMap_singleton, Append.bytes,
        hasNotice_append]
      constructor
      · rintro ((already | ⟨_, only, -, notice⟩) | stored)
        · exact .inl already
        · obtain rfl := mem_singleton.mp only
          exact .inr (.inr ⟨full.1, .inr ⟨full.2, notice⟩⟩)
        · have whole := stored.length_le
          rw [length_take] at whole
          exact .inr (.inr ⟨full.1, .inl (by omega)⟩)
      · rintro (already | empty | ⟨-, fits | ⟨-, notice⟩⟩)
        · exact .inl (.inl already)
        · rw [empty]
          exact .inr nil_prefix
        · rw [take_of_length_le fits]
          exact .inr prefix_rfl
        · exact .inl (.inr ⟨_, mem_singleton_self _, rfl, notice⟩)
  | result output =>
    rw [Noted]
    by_cases room : s.chunks.length < 60 ∧ used s.chunks < reviewContentBytes
    · obtain ⟨added, next, stored⟩ := appendReviewResult_of_room output room.1 room.2
      refine (kept next).trans (iff_of_true ?_ (.inr (.inr room)))
      rcases stored with ⟨chunk, member, notice⟩ | same
      · exact .inl ⟨chunk, mem_append_right _ member, notice⟩
      · exact .inr (same ▸ prefix_rfl)
    · have same : appendReviewResult s.chunks output.kind output.testIndex output.bytes =
          s.chunks ++ [] := by
        rw [appendReviewResult, append_nil]
        dsimp only
        split_ifs <;> first | rfl | omega
      rw [kept same]
      simp [Append.bytes, room]

def AppendStep (s : ReviewSpool) (call : Append) (t : ReviewSpool) : Prop := t = s.append call

/-- **When truncation is noted.**  Whatever is appended, the spool passes the checks of the result
store; and a byte is only ever missing from it together with a notice if and only if every call
finds room for at least the beginning of an output, and for all of a text, until there is one. -/
theorem review_truncation_noted_iff (calls : List Append) :
    (∀ mid, Run.Visits AppendStep ⟨[], false⟩ calls mid → ∀ reviewId expiresUnix,
      validReviewId reviewId = true →
        checkReviewResult reviewId expiresUnix mid.chunks = .ok ()) ∧
    ((∀ mid, Run.Visits AppendStep ⟨[], false⟩ calls mid →
        mid.missing = true → HasNotice mid.chunks) ↔
      ∀ mid call, Run.Takes AppendStep ⟨[], false⟩ calls mid call → Noted mid.chunks call) := by
  constructor
  · intro mid visits reviewId expiresUnix valid
    refine Bounded.checked (visits.invariant (I := fun s => Bounded s.chunks) ?_ ?_) valid _
    · rintro a call b bounded rfl
      exact bounded.apply call
    · exact ⟨by simp, Nat.zero_le _, by simp⟩
  · have exactly := (Run.played ReviewSpool.append calls ⟨[], false⟩).throughout_iff
      (I := fun s => s.missing = true → HasNotice s.chunks) (J := fun _ => True)
      (C := fun s call => Noted s.chunks call) (fun _ _ _ _ left right => left.trans right.symm)
      (fun _ _ => trivial) ?_ trivial
    · exact exactly.trans (and_iff_right nofun)
    · rintro a call b - noted rfl
      exact noted_iff noted call

/-- An output of so many zeros. -/
def zeros (count : Nat) (sized : count < 2 ^ 64) : ReviewOutput where
  kind := .commandStdout
  testIndex := none
  bytes := replicate count 0
  indexed := rfl
  known := rfl
  sized := by rwa [length_replicate]

/-- An output that is one byte too long passes the checks, and a notice comes with the cut. -/
theorem review_truncation_noted_long :
    let s := ReviewSpool.append ⟨[], false⟩ (.result (zeros (reviewContentBytes + 1) (by decide)))
    checkReviewResult "rev_1" 0 s.chunks = .ok () ∧ (s.missing = true → HasNotice s.chunks) := by
  generalize isLong : Append.result (zeros (reviewContentBytes + 1) (by decide)) = long
  have visits : Run.Visits AppendStep ⟨[], false⟩ [long] (ReviewSpool.append ⟨[], false⟩ long) :=
    ⟨[long], [], rfl, .next rfl (.done _)⟩
  obtain ⟨passes, noted⟩ := review_truncation_noted_iff [long]
  refine ⟨passes _ visits "rev_1" 0 (by decide +kernel), noted.mpr ?_ _ visits⟩
  rintro mid call ⟨before, after, split, run⟩
  cases before with
  | cons => simp at split
  | nil =>
    cases run
    obtain ⟨rfl, -⟩ := cons_eq_cons.mp split
    rw [← isLong]
    exact .inr (.inr ⟨by decide, by decide⟩)

/-- An output that fills the spool exactly is kept whole, and the byte that comes after it is
dropped without a notice. -/
theorem late_output_dropped : ∃ s, Run.Visits AppendStep ⟨[], false⟩
    [.result (zeros reviewContentBytes (by decide)), .result (zeros 1 (by decide))] s ∧
      s.missing = true ∧ ¬ HasNotice s.chunks := by
  let full := zeros reviewContentBytes (by decide)
  have size : full.bytes.length = reviewContentBytes := length_replicate
  have filled : (ReviewSpool.append ⟨[], false⟩ (.result full)).chunks =
      parts .commandStdout none full.bytes := by
    have room : reviewContentBytes - used [] = reviewContentBytes := rfl
    rw [ReviewSpool.append, Append.apply, appendReviewResult, if_neg (by simp), room, size]
    dsimp only
    rw [min_self, if_neg (by decide), if_neg (lt_irrefl _), nil_append, take_of_length_le size.le]
    rfl
  have noted := (noted_iff (s := ⟨[], false⟩) nofun (.result full)).mpr
    (.inr (.inr ⟨by decide, by decide⟩))
  have unnoted : ¬ Noted (ReviewSpool.append ⟨[], false⟩ (.result full)).chunks
      (.result (zeros 1 (by decide))) := by
    rw [filled, Noted, used_parts]
    rintro (⟨chunk, member, isSystem, -⟩ | empty | ⟨-, room⟩)
    · obtain ⟨part, -, rfl⟩ := mem_map.mp member
      cases isSystem
    · cases empty
    · exact room.ne size
  have silent := mt (noted_iff noted (.result (zeros 1 (by decide)))).mp unnoted
  push Not at silent
  refine ⟨_, ⟨_, [], (append_nil _).symm, Run.played ReviewSpool.append _ _⟩, ?_⟩
  rw [foldl_cons, foldl_cons, foldl_nil]
  exact silent

end OwnMesh.Reviews
