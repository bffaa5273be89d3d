import SuitCode.CodexRollouts
import SuitCode.Library.PosixNormalForm
import Mathlib.Data.PNat.Defs
import Mathlib.Data.PNat.Notation

/-!
# Sessions of native agents

A session is what a parser reads from the transcript of an agent; a capture is the
transcript in segments.  The counts are natural numbers, so that the checks for
negative counts have no counterpart.
-/

namespace SuitCode

open PosixText KeyedList

/-! ## Sessions -/

inductive NativeAgentKind where
  | codex
  | claude
  | cursor
  deriving DecidableEq, Repr

inductive CorrelationQuality where
  | none
  | repoOnly
  | sessionOnly
  | toolOverlap
  | strong
  deriving DecidableEq, Repr

def CorrelationQuality.value : CorrelationQuality → String
  | .none => "none"
  | .repoOnly => "repo_only"
  | .sessionOnly => "session_only"
  | .toolOverlap => "tool_overlap"
  | .strong => "strong"

structure NativeSessionArtifact where
  sessionId : String
  artifactPath : String
  repositoryRoot : Option String
  startedAt : ℤ
  lastEventAt : ℤ
  cwd : Option String
  cliVersion : Option String
  modelProvider : Option String
  eventCount : ℕ
  deriving DecidableEq, Repr

def NativeSessionArtifact.create (artifact : NativeSessionArtifact) :
    PyResult NativeSessionArtifact :=
  validated
    [(isBlank artifact.sessionId, "value must not be empty"),
      (isBlank artifact.artifactPath, "value must not be empty"),
      (artifact.lastEventAt < artifact.startedAt, "last_event_at must be >= started_at")]
    { artifact with
      sessionId := strip artifact.sessionId
      artifactPath := strip artifact.artifactPath }

/-- `first_seen_at` and `last_seen_at` are both there and in the wrong order. -/
def seenOutOfOrder (firstSeenAt lastSeenAt : Option ℤ) : Bool :=
  firstSeenAt.any fun first => lastSeenAt.any fun last => last < first

structure NativeSuitCodeToolUse where
  toolName : String
  callCount : ℕ
  firstSeenAt : Option ℤ
  lastSeenAt : Option ℤ
  toolName_nonblank : isBlank toolName = false
  callCount_pos : 0 < callCount
  seen_inOrder : seenOutOfOrder firstSeenAt lastSeenAt = false
  deriving DecidableEq, Repr

def NativeSuitCodeToolUse.create (toolName : String) (callCount : ℕ)
    (firstSeenAt lastSeenAt : Option ℤ) : PyResult NativeSuitCodeToolUse :=
  if hblank : isBlank toolName = true then
    raiseValueError "tool_name must not be empty"
  else if hcount : callCount = 0 then
    raiseValueError "call_count must be > 0"
  else if hseen : seenOutOfOrder firstSeenAt lastSeenAt = true then
    raiseValueError "last_seen_at must be >= first_seen_at"
  else
    .ok
      { toolName := strip toolName
        callCount := callCount
        firstSeenAt := firstSeenAt
        lastSeenAt := lastSeenAt
        toolName_nonblank := by rw [isBlank_strip]; simpa using hblank
        callCount_pos := by omega
        seen_inOrder := by simpa using hseen }

structure NativeTranscriptMetrics where
  eventCount : ℕ := 0
  messageEventCount : ℕ := 0
  toolEventCount : ℕ := 0
  assistantMessageCount : ℕ := 0
  userMessageCount : ℕ := 0
  mcpToolCallCount : ℕ := 0
  suitcodeToolCallCount : ℕ := 0
  approxInputCharacters : ℕ := 0
  approxOutputCharacters : ℕ := 0
  nativeReportedInputTokens : Option ℕ := none
  nativeReportedOutputTokens : Option ℕ := none
  nativeReportedCacheCreationTokens : Option ℕ := none
  nativeReportedCacheReadTokens : Option ℕ := none
  deriving DecidableEq, Repr

/-! ## Captures -/

inductive TranscriptSegmentKind where
  | userMessage
  | assistantMessage
  | mcpToolCall
  | mcpToolOutput
  | customToolCall
  | customToolOutput
  | terminalOutput
  | reasoningSummary
  | systemContext
  deriving DecidableEq, Repr

def toolSegmentKinds : List TranscriptSegmentKind :=
  [.mcpToolCall, .mcpToolOutput, .customToolCall, .customToolOutput, .terminalOutput]

structure TranscriptSegment where
  segmentId : String
  sessionId : String
  sequenceIndex : ℕ
  timestampUtc : String
  kind : TranscriptSegmentKind
  role : Option String := none
  toolName : Option String := none
  contentText : String
  contentBytes : ℕ
  metadata : List (String × String) := []
  isMcp : Bool := false
  isSuitcode : Bool := false
  canonicalToolName : Option String := none
  deriving DecidableEq, Repr

def TranscriptSegment.checks (segment : TranscriptSegment) : List (Bool × String) :=
  [(isBlank segment.segmentId, "value must not be empty"),
    (isBlank segment.sessionId, "value must not be empty"),
    (isBlank segment.timestampUtc, "value must not be empty"),
    (isBlank segment.contentText, "value must not be empty"),
    (segment.sequenceIndex = 0, "sequence_index must be > 0"),
    (segment.kind ∈ toolSegmentKinds && segment.toolName.all isBlank,
      "tool_name is required for tool-related transcript segments"),
    (segment.canonicalToolName.isSome && !segment.isSuitcode,
      "canonical_tool_name requires is_suitcode=True"),
    (segment.isSuitcode && !segment.isMcp, "is_suitcode=True requires is_mcp=True")]

def TranscriptSegment.stripped (segment : TranscriptSegment) : TranscriptSegment :=
  { segment with
    segmentId := strip segment.segmentId
    sessionId := strip segment.sessionId
    timestampUtc := strip segment.timestampUtc
    contentText := strip segment.contentText }

def TranscriptSegment.create (segment : TranscriptSegment) : PyResult TranscriptSegment :=
  validated segment.checks segment.stripped

structure TranscriptSegment.Valid (segment : TranscriptSegment) : Prop where
  segmentId : isBlank segment.segmentId = false
  sessionId : isBlank segment.sessionId = false
  timestampUtc : isBlank segment.timestampUtc = false
  contentText : isBlank segment.contentText = false
  sequenceIndex : segment.sequenceIndex ≠ 0
  toolName : segment.kind ∈ toolSegmentKinds → segment.toolName.all isBlank = false
  canonicalToolName : segment.canonicalToolName.isSome = true → segment.isSuitcode = true
  isSuitcode : segment.isSuitcode = true → segment.isMcp = true

/-- Exactly the valid segments are made, with their texts stripped. -/
theorem TranscriptSegment.create_eq_ok {segment result : TranscriptSegment} :
    segment.create = .ok result ↔ segment.Valid ∧ segment.stripped = result := by
  unfold TranscriptSegment.create
  rw [validated_eq_ok]
  constructor
  · rintro ⟨hresult, hchecks⟩
    simp only [TranscriptSegment.checks, List.forall_mem_cons] at hchecks
    rcases hchecks with ⟨hid, hsession, htime, hcontent, hindex, htool, hcanonical, hsuitcode, -⟩
    refine ⟨⟨hid, hsession, htime, hcontent, by simpa using hindex, ?_, ?_, ?_⟩, hresult⟩
    · simpa using htool
    · simpa using hcanonical
    · simpa using hsuitcode
  · rintro ⟨hvalid, hresult⟩
    refine ⟨hresult, ?_⟩
    simp only [TranscriptSegment.checks, List.forall_mem_cons]
    refine ⟨hvalid.segmentId, hvalid.sessionId, hvalid.timestampUtc, hvalid.contentText, ?_, ?_,
      ?_, ?_, by simp⟩
    · simpa using hvalid.sequenceIndex
    · simpa using hvalid.toolName
    · simpa using hvalid.canonicalToolName
    · simpa using hvalid.isSuitcode

structure TranscriptCapture where
  sessionId : String
  repositoryRoot : Option String
  artifactPath : String
  segments : List TranscriptSegment
  deriving DecidableEq, Repr

/-- The loop of `_validate_capture`, with the ids already met and the index which
is expected next. -/
def validateSegments (sessionId : String) :
    List String → ℕ → List TranscriptSegment → PyResult Unit
  | _, _, [] => .ok ()
  | seenIds, expectedIndex, segment :: segments =>
      if segment.sessionId ≠ sessionId then
        raiseValueError "all transcript segments must share the same session_id"
      else if segment.sequenceIndex ≠ expectedIndex then
        raiseValueError "transcript segments must have contiguous sequence_index values"
      else if segment.segmentId ∈ seenIds then
        raiseValueError "transcript segment IDs must be unique"
      else
        validateSegments sessionId (segment.segmentId :: seenIds) (expectedIndex + 1) segments

def TranscriptCapture.create (capture : TranscriptCapture) : PyResult TranscriptCapture := do
  let capture ← validated
    [(isBlank capture.sessionId, "value must not be empty"),
      (isBlank capture.artifactPath, "value must not be empty")]
    { capture with
      sessionId := strip capture.sessionId
      artifactPath := strip capture.artifactPath }
  validateSegments capture.sessionId [] 1 capture.segments
  pure capture

/-! ### Segments in their places -/

def segmentIdAt (sessionId : String) (sequenceIndex : ℕ) : String :=
  sessionId ++ ":segment:" ++ toString sequenceIndex

theorem isBlank_segmentIdAt (sessionId : String) (sequenceIndex : ℕ) :
    isBlank (segmentIdAt sessionId sequenceIndex) = false := by
  unfold segmentIdAt
  rw [isBlank_append, isBlank_append]
  have hmiddle : isBlank ":segment:" = false := by decide
  rw [hmiddle, Bool.and_false, Bool.false_and]

theorem rdropWhile_index (sequenceIndex : ℕ) :
    (":segment:" ++ toString sequenceIndex).toList.rdropWhile isSpace =
      (":segment:" ++ toString sequenceIndex).toList := by
  have hdigits : (toString sequenceIndex).toList = Nat.toDigits 10 sequenceIndex := by
    rw [Nat.toString_eq_ofList_toDigits, String.toList_ofList]
  rw [List.rdropWhile_eq_self_iff]
  intro hne
  have hlast : (":segment:" ++ toString sequenceIndex).toList.getLast hne ∈
      Nat.toDigits 10 sequenceIndex := by
    simp only [String.toList_append, hdigits]
    rw [List.getLast_append_of_ne_nil _ Nat.toDigits_ne_nil]
    exact List.getLast_mem _
  rw [isSpace_of_isDigit (Nat.isDigit_of_mem_toDigits (by decide) (by decide) hlast)]
  simp

theorem strip_segmentIdAt_injective {sessionId : String} (hsession : isBlank sessionId = false)
    {left right : ℕ}
    (hsame : strip (segmentIdAt sessionId left) = strip (segmentIdAt sessionId right)) :
    left = right := by
  have hblank : ∀ index : ℕ, isBlank (":segment:" ++ toString index) = false := by
    intro index
    rw [isBlank_append]
    rfl
  have hlist := congrArg String.toList hsame
  simp only [segmentIdAt, String.append_assoc] at hlist
  rw [toList_strip_append hsession (hblank left), toList_strip_append hsession (hblank right),
    rdropWhile_index, rdropWhile_index] at hlist
  have hindex := List.append_cancel_left hlist
  simp only [String.toList_append, List.append_cancel_left_eq, Nat.toString_eq_ofList_toDigits,
    String.toList_ofList] at hindex
  have hnumber := congrArg (Nat.ofDigitChars 10 · 0) hindex
  simpa [Nat.ofDigitChars_ten_toDigits] using hnumber

def PlacedFrom (sessionId : String) : ℕ → List TranscriptSegment → Prop
  | _, [] => True
  | index, segment :: segments =>
      segment.sessionId = strip sessionId ∧ segment.sequenceIndex = index ∧
        segment.segmentId = strip (segmentIdAt sessionId index) ∧
        PlacedFrom sessionId (index + 1) segments

theorem placedFrom_append {sessionId : String} {index : ℕ}
    {before after : List TranscriptSegment} :
    PlacedFrom sessionId index (before ++ after) ↔
      PlacedFrom sessionId index before ∧
        PlacedFrom sessionId (index + before.length) after := by
  induction before generalizing index with
  | nil => simp [PlacedFrom]
  | cons segment before ih =>
      simp only [List.cons_append, PlacedFrom, ih, List.length_cons, and_assoc]
      rw [Nat.add_right_comm, Nat.add_assoc]

theorem validateSegments_of_placed {sessionId : String} (hsession : isBlank sessionId = false)
    {seenIds : List String} {index : ℕ} {segments : List TranscriptSegment}
    (hseen : ∀ id ∈ seenIds, ∃ earlier < index, id = strip (segmentIdAt sessionId earlier))
    (hplaced : PlacedFrom sessionId index segments) :
    validateSegments (strip sessionId) seenIds index segments = .ok () := by
  induction segments generalizing seenIds index with
  | nil => rfl
  | cons segment segments ih =>
      rcases hplaced with ⟨hid, hindex, hsegment, hrest⟩
      have hnew : segment.segmentId ∉ seenIds := by
        intro hmem
        rcases hseen _ hmem with ⟨earlier, hearlier, heq⟩
        rw [hsegment] at heq
        have := strip_segmentIdAt_injective hsession heq
        omega
      rw [validateSegments, if_neg (by simp [hid]), if_neg (by simp [hindex]), if_neg hnew]
      apply ih _ hrest
      intro id hmem
      rcases List.mem_cons.mp hmem with rfl | hmem
      · exact ⟨index, by omega, hsegment⟩
      · rcases hseen id hmem with ⟨earlier, hearlier, heq⟩
        exact ⟨earlier, by omega, heq⟩

/-! ## Token estimates -/

structure TranscriptTokenBreakdown where
  modelFamily : String
  sessionId : String
  totalTokens : ℕ
  userMessageTokens : ℕ := 0
  assistantMessageTokens : ℕ := 0
  mcpToolCallTokens : ℕ := 0
  mcpToolOutputTokens : ℕ := 0
  customToolCallTokens : ℕ := 0
  customToolOutputTokens : ℕ := 0
  terminalOutputTokens : ℕ := 0
  reasoningSummaryTokens : ℕ := 0
  tokensBeforeFirstSuitcodeTool : Option ℕ := none
  tokensBeforeFirstHighValueSuitcodeTool : Option ℕ := none
  firstSuitcodeTool : Option String := none
  firstHighValueSuitcodeTool : Option String := none
  deriving DecidableEq, Repr

/-! ## Analytics of a session -/

abbrev NonBlank := { text : String // isBlank text = false }

/-- The indices of the first tools count from one. -/
structure NativeSessionAnalytics where
  agentKind : NativeAgentKind
  sessionId : NonBlank
  artifact : NativeSessionArtifact
  repositoryRoot : Option String
  usedSuitcode : Bool
  suitcodeTools : List NativeSuitCodeToolUse
  firstSuitcodeTool : Option String
  firstSuitcodeToolIndex : Option ℕ+
  firstHighValueSuitcodeTool : Option String
  firstHighValueSuitcodeToolIndex : Option ℕ+
  transcriptMetrics : NativeTranscriptMetrics
  transcriptCapture : Option TranscriptCapture := none
  tokenBreakdown : Option TranscriptTokenBreakdown := none
  lateSuitcodeAdoption : Bool := false
  lateHighValueSuitcodeAdoption : Bool := false
  usedNoHighValueSuitcodeTool : Bool := false
  shellHeavyBeforeSuitcode : Bool := false
  correlationQuality : CorrelationQuality := .none
  correlatedAnalyticsSessionId : Option String := none
  correlatedEventCount : ℕ := 0
  notes : List String := []
  deriving DecidableEq, Repr

/-! ### A session of one call -/

namespace CallSample

def sessionId : NonBlank := ⟨"s", by decide⟩

def toolUse : NativeSuitCodeToolUse where
  toolName := "repository_summary"
  callCount := 1
  firstSeenAt := some 0
  lastSeenAt := some 0
  toolName_nonblank := by decide
  callCount_pos := by decide
  seen_inOrder := by decide

def toolIndex : ℕ+ := 1

theorem epoch_nonblank : isBlank "1970-01-01T00:00:00Z" = false := by decide

end CallSample

def NativeSessionAnalytics.checks (session : NativeSessionAnalytics) : List (Bool × String) :=
  [(session.correlatedAnalyticsSessionId.any isBlank, "value must not be empty"),
    (!session.usedSuitcode && !session.suitcodeTools.isEmpty,
      "used_suitcode=False requires an empty suitcode_tools collection"),
    (session.firstSuitcodeTool.isNone && session.firstSuitcodeToolIndex.isSome,
      "first_suitcode_tool_index requires first_suitcode_tool"),
    (session.firstSuitcodeTool.isSome && !session.usedSuitcode,
      "first_suitcode_tool requires used_suitcode=True"),
    (session.firstHighValueSuitcodeTool.isNone &&
        session.firstHighValueSuitcodeToolIndex.isSome,
      "first_high_value_suitcode_tool_index requires first_high_value_suitcode_tool"),
    (session.tokenBreakdown.isSome && session.transcriptCapture.isNone,
      "token_breakdown requires transcript_capture"),
    (session.transcriptCapture.any fun capture => capture.sessionId ≠ session.sessionId.val,
      "transcript_capture session_id must match session_id"),
    (session.tokenBreakdown.any fun breakdown => breakdown.sessionId ≠ session.sessionId.val,
      "token_breakdown session_id must match session_id"),
    (!session.usedSuitcode &&
        (session.lateSuitcodeAdoption || session.lateHighValueSuitcodeAdoption ||
          session.usedNoHighValueSuitcodeTool || session.shellHeavyBeforeSuitcode),
      "SuitCode usage flags require used_suitcode=True")]

def NativeSessionAnalytics.create (sessionId : String)
    (session : NonBlank → NativeSessionAnalytics) : PyResult NativeSessionAnalytics :=
  if hblank : isBlank sessionId = true then
    raiseValueError "value must not be empty"
  else
    let session := session ⟨strip sessionId, by rw [isBlank_strip]; simpa using hblank⟩
    validated session.checks
      { session with
        correlatedAnalyticsSessionId := session.correlatedAnalyticsSessionId.map strip }

end SuitCode
