import SuitCode.CodexRuns
import SuitCode.Library.KeyedTable

/-!
# Transcripts of Claude and Cursor

Both agents write a file of JSON lines whose messages are lists of blocks.  The session
parsers count the blocks, the capture builders make segments of them; what the readers
of the two agents share is here, and where they differ is a matter of rules.
-/

namespace SuitCode

open PosixText KeyedList ExceptList

/-! ## Files -/

/-- The machine, with the times of a file; an instant is a number of microseconds. -/
structure AgentEnvironment extends RolloutEnvironment where
  createdAt : String → ℤ
  modifiedAt : String → ℤ

def pathStem (path : String) : String :=
  let name := ((segments path).getLast?).getD ""
  let behindDot := name.toList.reverse.takeWhile (· != '.')
  let beforeDot := (name.toList.reverse.dropWhile (· != '.')).drop 1
  if behindDot.isEmpty || beforeDot.isEmpty then name else String.ofList beforeDot.reverse

def openAgentArtifact (environment : AgentEnvironment) (agent path : String) :
    PyResult (String × List RolloutLine) := do
  let artifactPath ← environment.resolvePath path
  match environment.rolloutLines artifactPath with
  | some lines => pure (artifactPath, lines)
  | none =>
      raiseValueError (agent ++ " session artifact does not exist: `" ++ artifactPath ++ "`")

def foldAgentEvents {σ : Type} (agent artifactPath : String)
    (step : ℕ → RolloutMembers → σ → PyResult σ) :
    ℕ → List RolloutLine → σ → PyResult σ
  | _, [], state => .ok state
  | lineNumber, .blank :: lines, state =>
      foldAgentEvents agent artifactPath step (lineNumber + 1) lines state
  | _, .invalidJson :: _, _ => raiseValueError "Expecting value"
  | lineNumber, .notAnObject :: _, _ =>
      raiseValueError
        ("invalid " ++ agent ++ " event object in " ++ atLine artifactPath lineNumber)
  | lineNumber, .event members :: lines, state => do
      let state ← step lineNumber members state
      foldAgentEvents agent artifactPath step (lineNumber + 1) lines state

theorem isReadable_of_foldAgentEvents {σ : Type} {agent artifactPath : String}
    {step : ℕ → RolloutMembers → σ → PyResult σ} {lineNumber : ℕ} {lines : List RolloutLine}
    {start last : σ}
    (hfold : foldAgentEvents agent artifactPath step lineNumber lines start = .ok last) :
    ∀ line ∈ lines, line.isReadable = true := by
  induction lines generalizing lineNumber start with
  | nil => simp
  | cons line lines ih =>
      rw [List.forall_mem_cons]
      cases line with
      | blank => exact ⟨rfl, ih hfold⟩
      | invalidJson => simp [foldAgentEvents] at hfold
      | notAnObject => simp [foldAgentEvents] at hfold
      | event members =>
          rw [foldAgentEvents] at hfold
          obtain ⟨next, -, hrest⟩ := bind_eq_ok.mp hfold
          exact ⟨rfl, ih hrest⟩

theorem foldAgentEvents_of_readable {σ : Type} (agent artifactPath : String)
    (step : ℕ → RolloutMembers → σ → PyResult σ) {lineNumber : ℕ} {lines : List RolloutLine}
    {start : σ} (hreadable : ∀ line ∈ lines, line.isReadable = true) :
    foldAgentEvents agent artifactPath step lineNumber lines start =
      (numberedEvents lineNumber lines).foldlM
        (fun state event => step event.1 event.2 state) start := by
  induction lines generalizing lineNumber start with
  | nil => rfl
  | cons line lines ih =>
      rw [List.forall_mem_cons] at hreadable
      cases line with
      | blank => exact ih hreadable.2
      | invalidJson => exact absurd hreadable.1 (by simp [RolloutLine.isReadable])
      | notAnObject => exact absurd hreadable.1 (by simp [RolloutLine.isReadable])
      | event members =>
          simp only [foldAgentEvents, numberedEvents, List.foldlM_cons, ih hreadable.2]

/-! ## Times and tool names -/

/-- `datetime.fromisoformat` of the timestamp of an event, where it has one. -/
def eventInstant (environment : AgentEnvironment) (event : RolloutMembers) (fallback : ℤ) :
    PyResult ℤ :=
  match event.get "timestamp" with
  | .str raw =>
      if isBlank raw then .ok fallback else parseDatetime environment.toRolloutEnvironment raw
  | _ => .ok fallback

def afterLast? (separator : List Char) : List Char → Option (List Char)
  | [] => none
  | c :: cs =>
      match afterLast? separator cs with
      | some rest => some rest
      | none =>
          if separator.isPrefixOf (c :: cs) then some ((c :: cs).drop separator.length) else none

/-- `text.strip() or None`. -/
def strippedOrNone (text : String) : Option String :=
  if isBlank text then none else some (strip text)

/-- `canonical_suitcode_tool_name`. -/
def canonicalServerToolName (toolName : String) (serverName : Option String) :
    PyResult (Option String) := do
  let canonicalName ← canonicalSuitcodeToolName toolName
  match canonicalName with
  | some name => pure (some name)
  | none =>
      let normalized := strip toolName
      if !(serverName.any fun server => (strip server).toLower = "suitcode") then pure none
      else if normalized.isEmpty then
        raiseValueError "SuitCode tool name must not be empty when server_name=`suitcode`"
      else
        match afterLast? ['_', '_'] normalized.toList, afterLast? ['.'] normalized.toList with
        | some rest, _ => pure (strippedOrNone (String.ofList rest))
        | none, some rest => pure (strippedOrNone (String.ofList rest))
        | none, none => pure (some normalized)

/-! ## Blocks -/

inductive AgentBlock where
  | text (text : String)
  | toolUse (block : RolloutMembers)
  | toolResult (block : RolloutMembers)
  | other

def agentBlock (role block : RolloutValue) : AgentBlock :=
  match block with
  | .obj members =>
      let blockType := RolloutMembers.get members "type"
      if blockType.isText "text" then
        match RolloutMembers.get members "text" with
        | .str text => .text text
        | _ => .other
      else if blockType.isText "tool_use" && role.isText "assistant" then .toolUse members
      else if blockType.isText "tool_result" then .toolResult members
      else .other
  | _ => .other

/-- `block.get("server_name")` where it is a text. -/
def serverNameOf (block : RolloutMembers) : Option String :=
  match block.get "server_name" with
  | .str server => some server
  | _ => none

/-- `block.get("name").strip()` where it is a text which is not blank. -/
def usedToolName (block : RolloutMembers) : Option String := optionalNonEmpty (block.get "name")

/-- `block.get("id")` where it is a text which is not blank. -/
def explicitCallId (block : RolloutMembers) : Option String :=
  match block.get "id" with
  | .str id => if isBlank id then none else some id
  | _ => none

/-- `block.get("tool_use_id")` where it is a text. -/
def resultCallId (block : RolloutMembers) : Option String :=
  match block.get "tool_use_id" with
  | .str id => some id
  | _ => none

def resultChunk : RolloutValue → Option String
  | .obj members =>
      match RolloutMembers.get members "text" with
      | .str text => if text.isEmpty then none else some text
      | _ => none
  | .str text => if text.isEmpty then none else some text
  | _ => none

def toolResultText (value : RolloutValue) : String :=
  match value with
  | .str text => text
  | .arr items =>
      let chunks := items.filterMap resultChunk
      if chunks.isEmpty then value.dumps else join "\n" chunks
  | _ => value.dumps

/-! ## Counting -/

abbrev AgentCounts := CodexSessionParser.State

def countText (role : RolloutValue) (text : String) (state : AgentCounts) : AgentCounts :=
  if role.isText "user" then
    { state with
      metrics :=
        { state.metrics with
          approxInputCharacters := state.metrics.approxInputCharacters + text.length } }
  else
    { state with
      metrics :=
        { state.metrics with
          approxOutputCharacters := state.metrics.approxOutputCharacters + text.length } }

def countToolEvent (state : AgentCounts) : AgentCounts :=
  { state with
    toolOrderIndex := state.toolOrderIndex + 1
    metrics := { state.metrics with toolEventCount := state.metrics.toolEventCount + 1 } }

def countNamedTool (timestamp : ℤ) (toolName : String) (canonicalName : Option String)
    (state : AgentCounts) : AgentCounts :=
  let mcpCalls := if isMcpToolName toolName then 1 else 0
  let counted :=
    { state with
      metrics :=
        { state.metrics with mcpToolCallCount := state.metrics.mcpToolCallCount + mcpCalls } }
  match canonicalName with
  | none => counted
  | some name =>
      CodexSessionParser.countSuitcodeCall name timestamp (state.toolOrderIndex - 1) counted

def countRole (role : RolloutValue) (state : AgentCounts) : AgentCounts :=
  if role.isText "user" then
    { state with
      metrics := { state.metrics with userMessageCount := state.metrics.userMessageCount + 1 } }
  else
    { state with
      metrics :=
        { state.metrics with
          assistantMessageCount := state.metrics.assistantMessageCount + 1 } }

/-- The body of the loop over the blocks of a message in `parse`. -/
def countBlock (refusesName : Bool) (agent artifactPath : String) (lineNumber : ℕ)
    (timestamp : ℤ) (role : RolloutValue) (state : AgentCounts) (block : AgentBlock) :
    PyResult AgentCounts :=
  match block with
  | .text text => .ok (countText role text state)
  | .toolUse members =>
      match usedToolName members with
      | none =>
          if refusesName then
            raiseValueError ("invalid " ++ agent ++ " tool name in " ++
              atLine artifactPath lineNumber)
          else
            .ok (countToolEvent state)
      | some toolName => do
          let canonicalName ← canonicalServerToolName toolName (serverNameOf members)
          pure (countNamedTool timestamp toolName canonicalName (countToolEvent state))
  | .toolResult _ => .ok state
  | .other => .ok state

def messageBlocks (role content : RolloutValue) : List AgentBlock :=
  match content with
  | .arr items => items.map (agentBlock role)
  | _ => []

def agentSession (agentKind : NativeAgentKind) (modelProvider artifactPath sessionId : String)
    (repositoryRoot : Option String) (startedAt lastEventAt : ℤ) (counts : AgentCounts) :
    PyResult NativeSessionAnalytics := do
  let suitcodeTools ←
    (sortedBy CodexSessionParser.toolStatsSortKey counts.toolStats).mapM
      CodexSessionParser.toolUseOf
  let artifact ← NativeSessionArtifact.create
    { sessionId := sessionId
      artifactPath := artifactPath
      repositoryRoot := repositoryRoot
      startedAt := startedAt
      lastEventAt := lastEventAt
      cwd := repositoryRoot
      cliVersion := none
      modelProvider := some modelProvider
      eventCount := counts.metrics.eventCount }
  NativeSessionAnalytics.create sessionId fun sessionId =>
    { agentKind := agentKind
      sessionId := sessionId
      artifact := artifact
      repositoryRoot := repositoryRoot
      usedSuitcode := !suitcodeTools.isEmpty
      suitcodeTools := suitcodeTools
      firstSuitcodeTool := counts.firstSuitcodeTool
      firstSuitcodeToolIndex := counts.firstSuitcodeToolIndex
      firstHighValueSuitcodeTool := counts.firstHighValueSuitcodeTool
      firstHighValueSuitcodeToolIndex := counts.firstHighValueSuitcodeToolIndex
      transcriptMetrics := counts.metrics }

/-! ## Capturing -/

structure CaptureRules where
  keepsText : String → Bool
  keepsOutput : String → Bool
  refusesName : Bool

/-- An entry of `call_index`. -/
structure CallEntry where
  callId : String
  toolName : String
  isMcp : Bool
  isSuitcode : Bool
  canonicalToolName : Option String
  deriving DecidableEq, Repr

structure CaptureState where
  sequenceIndex : ℕ := 0
  segments : List TranscriptSegment := []
  callIndex : List CallEntry := []
  deriving DecidableEq, Repr

def CaptureState.push (state : CaptureState) (segment : TranscriptSegment) : CaptureState :=
  { state with
    sequenceIndex := state.sequenceIndex + 1
    segments := state.segments ++ [segment] }

/-- `json.dumps(block.get("input"))`. -/
def argumentsText (block : RolloutMembers) : String := (block.get "input").dumps

def callIdAt (sessionId : String) (sequenceIndex : ℕ) (block : RolloutMembers) : String :=
  (explicitCallId block).getD (sessionId ++ ":call:" ++ toString (sequenceIndex + 1))

def textSegment (sessionId timestamp : String) (role : RolloutValue) (text : String)
    (sequenceIndex : ℕ) : TranscriptSegment :=
  { segmentId := segmentIdAt sessionId sequenceIndex
    sessionId := sessionId
    sequenceIndex := sequenceIndex
    timestampUtc := timestamp
    kind := if role.isText "user" then .userMessage else .assistantMessage
    role := match role with
      | .str role => some role
      | _ => none
    contentText := text
    contentBytes := text.utf8ByteSize }

def callEntry (callId toolName : String) (canonicalName : Option String) : CallEntry :=
  { callId := callId
    toolName := toolName
    isMcp := isMcpToolName toolName
    isSuitcode := canonicalName.isSome
    canonicalToolName := canonicalName }

def callSegment (sessionId timestamp arguments : String) (entry : CallEntry)
    (sequenceIndex : ℕ) : TranscriptSegment :=
  let contentText := "tool:" ++ entry.toolName ++ "\narguments:" ++ arguments
  { segmentId := segmentIdAt sessionId sequenceIndex
    sessionId := sessionId
    sequenceIndex := sequenceIndex
    timestampUtc := timestamp
    kind := if entry.isMcp then .mcpToolCall else .customToolCall
    toolName := some entry.toolName
    contentText := contentText
    contentBytes := contentText.utf8ByteSize
    metadata := [("call_id", entry.callId), ("arguments_text", arguments)]
    isMcp := entry.isMcp
    isSuitcode := entry.isSuitcode
    canonicalToolName := entry.canonicalToolName }

def outputSegment (sessionId timestamp output : String) (entry : CallEntry)
    (sequenceIndex : ℕ) : TranscriptSegment :=
  let contentText := "tool:" ++ entry.toolName ++ "\noutput:" ++ output
  { segmentId := segmentIdAt sessionId sequenceIndex
    sessionId := sessionId
    sequenceIndex := sequenceIndex
    timestampUtc := timestamp
    kind := if entry.isMcp then .mcpToolOutput else .customToolOutput
    toolName := some entry.toolName
    contentText := contentText
    contentBytes := contentText.utf8ByteSize
    metadata := [("call_id", entry.callId), ("output_text", output)]
    isMcp := entry.isMcp
    isSuitcode := entry.isSuitcode
    canonicalToolName := entry.canonicalToolName }

def resultEntry (calls : List CallEntry) (block : RolloutMembers) : Option CallEntry :=
  (resultCallId block).bind fun callId => leader? CallEntry.callId calls callId

structure PlacedBlock where
  timestamp : String
  lineNumber : ℕ
  role : RolloutValue
  block : AgentBlock

/-- The body of the loop over the blocks of a message in `build`. -/
def captureBlock (rules : CaptureRules) (agent artifactPath sessionId : String)
    (state : CaptureState) (placed : PlacedBlock) : PyResult CaptureState :=
  match placed.block with
  | .text text =>
      if rules.keepsText text then do
        let segment ← TranscriptSegment.create
          (textSegment sessionId placed.timestamp placed.role text (state.sequenceIndex + 1))
        pure (state.push segment)
      else
        .ok state
  | .toolUse block =>
      match usedToolName block with
      | none =>
          if rules.refusesName then
            raiseValueError ("invalid " ++ agent ++ " tool name in " ++
              atLine artifactPath placed.lineNumber)
          else
            .ok state
      | some toolName => do
          let canonicalName ← canonicalServerToolName toolName (serverNameOf block)
          let entry :=
            callEntry (callIdAt sessionId state.sequenceIndex block) toolName canonicalName
          let segment ← TranscriptSegment.create
            (callSegment sessionId placed.timestamp (argumentsText block) entry
              (state.sequenceIndex + 1))
          pure
            { state.push segment with
              callIndex := KeyedTable.upsertRows CallEntry.callId entry state.callIndex }
  | .toolResult block =>
      match resultEntry state.callIndex block with
      | none => .ok state
      | some entry =>
          let output := toolResultText (block.get "content")
          if rules.keepsOutput output then do
            let segment ← TranscriptSegment.create
              (outputSegment sessionId placed.timestamp output entry (state.sequenceIndex + 1))
            pure (state.push segment)
          else
            .ok state
  | .other => .ok state

end SuitCode
