import SuitCode.NativeAgentModels

/-!
# The two readers of Codex rollouts

The session parser counts what happens in a rollout, the capture builder turns the
rollout into segments.  Both go over the same events by rules of their own.
-/

namespace SuitCode

open PosixText KeyedList

/-! ## The session parser -/

namespace CodexSessionParser

/-- `tool_stats` of one tool. -/
structure ToolStats where
  toolName : String
  count : ℕ
  firstSeenAt : ℤ
  lastSeenAt : ℤ
  deriving DecidableEq, Repr

structure State where
  sessionMetas : List RolloutMembers := []
  lastEventAt : Option ℤ := none
  metrics : NativeTranscriptMetrics := {}
  toolOrderIndex : ℕ := 0
  firstSuitcodeTool : Option String := none
  firstSuitcodeToolIndex : Option ℕ+ := none
  firstHighValueSuitcodeTool : Option String := none
  firstHighValueSuitcodeToolIndex : Option ℕ+ := none
  toolStats : List ToolStats := []

def countMessage (payload : RolloutMembers) (state : State) : State :=
  let role := payload.get "role"
  let textSize := (messageText (payload.get "content")).length
  let metrics := { state.metrics with messageEventCount := state.metrics.messageEventCount + 1 }
  if role.isText "user" then
    { state with
      metrics :=
        { metrics with
          userMessageCount := metrics.userMessageCount + 1
          approxInputCharacters := metrics.approxInputCharacters + textSize } }
  else if role.isText "assistant" then
    { state with
      metrics :=
        { metrics with
          assistantMessageCount := metrics.assistantMessageCount + 1
          approxOutputCharacters := metrics.approxOutputCharacters + textSize } }
  else
    { state with metrics := metrics }

def countTool (toolStats : List ToolStats) (toolName : String) (timestamp : ℤ) :
    List ToolStats :=
  match leader? ToolStats.toolName toolStats toolName with
  | none => toolStats ++ [⟨toolName, 1, timestamp, timestamp⟩]
  | some _ =>
      toolStats.map fun stats =>
        if stats.toolName = toolName then
          { stats with count := stats.count + 1, lastSeenAt := timestamp }
        else
          stats

def noteFirst (suitcodeName : String) (index : ℕ) (state : State) : State :=
  if state.firstSuitcodeTool.isNone then
    { state with
      firstSuitcodeTool := some suitcodeName
      firstSuitcodeToolIndex := some index.succPNat }
  else
    state

def noteFirstHighValue (suitcodeName : String) (index : ℕ) (state : State) : State :=
  if state.firstHighValueSuitcodeTool.isNone && suitcodeName ∈ highValueTools then
    { state with
      firstHighValueSuitcodeTool := some suitcodeName
      firstHighValueSuitcodeToolIndex := some index.succPNat }
  else
    state

/-- A call of a SuitCode tool, which is the `index + 1`st tool call. -/
def countSuitcodeCall (suitcodeName : String) (timestamp : ℤ) (index : ℕ) (state : State) :
    State :=
  noteFirstHighValue suitcodeName index
    (noteFirst suitcodeName index
      { state with
        metrics :=
          { state.metrics with
            suitcodeToolCallCount := state.metrics.suitcodeToolCallCount + 1 }
        toolStats := countTool state.toolStats suitcodeName timestamp })

def parseToolCall (artifactPath : String) (lineNumber : ℕ) (timestamp : ℤ)
    (payload : RolloutMembers) (state : State) : PyResult State :=
  match payload.get "name" with
  | .str name =>
      if isBlank name then
        raiseValueError ("invalid tool call name in " ++ atLine artifactPath lineNumber)
      else do
        let normalizedName := strip name
        let suitcodeName ← canonicalSuitcodeToolName normalizedName
        let mcpCalls := if isMcpToolName normalizedName then 1 else 0
        let counted :=
          { state with
            toolOrderIndex := state.toolOrderIndex + 1
            metrics :=
              { state.metrics with
                toolEventCount := state.metrics.toolEventCount + 1
                mcpToolCallCount := state.metrics.mcpToolCallCount + mcpCalls } }
        match suitcodeName with
        | none => pure counted
        | some suitcodeName =>
            pure (countSuitcodeCall suitcodeName timestamp state.toolOrderIndex counted)
  | _ => raiseValueError ("invalid tool call name in " ++ atLine artifactPath lineNumber)

def unhashableType : PyError := .typeError "unhashable type"

def parseResponseItem (artifactPath : String) (lineNumber : ℕ) (timestamp : ℤ)
    (payload : RolloutMembers) (state : State) : PyResult State :=
  let payloadType := payload.get "type"
  if payloadType.isText "message" then
    .ok (countMessage payload state)
  else if !payloadType.isHashable then
    .error unhashableType
  else if payloadType.isText "function_call" || payloadType.isText "custom_tool_call" then
    parseToolCall artifactPath lineNumber timestamp payload state
  else
    .ok state

/-- One event of the loop of `parse`. -/
def parseEvent (environment : RolloutEnvironment) (artifactPath : String) (lineNumber : ℕ)
    (event : RolloutMembers) (state : State) : PyResult State := do
  let timestamp ← parseEventTimestamp environment artifactPath lineNumber event
  let state :=
    { state with
      metrics := { state.metrics with eventCount := state.metrics.eventCount + 1 }
      lastEventAt := some timestamp }
  if (event.get "type").isText "session_meta" then
    match event.get "payload" with
    | .obj sessionMeta =>
        pure { state with sessionMetas := state.sessionMetas ++ [sessionMeta] }
    | _ =>
        raiseValueError
          ("invalid session_meta payload in " ++ atLine artifactPath lineNumber)
  else if (event.get "type").isText "response_item" then
    match event.get "payload" with
    | .obj payload => parseResponseItem artifactPath lineNumber timestamp payload state
    | _ =>
        raiseValueError
          ("invalid response_item payload in " ++ atLine artifactPath lineNumber)
  else
    pure state

def selectEffectiveSessionMeta (items : List RolloutMembers) : RolloutMembers :=
  (items.reverse.find? fun item => (optionalNonEmpty (item.get "id")).isSome).getD
    (items.getLastD [])

def parseMetaTimestamp (environment : RolloutEnvironment) (artifactPath : String)
    (sessionMeta : RolloutMembers) : PyResult ℤ :=
  match sessionMeta.get "timestamp" with
  | .str raw =>
      if isBlank raw then
        raiseValueError ("missing session timestamp in `" ++ artifactPath ++ "`")
      else
        parseDatetime environment raw
  | _ => raiseValueError ("missing session timestamp in `" ++ artifactPath ++ "`")

def multipleMetasNote : String :=
  "multiple session_meta entries were detected; the latest metadata snapshot was used for " ++
    "session identity and cwd"

def sessionMetaNotes (environment : RolloutEnvironment) (artifactPath : String)
    (items : List RolloutMembers) : PyResult (List String) := do
  let ids ← items.mapM fun item =>
    requiredNonEmpty (item.get "id") "session id" artifactPath
  let cwds ← items.mapM fun item =>
    optionalResolvedPath environment (item.get "cwd") artifactPath
  let distinctIds := dedupeBy id ids
  let distinctCwds := dedupeBy id (cwds.filterMap id)
  pure
    (if 1 < items.length && (1 < distinctIds.length || 1 < distinctCwds.length) then
      [multipleMetasNote]
    else
      [])

def toolStatsSortKey (stats : ToolStats) : ℤ ×ₗ String :=
  toLex (stats.firstSeenAt, stats.toolName)

def toolUseOf (stats : ToolStats) : PyResult NativeSuitCodeToolUse :=
  NativeSuitCodeToolUse.create stats.toolName stats.count (some stats.firstSeenAt)
    (some stats.lastSeenAt)

def earliest (first : ℤ) (rest : List ℤ) : ℤ := rest.foldl min first

def sessionOf (environment : RolloutEnvironment) (artifactPath : String) (state : State) :
    PyResult NativeSessionAnalytics :=
  match state.sessionMetas with
  | [] => raiseValueError ("missing session_meta in `" ++ artifactPath ++ "`")
  | firstMeta :: otherMetas => do
      let sessionMeta := selectEffectiveSessionMeta (firstMeta :: otherMetas)
      let sessionId ← requiredNonEmpty (sessionMeta.get "id") "session id" artifactPath
      let firstStarted ← parseMetaTimestamp environment artifactPath firstMeta
      let otherStarted ← otherMetas.mapM (parseMetaTimestamp environment artifactPath)
      let startedAt := earliest firstStarted otherStarted
      let cwd ← optionalResolvedPath environment (sessionMeta.get "cwd") artifactPath
      let suitcodeTools ← (sortedBy toolStatsSortKey state.toolStats).mapM toolUseOf
      let artifact ← NativeSessionArtifact.create
        { sessionId := sessionId
          artifactPath := artifactPath
          repositoryRoot := cwd
          startedAt := startedAt
          lastEventAt := state.lastEventAt.getD startedAt
          cwd := cwd
          cliVersion := optionalNonEmpty (sessionMeta.get "cli_version")
          modelProvider := optionalNonEmpty (sessionMeta.get "model_provider")
          eventCount := state.metrics.eventCount }
      let notes ← sessionMetaNotes environment artifactPath (firstMeta :: otherMetas)
      NativeSessionAnalytics.create sessionId fun sessionId =>
        { agentKind := .codex
          sessionId := sessionId
          artifact := artifact
          repositoryRoot := cwd
          usedSuitcode := !suitcodeTools.isEmpty
          suitcodeTools := suitcodeTools
          firstSuitcodeTool := state.firstSuitcodeTool
          firstSuitcodeToolIndex := state.firstSuitcodeToolIndex
          firstHighValueSuitcodeTool := state.firstHighValueSuitcodeTool
          firstHighValueSuitcodeToolIndex := state.firstHighValueSuitcodeToolIndex
          transcriptMetrics := state.metrics
          notes := notes }

/-- `CodexSessionParser.parse`. -/
def parse (environment : RolloutEnvironment) (path : String) :
    PyResult NativeSessionAnalytics := do
  let (artifactPath, lines) ← openRollout environment path
  let state ← foldRolloutEvents artifactPath (parseEvent environment artifactPath) 1 lines {}
  sessionOf environment artifactPath state

end CodexSessionParser

/-! ## The capture builder -/

namespace CodexTranscriptCapture

structure CallInfo where
  callId : String
  toolName : String
  kind : TranscriptSegmentKind
  isMcp : Bool
  isSuitcode : Bool
  canonicalToolName : Option String
  deriving DecidableEq, Repr

structure State where
  sequenceIndex : ℕ := 0
  segments : List TranscriptSegment := []
  callIndex : List CallInfo := []
  sawSessionMeta : Bool := false
  deriving DecidableEq, Repr

/-- One event of the loop of `_resolve_session_identity`. -/
def collectMeta (artifactPath : String) (lineNumber : ℕ) (event : RolloutMembers)
    (sessionMetas : List RolloutMembers) : PyResult (List RolloutMembers) :=
  if (event.get "type").isText "session_meta" then
    match event.get "payload" with
    | .obj payload => .ok (sessionMetas ++ [payload])
    | _ =>
        raiseValueError
          ("invalid session_meta payload in " ++ atLine artifactPath lineNumber)
  else
    .ok sessionMetas

def firstCwd (environment : RolloutEnvironment) (artifactPath : String) :
    List RolloutMembers → PyResult (Option String)
  | [] => .ok none
  | sessionMeta :: sessionMetas => do
      let cwd ← optionalResolvedPath environment (sessionMeta.get "cwd") artifactPath
      match cwd with
      | some cwd => pure (some cwd)
      | none => firstCwd environment artifactPath sessionMetas

def resolveSessionIdentity (environment : RolloutEnvironment) (artifactPath : String)
    (lines : List RolloutLine) : PyResult (String × Option String) := do
  let sessionMetas ← foldRolloutEvents artifactPath (collectMeta artifactPath) 1 lines []
  match sessionMetas.getLast? with
  | none => raiseValueError ("missing session_meta in `" ++ artifactPath ++ "`")
  | some effectiveMeta => do
      let sessionId ← requiredNonEmpty (effectiveMeta.get "id") "session id" artifactPath
      let repositoryRoot ← firstCwd environment artifactPath sessionMetas.reverse
      pure (sessionId, repositoryRoot)

def timestampText (environment : RolloutEnvironment) (artifactPath : String)
    (lineNumber : ℕ) (event : RolloutMembers) : PyResult String := do
  let timestamp ← parseEventTimestamp environment artifactPath lineNumber event
  pure (environment.isoFormat timestamp)

def messageSegments (sessionId timestamp : String) (payload : RolloutMembers)
    (startingSequence : ℕ) : PyResult (List TranscriptSegment) :=
  let role := optionalNonEmpty (payload.get "role")
  let contentText := messageText (payload.get "content")
  if role ≠ some "user" && role ≠ some "assistant" then
    .ok []
  else if contentText = "" then
    .ok []
  else do
    let segment ← TranscriptSegment.create
      { segmentId := segmentIdAt sessionId (startingSequence + 1)
        sessionId := sessionId
        sequenceIndex := startingSequence + 1
        timestampUtc := timestamp
        kind := if role = some "user" then .userMessage else .assistantMessage
        role := role
        contentText := contentText
        contentBytes := contentText.utf8ByteSize }
    pure [segment]

def toolCallSegment (artifactPath sessionId timestamp : String) (payload : RolloutMembers)
    (sequenceIndex : ℕ) : PyResult (TranscriptSegment × CallInfo) := do
  let toolName ← requiredNonEmpty (payload.get "name") "tool call name" artifactPath
  let callId ← requiredNonEmpty (payload.get "call_id") "tool call id" artifactPath
  let argumentsText := (payload.get "arguments").jsonLikeText
  let isMcp := isMcpToolName toolName
  let canonicalName ← canonicalSuitcodeToolName toolName
  let kind : TranscriptSegmentKind := if isMcp then .mcpToolCall else .customToolCall
  let contentText := "tool:" ++ toolName ++ "\narguments:" ++ argumentsText
  let segment ← TranscriptSegment.create
    { segmentId := segmentIdAt sessionId sequenceIndex
      sessionId := sessionId
      sequenceIndex := sequenceIndex
      timestampUtc := timestamp
      kind := kind
      toolName := some toolName
      contentText := contentText
      contentBytes := contentText.utf8ByteSize
      metadata := [("call_id", callId), ("arguments_text", argumentsText)]
      isMcp := isMcp
      isSuitcode := canonicalName.isSome
      canonicalToolName := canonicalName }
  pure
    (segment,
      { callId := callId
        toolName := toolName
        kind := kind
        isMcp := isMcp
        isSuitcode := canonicalName.isSome
        canonicalToolName := canonicalName })

def toolOutputSegment (artifactPath sessionId timestamp : String) (lineNumber : ℕ)
    (payload : RolloutMembers) (sequenceIndex : ℕ) (callIndex : List CallInfo) :
    PyResult TranscriptSegment := do
  let callId ← requiredNonEmpty (payload.get "call_id") "tool output call_id" artifactPath
  match leader? CallInfo.callId callIndex callId with
  | none =>
      raiseValueError
        ("unknown tool output call_id `" ++ callId ++ "` in " ++ atLine artifactPath lineNumber)
  | some callInfo =>
      let outputText := (payload.get "output").jsonLikeText
      let contentText := "tool:" ++ callInfo.toolName ++ "\noutput:" ++ outputText
      TranscriptSegment.create
        { segmentId := segmentIdAt sessionId sequenceIndex
          sessionId := sessionId
          sequenceIndex := sequenceIndex
          timestampUtc := timestamp
          kind := if callInfo.kind = .mcpToolCall then .mcpToolOutput else .customToolOutput
          toolName := some callInfo.toolName
          contentText := contentText
          contentBytes := contentText.utf8ByteSize
          metadata := [("call_id", callId), ("output_text", outputText)]
          isMcp := callInfo.isMcp
          isSuitcode := callInfo.isSuitcode
          canonicalToolName := callInfo.canonicalToolName }

def summaryText : RolloutValue → Option String
  | .obj item => optionalNonEmpty (RolloutMembers.get item "text")
  | _ => none

/-- The loop of `_reasoning_segments`. -/
def summarySegments (sessionId timestamp : String) :
    ℕ → List String → PyResult (List TranscriptSegment)
  | _, [] => .ok []
  | nextIndex, text :: texts => do
      let segment ← TranscriptSegment.create
        { segmentId := segmentIdAt sessionId nextIndex
          sessionId := sessionId
          sequenceIndex := nextIndex
          timestampUtc := timestamp
          kind := .reasoningSummary
          contentText := text
          contentBytes := text.utf8ByteSize }
      let segments ← summarySegments sessionId timestamp (nextIndex + 1) texts
      pure (segment :: segments)

def reasoningSegments (sessionId timestamp : String) (payload : RolloutMembers)
    (sequenceIndex : ℕ) : PyResult (List TranscriptSegment) :=
  match payload.get "summary" with
  | .arr summaries =>
      summarySegments sessionId timestamp (sequenceIndex + 1) (summaries.filterMap summaryText)
  | _ => .ok []

/-- `segments.extend(...)` with the sequence index. -/
def State.extend (state : State) (segments : List TranscriptSegment) : State :=
  { state with
    segments := state.segments ++ segments
    sequenceIndex := state.sequenceIndex + segments.length }

/-- A response item of the loop of `build`. -/
def captureItem (artifactPath sessionId timestamp : String) (lineNumber : ℕ)
    (payload : RolloutMembers) (state : State) : PyResult State :=
  let payloadType := payload.get "type"
  if payloadType.isText "message" then do
    let segments ← messageSegments sessionId timestamp payload state.sequenceIndex
    pure (state.extend segments)
  else if !payloadType.isHashable then
    .error CodexSessionParser.unhashableType
  else if payloadType.isText "function_call" || payloadType.isText "custom_tool_call" then do
    let (segment, callInfo) ←
      toolCallSegment artifactPath sessionId timestamp payload (state.sequenceIndex + 1)
    if (leader? CallInfo.callId state.callIndex callInfo.callId).isSome then
      raiseValueError
        ("duplicate call_id `" ++ callInfo.callId ++ "` in `" ++ artifactPath ++ "`")
    else
      pure { state.extend [segment] with callIndex := state.callIndex ++ [callInfo] }
  else if payloadType.isText "function_call_output" ||
      payloadType.isText "custom_tool_call_output" then do
    let segment ← toolOutputSegment artifactPath sessionId timestamp lineNumber payload
      (state.sequenceIndex + 1) state.callIndex
    pure (state.extend [segment])
  else if payloadType.isText "reasoning" || payloadType.isText "response_reasoning" then do
    let segments ← reasoningSegments sessionId timestamp payload state.sequenceIndex
    pure (state.extend segments)
  else
    .ok state

/-- One event of the loop of `build`. -/
def captureEvent (environment : RolloutEnvironment) (artifactPath sessionId : String)
    (lineNumber : ℕ) (event : RolloutMembers) (state : State) : PyResult State :=
  if (event.get "type").isText "session_meta" then
    match event.get "payload" with
    | .obj _ => .ok { state with sawSessionMeta := true }
    | _ =>
        raiseValueError
          ("invalid session_meta payload in " ++ atLine artifactPath lineNumber)
  else if !(event.get "type").isText "response_item" then
    .ok state
  else if !state.sawSessionMeta then
    raiseValueError ("response_item found before session_meta in `" ++ artifactPath ++ "`")
  else
    match event.get "payload" with
    | .obj payload => do
        let timestamp ← timestampText environment artifactPath lineNumber event
        captureItem artifactPath sessionId timestamp lineNumber payload state
    | _ =>
        raiseValueError
          ("invalid response_item payload in " ++ atLine artifactPath lineNumber)

/-- `CodexTranscriptCaptureBuilder.build`. -/
def build (environment : RolloutEnvironment) (path : String) : PyResult TranscriptCapture := do
  let (artifactPath, lines) ← openRollout environment path
  let (sessionId, repositoryRoot) ← resolveSessionIdentity environment artifactPath lines
  let state ← foldRolloutEvents artifactPath
    (captureEvent environment artifactPath sessionId) 1 lines {}
  if !state.sawSessionMeta then
    raiseValueError ("missing session_meta in `" ++ artifactPath ++ "`")
  else
    TranscriptCapture.create
      { sessionId := sessionId
        repositoryRoot := repositoryRoot
        artifactPath := artifactPath
        segments := state.segments }

end CodexTranscriptCapture

end SuitCode
