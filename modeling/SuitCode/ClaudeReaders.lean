import SuitCode.AgentCounts

/-!
# The two readers of Claude transcripts

The session parser and the capture builder go over the same lines.  The parser takes the
first session id it meets and counts in events of users and assistants alone; the builder
asks the first event for the session id and takes the messages of all events.
-/

namespace SuitCode

open PosixText KeyedList ExceptList

/-! ## What both take from an event -/

/-- `payload["sessionId"].strip()` where it is a text which is not blank. -/
def namedSession (event : RolloutMembers) : Option String :=
  optionalNonEmpty (event.get "sessionId")

def noteRoot (environment : AgentEnvironment) (event : RolloutMembers)
    (repositoryRoot : Option String) : PyResult (Option String) :=
  match repositoryRoot, event.get "cwd" with
  | some root, _ => .ok (some root)
  | none, .str cwd =>
      if isBlank cwd then .ok none
      else do
        let resolved ← environment.resolvePath cwd
        pure (some resolved)
  | none, _ => .ok none

/-! ## The session parser -/

namespace ClaudeSessionParser

structure TokenUsage where
  inputTokens : ℕ := 0
  outputTokens : ℕ := 0
  cacheCreationTokens : ℕ := 0
  cacheReadTokens : ℕ := 0
  deriving DecidableEq, Repr

structure State where
  sessionId : Option String := none
  repositoryRoot : Option String := none
  startedAt : Option ℤ := none
  lastEventAt : Option ℤ := none
  counts : AgentCounts := {}
  usage : Option TokenUsage := none

/-- `_optional_int`; a bool is an int as well. -/
def optionalInt : RolloutValue → ℕ
  | .number text => text.toNat?.getD 0
  | .bool true => 1
  | _ => 0

def noteUsage (message : RolloutMembers) (usage : Option TokenUsage) : Option TokenUsage :=
  if (message.get "role").isText "assistant" then
    match message.get "usage" with
    | .obj reported =>
        let before := usage.getD {}
        some
          { inputTokens := before.inputTokens +
              optionalInt (RolloutMembers.get reported "input_tokens")
            outputTokens := before.outputTokens +
              optionalInt (RolloutMembers.get reported "output_tokens")
            cacheCreationTokens := before.cacheCreationTokens +
              optionalInt (RolloutMembers.get reported "cache_creation_input_tokens")
            cacheReadTokens := before.cacheReadTokens +
              optionalInt (RolloutMembers.get reported "cache_read_input_tokens") }
    | _ => usage
  else
    usage

def noteSessionId (artifactPath : String) (event : RolloutMembers)
    (sessionId : Option String) : PyResult (Option String) :=
  match namedSession event, sessionId with
  | none, sessionId => .ok sessionId
  | some id, none => .ok (some id)
  | some id, some sessionId =>
      if sessionId ≠ id then
        raiseValueError ("inconsistent Claude sessionId in `" ++ artifactPath ++ "`")
      else
        .ok (some sessionId)

def parseMessage (artifactPath : String) (lineNumber : ℕ) (timestamp : ℤ)
    (message : RolloutMembers) (state : State) : PyResult State :=
  let role := message.get "role"
  if role.isText "user" || role.isText "assistant" then
    let counted := countRole role state.counts
    let counts :=
      { counted with
        metrics :=
          { counted.metrics with messageEventCount := counted.metrics.messageEventCount + 1 } }
    match message.get "content" with
    | .arr items => do
        let counts ← (messageBlocks role (.arr items)).foldlM
          (countBlock true "Claude" artifactPath lineNumber timestamp role) counts
        pure { state with counts := counts, usage := noteUsage message state.usage }
    | _ => .ok { state with counts := counts }
  else
    .ok state

/-- One event of the loop of `parse`. -/
def parseEvent (environment : AgentEnvironment) (artifactPath : String) (lineNumber : ℕ)
    (event : RolloutMembers) (state : State) : PyResult State := do
  let timestamp ← eventInstant environment event (environment.modifiedAt artifactPath)
  let sessionId ← noteSessionId artifactPath event state.sessionId
  let repositoryRoot ← noteRoot environment event state.repositoryRoot
  let state :=
    { state with
      sessionId := sessionId
      repositoryRoot := repositoryRoot
      startedAt := some (state.startedAt.getD timestamp)
      lastEventAt := some timestamp
      counts :=
        { state.counts with
          metrics :=
            { state.counts.metrics with eventCount := state.counts.metrics.eventCount + 1 } } }
  let eventType := event.get "type"
  if !eventType.isHashable then
    .error CodexSessionParser.unhashableType
  else if eventType.isText "user" || eventType.isText "assistant" then
    match event.get "message" with
    | .obj message => parseMessage artifactPath lineNumber timestamp message state
    | _ => pure state
  else
    pure state

def reportedCounts (state : State) : AgentCounts :=
  { state.counts with
    metrics :=
      { state.counts.metrics with
        nativeReportedInputTokens := state.usage.map TokenUsage.inputTokens
        nativeReportedOutputTokens := state.usage.map TokenUsage.outputTokens
        nativeReportedCacheCreationTokens := state.usage.map TokenUsage.cacheCreationTokens
        nativeReportedCacheReadTokens := state.usage.map TokenUsage.cacheReadTokens } }

/-- `ClaudeSessionParser.parse`. -/
def parse (environment : AgentEnvironment) (path : String) :
    PyResult NativeSessionAnalytics := do
  let (artifactPath, lines) ← openAgentArtifact environment "Claude" path
  let state ← foldAgentEvents "Claude" artifactPath (parseEvent environment artifactPath) 1
    lines {}
  agentSession .claude "anthropic" artifactPath
    (state.sessionId.getD (pathStem artifactPath)) state.repositoryRoot
    (state.startedAt.getD (environment.createdAt artifactPath))
    (state.lastEventAt.getD (environment.modifiedAt artifactPath)) (reportedCounts state)

end ClaudeSessionParser

/-! ## The capture builder -/

namespace ClaudeTranscriptCapture

def rules : CaptureRules where
  keepsText text := !isBlank text
  keepsOutput output := !isBlank output
  refusesName := true

structure State where
  sessionId : Option String := none
  repositoryRoot : Option String := none
  capture : CaptureState := {}

def sessionIdOr (stem : String) (event : RolloutMembers) : String :=
  (namedSession event).getD stem

def timestampText (environment : AgentEnvironment) (artifactPath : String)
    (event : RolloutMembers) : PyResult String := do
  let instant ← eventInstant environment event (environment.modifiedAt artifactPath)
  pure (environment.isoFormat instant)

def eventBlocks (timestamp : String) (lineNumber : ℕ) (event : RolloutMembers) :
    List PlacedBlock :=
  match event.get "message" with
  | .obj message =>
      let role := RolloutMembers.get message "role"
      (messageBlocks role (RolloutMembers.get message "content")).map fun block =>
        ⟨timestamp, lineNumber, role, block⟩
  | _ => []

/-- One event of the loop of `build`. -/
def captureEvent (environment : AgentEnvironment) (artifactPath : String) (lineNumber : ℕ)
    (event : RolloutMembers) (state : State) : PyResult State := do
  let sessionId := state.sessionId.getD (sessionIdOr (pathStem artifactPath) event)
  let repositoryRoot ← noteRoot environment event state.repositoryRoot
  let timestamp ← timestampText environment artifactPath event
  let capture ← (eventBlocks timestamp lineNumber event).foldlM
    (captureBlock rules "Claude" artifactPath sessionId) state.capture
  pure { sessionId := some sessionId, repositoryRoot := repositoryRoot, capture := capture }

/-- `ClaudeTranscriptCaptureBuilder.build`. -/
def build (environment : AgentEnvironment) (path : String) : PyResult TranscriptCapture := do
  let (artifactPath, lines) ← openAgentArtifact environment "Claude" path
  let state ← foldAgentEvents "Claude" artifactPath (captureEvent environment artifactPath) 1
    lines {}
  TranscriptCapture.create
    { sessionId := state.sessionId.getD (pathStem artifactPath)
      repositoryRoot := state.repositoryRoot
      artifactPath := artifactPath
      segments := state.capture.segments }

end ClaudeTranscriptCapture

end SuitCode
