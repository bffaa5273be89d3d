import SuitCode.AgentCounts

/-!
# The two readers of Cursor transcripts

Both take the session from the place of the file and from the log of the worker beside
it.  The parser skips tools without a name where it counts and where it captures.
-/

namespace SuitCode

open PosixText KeyedList ExceptList

/-! ## What both take from the store and from an event -/

/-- The machine, with the lines of the log of a worker. -/
structure CursorEnvironment extends AgentEnvironment where
  workerLog : String → Option (List String)

def afterFirst? (separator : List Char) : List Char → Option (List Char)
  | [] => none
  | c :: cs =>
      if separator.isPrefixOf (c :: cs) then some ((c :: cs).drop separator.length)
      else afterFirst? separator cs

def workspaceCandidate (line : String) : Option String :=
  (afterFirst? "workspacePath=".toList line.toList).bind fun rest =>
    strippedOrNone (String.ofList rest)

namespace CursorSessionStore

def isTranscriptsPart (part : String) : Bool := part.toLower = "agent-transcripts"

/-- `_workspace_path_from_worker_log`. -/
def workspacePath (environment : CursorEnvironment) (workerLog : String) :
    PyResult (Option String) :=
  match environment.workerLog workerLog with
  | none => .ok none
  | some lines =>
      match lines.findSome? workspaceCandidate with
      | none => .ok none
      | some candidate => do
          let resolved ← environment.resolvePath candidate
          pure (some resolved)

/-- `session_meta`: the session id and the working directory. -/
def sessionMeta (environment : CursorEnvironment) (path : String) :
    PyResult (String × Option String) := do
  let artifactPath ← environment.resolvePath path
  let parts := segments artifactPath
  if !parts.any isTranscriptsPart then
    raiseValueError ("unsupported Cursor transcript path: `" ++ artifactPath ++ "`")
  else do
    let projectRoot := parts.takeWhile fun part => !isTranscriptsPart part
    let cwd ← workspacePath environment ("/" ++ join "/" (projectRoot ++ ["worker.log"]))
    pure (pathStem artifactPath, cwd)

end CursorSessionStore

/-- `fallback_base.replace(microsecond=min(default_index, 999999))`. -/
def replaceMicrosecond (instant : ℤ) (lineNumber : ℕ) : ℤ :=
  instant - instant % 1000000 + min lineNumber 999999

def cursorInstant (environment : CursorEnvironment) (artifactPath : String) (lineNumber : ℕ)
    (event : RolloutMembers) : PyResult ℤ :=
  eventInstant environment.toAgentEnvironment event
    (replaceMicrosecond (environment.modifiedAt artifactPath) lineNumber)

/-! ## The session parser -/

namespace CursorSessionParser

structure State where
  startedAt : Option ℤ := none
  lastEventAt : Option ℤ := none
  sawExplicitTimestamp : Bool := false
  counts : AgentCounts := {}

/-- One event of the loop of `parse`. -/
def parseEvent (environment : CursorEnvironment) (artifactPath : String) (lineNumber : ℕ)
    (event : RolloutMembers) (state : State) : PyResult State := do
  let timestamp ← cursorInstant environment artifactPath lineNumber event
  let explicit := (optionalNonEmpty (event.get "timestamp")).isSome
  let state :=
    { startedAt := some (state.startedAt.getD timestamp)
      lastEventAt := some timestamp
      sawExplicitTimestamp := state.sawExplicitTimestamp || explicit
      counts :=
        { state.counts with
          metrics :=
            { state.counts.metrics with eventCount := state.counts.metrics.eventCount + 1 } } }
  let role := event.get "role"
  if !role.isHashable then
    .error CodexSessionParser.unhashableType
  else if role.isText "user" || role.isText "assistant" then
    match event.get "message" with
    | .obj message =>
        match RolloutMembers.get message "content" with
        | .arr items => do
            let counted := countRole role state.counts
            let counts ← (messageBlocks role (.arr items)).foldlM
              (countBlock false "Cursor" artifactPath lineNumber timestamp role)
              { counted with
                metrics :=
                  { counted.metrics with
                    messageEventCount := counted.metrics.messageEventCount + 1 } }
            pure { state with counts := counts }
        | _ => pure state
    | _ => pure state
  else
    pure state

def sessionTimes (environment : CursorEnvironment) (artifactPath : String) (state : State) :
    ℤ × ℤ :=
  if state.sawExplicitTimestamp then
    (state.startedAt.getD (environment.createdAt artifactPath),
      state.lastEventAt.getD (environment.modifiedAt artifactPath))
  else
    (environment.createdAt artifactPath, environment.modifiedAt artifactPath)

/-- `CursorSessionParser.parse`. -/
def parse (environment : CursorEnvironment) (path : String) :
    PyResult NativeSessionAnalytics := do
  let (artifactPath, lines) ←
    openAgentArtifact environment.toAgentEnvironment "Cursor" path
  let (sessionId, repositoryRoot) ← CursorSessionStore.sessionMeta environment artifactPath
  let state ← foldAgentEvents "Cursor" artifactPath (parseEvent environment artifactPath) 1
    lines {}
  let (startedAt, lastEventAt) := sessionTimes environment artifactPath state
  agentSession .cursor "cursor" artifactPath sessionId repositoryRoot startedAt lastEventAt
    state.counts

end CursorSessionParser

/-! ## The capture builder -/

namespace CursorTranscriptCapture

def rules : CaptureRules where
  keepsText text := !text.isEmpty
  keepsOutput _ := true
  refusesName := false

def timestampText (environment : CursorEnvironment) (artifactPath : String) (lineNumber : ℕ)
    (event : RolloutMembers) : PyResult String := do
  let instant ← cursorInstant environment artifactPath lineNumber event
  pure (environment.isoFormat instant)

/-- One event of the loop of `build`. -/
def captureEvent (environment : CursorEnvironment) (artifactPath sessionId : String)
    (lineNumber : ℕ) (event : RolloutMembers) (state : CaptureState) :
    PyResult CaptureState := do
  let timestamp ← timestampText environment artifactPath lineNumber event
  let role := event.get "role"
  if !role.isHashable then
    .error CodexSessionParser.unhashableType
  else if role.isText "user" || role.isText "assistant" then
    match event.get "message" with
    | .obj message =>
        ((messageBlocks role (RolloutMembers.get message "content")).map fun block =>
          (⟨timestamp, lineNumber, role, block⟩ : PlacedBlock)).foldlM
            (captureBlock rules "Cursor" artifactPath sessionId) state
    | _ => pure state
  else
    pure state

/-- `CursorTranscriptCaptureBuilder.build`. -/
def build (environment : CursorEnvironment) (path : String) : PyResult TranscriptCapture := do
  let (artifactPath, lines) ←
    openAgentArtifact environment.toAgentEnvironment "Cursor" path
  let (sessionId, repositoryRoot) ← CursorSessionStore.sessionMeta environment artifactPath
  let state ← foldAgentEvents "Cursor" artifactPath
    (captureEvent environment artifactPath sessionId) 1 lines {}
  TranscriptCapture.create
    { sessionId := sessionId
      repositoryRoot := repositoryRoot
      artifactPath := artifactPath
      segments := state.segments }

end CursorTranscriptCapture

end SuitCode
