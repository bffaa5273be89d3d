import SuitCode.ActionExecution
import SuitCode.OutputLocations
import SuitCode.RepositoryModels
import SuitCode.Library.FirstOccurrences

/-!
# Snippets of failed tests

The output of a test which did not pass is searched for paths with lines, and each file
which they name gives a snippet of the lines around.  A relative path is read from the
root of the repository, whatever directory the command ran in.
-/

namespace SuitCode

open DecimalText ExceptList FileTree IsoTimestamps KeyedList PosixText PythonLines

/-! ## Files -/

inductive SnippetError where
  | osError (message : String)
  | python (error : PyError)
  deriving DecidableEq, Repr

abbrev SnippetResult := Except SnippetError

def orSnippetError {α : Type} : PyResult α → SnippetResult α
  | .ok value => .ok value
  | .error error => .error (.python error)

inductive FileReading where
  | text (content : String)
  | undecodable
  | refused (message : String)
  deriving DecidableEq, Repr

structure RepositoryFiles where
  tree : FileTree
  /-- The message of the `OSError` which `stat` raises, other than for a missing file. -/
  statError : List String → Option String
  reading : List String → FileReading

structure TestFailureSnippet where
  repositoryRelPath : String
  lineStart : ℕ
  lineEnd : ℕ
  snippet : String
  provenance : List ProvenanceEntry
  deriving DecidableEq, Repr

def snippetChecks (snippet : TestFailureSnippet) : List (Bool × String) :=
  [(snippet.lineStart < 1, "line_start must be >= 1"),
    (snippet.lineEnd < snippet.lineStart, "line_end must be >= line_start"),
    (isBlank snippet.snippet, "snippet must not be empty"),
    (snippet.provenance.isEmpty, "provenance must not be empty")]

def TestFailureSnippet.create (snippet : TestFailureSnippet) : PyResult TestFailureSnippet := do
  let path ← normalizeRepositoryRelativePath snippet.repositoryRelPath
  validated (snippetChecks snippet) { snippet with repositoryRelPath := path }

namespace RepositoryFiles

variable (files : RepositoryFiles)

def resolved (path : List String) : SnippetResult (List String) :=
  match files.tree.resolve path with
  | some real => .ok real
  | none => .error (.python (.runtimeError ("Symlink loop from '/" ++ join "/" path ++ "'")))

/-- `_resolve_repository_path`, of a path which is read from a directory. -/
def repositoryPath (root directory : List String) (rawPath : String) :
    SnippetResult (Option String) :=
  if '\x00' ∈ rawPath.toList then
    .error (.python (.valueError "lstat: embedded null character in path"))
  else do
    let candidate ← files.resolved (joined directory rawPath)
    match files.statError candidate with
    | some message => .error (.osError message)
    | none =>
        if files.tree.isFile candidate then
          pure ((relativeTo root candidate).map posixText)
        else
          pure none

def fileLines (root : List String) (repositoryRelPath : String) :
    SnippetResult (Option (List String)) := do
  let path ← files.resolved (joined root repositoryRelPath)
  match files.reading path with
  | .text content =>
      pure (some ((splitLines (universalNewlines content.toList)).map String.ofList))
  | .undecodable => pure none
  | .refused message => .error (.osError message)

end RepositoryFiles

/-! ## The extractor -/

structure FailureSnippetExtractor where
  contextLines : ℕ
  maxSnippets : ℕ
  maxSnippets_pos : 1 ≤ maxSnippets

abbrev NamedLine := String × ℕ

structure SnippetRow where
  key : NamedLine
  snippet : TestFailureSnippet
  deriving DecidableEq, Repr

namespace FailureSnippetExtractor

variable (extractor : FailureSnippetExtractor)

def clampedLine (line : ℕ) (lines : List String) : ℕ := min (max line 1) lines.length

def lineStart (line : ℕ) (lines : List String) : ℕ :=
  max 1 (clampedLine line lines - extractor.contextLines)

def lineEnd (line : ℕ) (lines : List String) : ℕ :=
  min lines.length (clampedLine line lines + extractor.contextLines)

def snippetText (first last : ℕ) (lines : List String) : String :=
  join "\n" ((List.range' first (last + 1 - first)).map fun number =>
    toString number ++ ": " ++ lines.getD (number - 1) "")

def snippetOf (sourceTool : Option String) (repositoryRelPath : String) (line : ℕ)
    (lines : List String) : PyResult TestFailureSnippet := do
  let first := extractor.lineStart line lines
  let last := extractor.lineEnd line lines
  let entry ← derivedSummaryProvenance .testTool
    "derived from test output file/line references" [repositoryRelPath] sourceTool
  TestFailureSnippet.create
    { repositoryRelPath := repositoryRelPath
      lineStart := first
      lineEnd := last
      snippet := snippetText first last lines
      provenance := [entry] }

variable (files : RepositoryFiles) (root : List String) (sourceTool : Option String)

def buildSnippet (repositoryRelPath : String) (line : ℕ) :
    SnippetResult (Option TestFailureSnippet) := do
  match ← files.fileLines root repositoryRelPath with
  | none => pure none
  | some [] => pure none
  | some lines => do
      let snippet ← orSnippetError (extractor.snippetOf sourceTool repositoryRelPath line lines)
      pure (some snippet)

/-- The loop of `extract`, with the keys it has seen and the snippets it has taken. -/
def extractRows : List NamedLine → List SnippetRow → List Occurrence →
    SnippetResult (List SnippetRow)
  | _, rows, [] => .ok rows
  | seen, rows, occurrence :: rest => do
      match ← files.repositoryPath root root occurrence.path with
      | none => extractRows seen rows rest
      | some normalized =>
          let key := (normalized, occurrence.line)
          if key ∈ seen then
            extractRows seen rows rest
          else
            let snippet ← extractor.buildSnippet files root sourceTool normalized occurrence.line
            let taken := match snippet with
              | some snippet => rows ++ [⟨key, snippet⟩]
              | none => rows
            if extractor.maxSnippets ≤ taken.length then
              .ok taken
            else
              extractRows (seen ++ [key]) taken rest

/-- `extract`, with the keys of the snippets. -/
def extract (repositoryRoot : List String) (sourceTool : Option String) (output : String) :
    SnippetResult (List SnippetRow) := do
  let root ← files.resolved repositoryRoot
  let found ← orSnippetError (locations output)
  extractor.extractRows files root sourceTool [] [] found

end FailureSnippetExtractor

/-! ## Running a target -/

inductive TestExecutionStatus where
  | passed
  | failed
  | error
  | timeout
  deriving DecidableEq, Repr

def toTestStatus : ActionExecutionStatus → TestExecutionStatus
  | .passed => .passed
  | .failed => .failed
  | .timeout => .timeout
  | .error => .error

structure TestExecutionResult where
  testId : String
  status : TestExecutionStatus
  success : Bool
  commandArgv : List String
  commandCwd : Option String
  exitCode : Option ℤ
  durationMs : ℕ
  logPath : String
  warning : Option String
  outputExcerpt : Option String
  failureSnippets : List TestFailureSnippet
  provenance : List ProvenanceEntry
  deriving DecidableEq, Repr

/-- The checks of `TestExecutionResult`, but for that of its log path. -/
def testResultChecks (result : TestExecutionResult) : List (Bool × String) :=
  [(isBlank result.testId, "test_id must not be empty"),
    (result.commandArgv.isEmpty, "command_argv must not be empty"),
    (result.commandArgv.any isBlank, "command_argv must not contain empty arguments"),
    (result.commandCwd.any isBlank, "command_cwd must not be empty"),
    (result.warning.any isBlank, "warning must not be empty"),
    (result.outputExcerpt.any isBlank, "output_excerpt must not be empty"),
    (result.success && result.status ≠ .passed, "success=True requires status=passed"),
    (!result.success && result.status = .passed, "status=passed requires success=True"),
    (result.status = .timeout && result.exitCode.isSome,
      "timeout status must not include exit_code"),
    (result.provenance.isEmpty, "provenance must not be empty"),
    (!result.provenance.any fun entry =>
        entry.sourceKind = .testTool || entry.sourceKind = .heuristic,
      "test execution result must include test-tool or heuristic provenance")]

def TestExecutionResult.create (result : TestExecutionResult) :
    PyResult TestExecutionResult := do
  let logPath ← validateLogPath result.logPath
  validated (testResultChecks result) { result with logPath := logPath }

def TestTargetDescription.sourceTool (description : TestTargetDescription) : Option String :=
  description.provenance.findSome? fun entry =>
    if entry.sourceKind = .testTool then entry.sourceTool else none

def TestTargetDescription.request (description : TestTargetDescription) (timeoutSeconds : ℤ) :
    ActionRequest :=
  { actionId := description.testDefinition.id
    commandArgv := description.commandArgv
    commandCwd := description.commandCwd
    timeoutSeconds := timeoutSeconds
    runGroup := "tests" }

def TestTargetDescription.resultEntry (description : TestTargetDescription) (logPath : String) :
    PyResult ProvenanceEntry :=
  derivedSummaryProvenance (if description.isAuthoritative then .testTool else .heuristic)
    "test target execution result derived from deterministic provider command"
    (logPath :: description.testDefinition.testFiles) description.sourceTool

def TestTargetDescription.toTestResult (description : TestTargetDescription)
    (execution : ActionExecutionResult) (snippets : List TestFailureSnippet) :
    PyResult TestExecutionResult := do
  let entry ← description.resultEntry execution.logPath
  let status := toTestStatus execution.status
  TestExecutionResult.create
    { testId := description.testDefinition.id
      status := status
      success := status = .passed
      commandArgv := description.commandArgv
      commandCwd := description.commandCwd
      exitCode := execution.exitCode
      durationMs := execution.durationMs
      logPath := execution.logPath
      warning := description.warning
      outputExcerpt := execution.outputExcerpt
      failureSnippets := snippets
      provenance := description.provenance ++ [entry] }

structure TestExecutionService where
  repositoryRoot : List String
  extractor : FailureSnippetExtractor

namespace TestExecutionService

variable (service : TestExecutionService) (files : RepositoryFiles)

def actions : ActionExecutionService := ⟨service.repositoryRoot⟩

def failureRows (description : TestTargetDescription) (execution : ActionExecutionResult) :
    SnippetResult (List SnippetRow) :=
  if execution.status = .passed then .ok []
  else
    service.extractor.extract files service.repositoryRoot description.sourceTool
      execution.output

/-- `run_target`, with the files as the command leaves them. -/
def runTarget (world : ActionWorld) (description : TestTargetDescription) (timeoutSeconds : ℤ)
    (logs : RunLogs) : SnippetResult TestExecutionResult × RunLogs :=
  match service.actions.run world (description.request timeoutSeconds) logs with
  | (.error error, logs) => (.error (.python error), logs)
  | (.ok execution, logs) =>
      (do
        let rows ← service.failureRows files description execution
        orSnippetError (description.toTestResult execution (rows.map SnippetRow.snippet)), logs)

end TestExecutionService

end SuitCode
