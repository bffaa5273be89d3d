import SuitCode.AnalyticsLog
import SuitCode.EvidencePaths
import SuitCode.Redaction
import SuitCode.Library.FileTree
import SuitCode.Library.PythonLines
import Mathlib.Data.List.DropRight

/-!
# Running actions

An action runs as a process in a directory of the repository, and what the process printed is
written to a log below `.suit/runs` before the result is built.
-/

namespace SuitCode

open ExceptList IsoTimestamps KeyedTable PosixText PythonLines

structure ActionRequest where
  actionId : String
  commandArgv : List String
  commandCwd : Option String
  timeoutSeconds : ℤ
  runGroup : String
  deriving DecidableEq, Repr

/-- What a process came to; one which was killed at its timeout has no exit code. -/
structure ProcessExecutionResult where
  exitCode : Option ℤ
  output : String
  timedOut : Bool
  durationMs : ℕ
  exitCode_of_timedOut : timedOut = true → exitCode = none
  deriving DecidableEq, Repr

inductive ProcessError where
  | osError (message : String)
  | other (error : PyError)
  deriving DecidableEq, Repr

structure ActionWorld where
  tree : FileTree
  which : String → Option String
  sysExecutable : String
  findsPytest : Bool
  process : List String → List String → ℤ → Except ProcessError ProcessExecutionResult
  now : UtcTime

inductive ActionExecutionStatus where
  | passed
  | failed
  | error
  | timeout
  deriving DecidableEq, Repr

structure ActionExecutionResult where
  actionId : String
  status : ActionExecutionStatus
  success : Bool
  commandArgv : List String
  commandCwd : Option String
  exitCode : Option ℤ
  durationMs : ℕ
  logPath : String
  outputExcerpt : Option String
  output : String
  deriving DecidableEq, Repr

/-- A log below `.suit/runs`, under its path from the repository root. -/
structure RunLog where
  path : String
  text : String
  deriving DecidableEq, Repr

abbrev RunLogs := KeyedTable RunLog.path

def validateTimeoutSeconds (value : ℤ) : PyResult Unit :=
  if value < 1 ∨ 3600 < value then
    raiseValueError "timeout_seconds must be between 1 and 3600"
  else .ok ()

/-- The checks of `ActionExecutionResult`, but for that of its log path. -/
def actionResultChecks (result : ActionExecutionResult) : List (Bool × String) :=
  [(isBlank result.actionId, "action_id must not be empty"),
    (result.commandArgv.isEmpty, "command_argv must not be empty"),
    (result.commandArgv.any isBlank, "command_argv must not contain empty arguments"),
    (result.commandCwd.any isBlank, "command_cwd must not be empty"),
    (result.outputExcerpt.any isBlank, "output_excerpt must not be empty"),
    (result.success && result.status ≠ .passed, "success=True requires status=passed"),
    (!result.success && result.status = .passed, "status=passed requires success=True"),
    (result.status = .timeout && result.exitCode.isSome,
      "timeout status must not include exit_code")]

def validateLogPath (value : String) : PyResult String :=
  if isBlank value then raiseValueError "log_path must not be empty"
  else
    let normalized := strip (replaceChar '\\' '/' value)
    if !containsText normalized "://" && !startsWith normalized "/" then
      normalizeRepositoryRelativePath normalized
    else .ok normalized

def ActionExecutionResult.create (result : ActionExecutionResult) :
    PyResult ActionExecutionResult := do
  let logPath ← validateLogPath result.logPath
  validated (actionResultChecks result) { result with logPath := logPath }

def resolveStatus (exitCode : Option ℤ) (timedOut : Bool) : ActionExecutionStatus :=
  if timedOut then .timeout
  else if exitCode = some 0 then .passed
  else if exitCode = none then .error
  else .failed

def excerpt (output : String) : Option String :=
  let stripped := strip output
  if stripped = "" then none
  else
    let lines := (splitLines stripped.toList).map String.ofList
    let text := join "\n" (lines.rtake 40)
    some (String.ofList (text.toList.rtake 4000))

def lowered (text : String) : String := String.ofList (text.toList.flatMap lowerChar)

def isGroupChar (c : Char) : Bool := c.isLower || c.isDigit || c = '_' || c = '-'

def isSafeChar (c : Char) : Bool := c.isAlphanum || c = '.' || c = '_' || c = '-'

/-- One underscore for each run of the characters `[^a-zA-Z0-9._-]`; `inside` tells that the
character before is of such a run. -/
def replaceUnsafe (inside : Bool) : List Char → List Char
  | [] => []
  | c :: chars =>
      if isSafeChar c then c :: replaceUnsafe false chars
      else if inside then replaceUnsafe true chars
      else '_' :: replaceUnsafe true chars

def isTrimmed (c : Char) : Bool := c = '.' || c = '_' || c = '-'

def safeActionId (actionId : String) : String :=
  let safe := ((replaceUnsafe false actionId.toList).dropWhile isTrimmed).rdropWhile isTrimmed
  if safe = [] then "action" else String.ofList safe

/-- `strftime("%Y%m%dT%H%M%SZ")`. -/
def UtcTime.secondChars (time : UtcTime) : List Char :=
  time.dateChars ++ 'T' :: (fixedDigits 2 time.hour ++ (fixedDigits 2 time.minute ++
    (fixedDigits 2 time.second ++ ['Z'])))

def runLogName (now : UtcTime) (actionId : String) : String :=
  String.ofList now.secondChars ++ "-" ++ safeActionId actionId ++ ".log"

def runLogPath (group : String) (now : UtcTime) (actionId : String) : String :=
  join "/" [".suit", "runs", group, runLogName now actionId]

def runGroupOf (runGroup : String) : PyResult String :=
  let normalizedGroup := lowered (strip runGroup)
  if normalizedGroup = "" then raiseValueError "run_group must not be empty"
  else if !normalizedGroup.toList.all isGroupChar then
    raiseValueError
      "run_group must contain only lowercase letters, digits, '-', or '_' characters"
  else .ok normalizedGroup

structure ActionExecutionService where
  repositoryRoot : List String

namespace ActionExecutionService

variable (service : ActionExecutionService) (world : ActionWorld)

def resolveWorkingDirectory : Option String → PyResult (List String)
  | none => .ok service.repositoryRoot
  | some commandCwd =>
      if '\x00' ∈ commandCwd.toList then
        raiseValueError "lstat: embedded null character in path"
      else
        let path := FileTree.joined service.repositoryRoot commandCwd
        match world.tree.resolve path with
        | none => .error (.runtimeError ("Symlink loop from '/" ++ join "/" path ++ "'"))
        | some workingDirectory =>
            if !service.repositoryRoot.isPrefixOf workingDirectory then
              raiseValueError ("command cwd escapes repository root: `" ++ commandCwd ++ "`")
            else if !world.tree.isDirectory workingDirectory then
              raiseValueError ("command cwd does not exist: `" ++ commandCwd ++ "`")
            else .ok workingDirectory

def resolveCommandArgv : List String → PyResult (List String)
  | [] => .error .indexError
  | executable :: arguments =>
      if isBlank executable then
        raiseValueError "command argv must not contain an empty executable"
      else
        match world.which executable with
        | some resolved => .ok (resolved :: arguments)
        | none =>
            let normalized := lowered executable
            if normalized ∈ ["python", "python3", "python.exe", "python3.exe"] then
              .ok (world.sysExecutable :: arguments)
            else if normalized = "pytest" ∧ world.findsPytest = true then
              .ok (world.sysExecutable :: "-m" :: "pytest" :: arguments)
            else .ok (executable :: arguments)

/-- The part of `run` before its log is written. -/
def execute (request : ActionRequest) : PyResult (String × ProcessExecutionResult) := do
  validateTimeoutSeconds request.timeoutSeconds
  let group ← runGroupOf request.runGroup
  let workingDirectory ← service.resolveWorkingDirectory world request.commandCwd
  let argv ← resolveCommandArgv world request.commandArgv
  match world.process argv workingDirectory request.timeoutSeconds with
  | .ok execution => pure (group, execution)
  | .error (.osError message) =>
      raiseValueError
        ("failed to execute command `" ++ join " " request.commandArgv ++ "`: " ++ message)
  | .error (.other error) => .error error

def toResult (request : ActionRequest) (execution : ProcessExecutionResult) (logPath : String) :
    PyResult ActionExecutionResult :=
  let status := resolveStatus execution.exitCode execution.timedOut
  ActionExecutionResult.create
    { actionId := request.actionId
      status := status
      success := status = .passed
      commandArgv := request.commandArgv
      commandCwd := request.commandCwd
      exitCode := execution.exitCode
      durationMs := execution.durationMs
      logPath := logPath
      outputExcerpt := excerpt execution.output
      output := execution.output }

/-- `run`: what it returns or raises, and the logs behind it. -/
def run (request : ActionRequest) (logs : RunLogs) :
    PyResult ActionExecutionResult × RunLogs :=
  match service.execute world request with
  | .error error => (.error error, logs)
  | .ok (group, execution) =>
      let path := runLogPath group world.now request.actionId
      (toResult request execution path, logs.upsert ⟨path, execution.output⟩)

end ActionExecutionService

end SuitCode
