import SuitCode.BuildTargetFacts
import SuitCode.RunLogs
import SuitCode.Library.StoppingRuns

/-!
# Building a project

All build targets of a repository are run one behind the other, and the summary is checked
after the last of them.
-/

namespace SuitCode

open ExceptList IsoTimestamps KeyedTable PosixText StoppingRuns

/-! ## Results -/

inductive BuildExecutionStatus where
  | passed
  | failed
  | error
  | timeout
  deriving DecidableEq, Repr

def toBuildStatus : ActionExecutionStatus → BuildExecutionStatus
  | .passed => .passed
  | .failed => .failed
  | .timeout => .timeout
  | .error => .error

structure BuildExecutionResult where
  actionId : String
  targetId : String
  targetKind : ActionTargetKind
  status : BuildExecutionStatus
  success : Bool
  commandArgv : List String
  commandCwd : Option String
  exitCode : Option ℤ
  durationMs : ℕ
  logPath : String
  outputExcerpt : Option String
  provenance : List ProvenanceEntry
  deriving DecidableEq, Repr

/-- The checks of `BuildExecutionResult`, but for that of its log path. -/
def buildResultChecks (result : BuildExecutionResult) : List (Bool × String) :=
  [(isBlank result.actionId, "value must not be empty"),
    (isBlank result.targetId, "value must not be empty"),
    (result.commandArgv.isEmpty, "command_argv must not be empty"),
    (result.commandArgv.any isBlank, "command_argv must not contain empty arguments"),
    (result.commandCwd.any isBlank, "command_cwd must not be empty"),
    (result.outputExcerpt.any isBlank, "output_excerpt must not be empty"),
    (result.success && result.status ≠ .passed, "success=True requires status=passed"),
    (!result.success && result.status = .passed, "status=passed requires success=True"),
    (result.status = .timeout && result.exitCode.isSome,
      "timeout status must not include exit_code"),
    (result.provenance.isEmpty, "provenance must not be empty")]

def BuildExecutionResult.create (result : BuildExecutionResult) :
    PyResult BuildExecutionResult := do
  let logPath ← validateLogPath result.logPath
  validated (buildResultChecks result) { result with logPath := logPath }

structure BuildProjectResult where
  timeoutSeconds : ℤ
  total : ℕ
  passed : ℕ
  failed : ℕ
  errors : ℕ
  timeouts : ℕ
  succeededTargetIds : List String
  failedResults : List BuildExecutionResult
  provenance : List ProvenanceEntry
  deriving DecidableEq, Repr

/-- The checks of `_validate_summary` behind that of the timeout. -/
def summaryChecks (result : BuildProjectResult) : List (Bool × String) :=
  [(result.total ≠ result.passed + result.failed + result.errors + result.timeouts,
      "total must equal passed + failed + errors + timeouts"),
    (result.passed ≠ result.succeededTargetIds.length,
      "passed must equal len(succeeded_target_ids)"),
    (result.failed + result.errors + result.timeouts ≠ result.failedResults.length,
      "failed + errors + timeouts must equal len(failed_results)"),
    (result.succeededTargetIds.any isBlank, "succeeded_target_ids must not contain empty values"),
    (!decide result.succeededTargetIds.Nodup,
      "succeeded_target_ids must not contain duplicates"),
    (result.failedResults.any fun item => item.status = .passed,
      "failed_results must not contain passed statuses"),
    (result.provenance.isEmpty, "provenance must not be empty")]

def BuildProjectResult.create (result : BuildProjectResult) : PyResult BuildProjectResult := do
  validateTimeoutSeconds result.timeoutSeconds
  validated (summaryChecks result) result

/-! ## Building one target -/

namespace BuildTargetDescription

variable (target : BuildTargetDescription)

def request (timeoutSeconds : ℤ) : ActionRequest :=
  { actionId := target.actionId
    commandArgv := target.invocation.argv
    commandCwd := target.invocation.cwd
    timeoutSeconds := timeoutSeconds
    runGroup := "builds" }

def resultEntry (logPath : String) : PyResult ProvenanceEntry := do
  let sourceKind ← preferredSourceKind target.provenance
  let sourceTool ← preferredSourceTool target.provenance
  let paths ← mergeProvenancePaths target.provenance 10
  derivedSummaryProvenance sourceKind
    "build execution result derived from deterministic build action" (logPath :: paths) sourceTool

def toBuildResult (execution : ActionExecutionResult) : PyResult BuildExecutionResult := do
  let entry ← target.resultEntry execution.logPath
  let status := toBuildStatus execution.status
  BuildExecutionResult.create
    { actionId := target.actionId
      targetId := target.targetId
      targetKind := target.targetKind
      status := status
      success := status = .passed
      commandArgv := target.invocation.argv
      commandCwd := target.invocation.cwd
      exitCode := execution.exitCode
      durationMs := execution.durationMs
      logPath := execution.logPath
      outputExcerpt := execution.outputExcerpt
      provenance := target.provenance ++ [entry] }

end BuildTargetDescription

structure BuildService where
  actions : ActionExecutionService
  repository : Repository

namespace BuildService

variable (service : BuildService)

def describeBuildTarget (actionId : String) : PyResult BuildTargetDescription := do
  let normalized := strip actionId
  if normalized = "" then raiseValueError "action_id must not be empty"
  else
    let targets ← service.repository.listBuildTargets
    match targets.find? fun target => target.actionId = normalized with
    | some target => pure target
    | none => raiseValueError ("unknown build action id: `" ++ normalized ++ "`")

/-- `build_target`, in the world it finds. -/
def buildTarget (world : ActionWorld) (timeoutSeconds : ℤ) (actionId : String)
    (logs : RunLogs) : PyResult BuildExecutionResult × RunLogs :=
  match (do
      validateTimeoutSeconds timeoutSeconds
      service.describeBuildTarget actionId) with
  | .error error => (.error error, logs)
  | .ok target =>
      match service.actions.run world (target.request timeoutSeconds) logs with
      | (.error error, logs) => (.error error, logs)
      | (.ok execution, logs) => (target.toBuildResult execution, logs)

def statusCount (status : BuildExecutionStatus) (results : List BuildExecutionResult) : ℕ :=
  results.countP fun result => result.status = status

def succeededTargetIds (results : List BuildExecutionResult) : List String :=
  (results.filter fun result => result.status = .passed).map BuildExecutionResult.targetId

def failedResults (results : List BuildExecutionResult) : List BuildExecutionResult :=
  results.filter fun result => result.status ≠ .passed

def summaryEntry (provenance : List ProvenanceEntry) : PyResult ProvenanceEntry := do
  let sourceKind ← preferredSourceKind provenance
  let sourceTool ← preferredSourceTool provenance
  let paths ← mergeProvenancePaths provenance 10
  derivedSummaryProvenance sourceKind
    "project build summary derived from deterministic build action executions" paths sourceTool

def summary (timeoutSeconds : ℤ) (results : List BuildExecutionResult) :
    PyResult BuildProjectResult := do
  let entry ← summaryEntry (results.flatMap BuildExecutionResult.provenance)
  BuildProjectResult.create
    { timeoutSeconds := timeoutSeconds
      total := results.length
      passed := statusCount .passed results
      failed := statusCount .failed results
      errors := statusCount .error results
      timeouts := statusCount .timeout results
      succeededTargetIds := succeededTargetIds results
      failedResults := failedResults results
      provenance := [entry] }

/-- `build_project`; `worlds` are those which the builds of the actions find. -/
def buildProject (worlds : String → ActionWorld) (timeoutSeconds : ℤ) (logs : RunLogs) :
    PyResult BuildProjectResult × RunLogs :=
  match (do
      validateTimeoutSeconds timeoutSeconds
      service.repository.listBuildTargets) with
  | .error error => (.error error, logs)
  | .ok targets =>
      if targets = [] then
        (raiseValueError "no deterministic build targets are available for this repository", logs)
      else
        match runUntilError
            (fun target => service.buildTarget (worlds target.actionId) timeoutSeconds
              target.actionId) logs targets with
        | (.error error, logs) => (.error error, logs)
        | (.ok results, logs) => (summary timeoutSeconds results, logs)

end BuildService

end SuitCode
