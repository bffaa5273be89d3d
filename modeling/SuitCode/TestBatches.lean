import SuitCode.SnippetCoverage
import SuitCode.Library.PythonRepr
import SuitCode.Library.StoppingRuns

/-!
# Running a batch of tests

The tests of a batch are run provider by provider, in the order in which the batch first
names the providers, and the first error of all discards the results.
-/

namespace SuitCode

open ExceptList KeyedList KeyedTable PosixText PythonRepr StoppingRuns

structure TestWorld where
  world : ActionWorld
  files : RepositoryFiles

structure PlacedProvider where
  provider : Provider
  place : ℕ

/-- The checks of `validate_exact_batch` on test ids, and of `_validate_test_id_batch`. -/
def testBatchChecks (testIds : List String) : List (Bool × String) :=
  [(testIds.isEmpty, "test_ids must not be empty"),
    (25 < testIds.length, "test_ids must not contain more than 25 items"),
    (testIds.any isBlank, "test_ids must not contain empty values"),
    (!decide testIds.Nodup, "test_ids must not contain duplicates")]

def validateTestBatch (testIds : List String) : PyResult Unit :=
  validated (testBatchChecks testIds) ()

/-- `results_by_id` with the results of a provider. -/
def addResults (results : List TestExecutionResult) :
    List TestExecutionResult → PyResult (List TestExecutionResult)
  | [] => .ok results
  | item :: items =>
      if item.testId ∈ results.map TestExecutionResult.testId then
        raiseValueError ("duplicate test execution result returned: `" ++ item.testId ++ "`")
      else addResults (results ++ [item]) items

def checkedResults (testIds : List String) (found : List TestExecutionResult) :
    PyResult (List TestExecutionResult) :=
  let actual := dedupeBy id (found.map TestExecutionResult.testId)
  if sortedBy id testIds = sortedBy id actual then .ok found
  else
    raiseValueError ("provider returned unexpected test run results: expected `" ++
      pyReprList (sortedBy id testIds) ++ "`, got `" ++ pyReprList (sortedBy id actual) ++ "`")

namespace Repository

variable (repository : Repository)

def placedProviders : List PlacedProvider :=
  (repository.providersForRole .test).zipIdx.map fun placed => ⟨placed.1, placed.2⟩

def providerForTestId (testId : String) : PyResult PlacedProvider := do
  let _ ← repository.discoveredTestIndex
  match repository.placedProviders.find? fun placed =>
      placed.provider.discoveredTests.any fun test => test.testDefinition.id = testId with
  | some placed => pure placed
  | none => raiseValueError ("unknown test id: `" ++ testId ++ "`")

/-- `grouped_ids`, in the order of the providers' first ids. -/
def groupedIds (placed : List (PlacedProvider × String)) :
    List (PlacedProvider × List String) :=
  (dedupeBy (fun pair => pair.1.place) placed).map fun first =>
    (first.1, (placed.filter fun pair => pair.1.place = first.1.place).map Prod.snd)

def runTest (service : TestExecutionService) (worlds : String → TestWorld)
    (timeoutSeconds : ℤ) (provider : Provider) (testId : String) (logs : RunLogs) :
    SnippetResult TestExecutionResult × RunLogs :=
  match repository.describeProviderTestTarget provider testId with
  | .error error => (.error (.python error), logs)
  | .ok description =>
      service.runTarget (worlds testId).files (worlds testId).world description timeoutSeconds logs

/-- `run_test_targets` of a provider. -/
def runProviderTests (service : TestExecutionService) (worlds : String → TestWorld)
    (timeoutSeconds : ℤ) (provider : Provider) (testIds : List String) (logs : RunLogs) :
    SnippetResult (List TestExecutionResult) × RunLogs :=
  match (do
      validateTestBatch testIds
      validateTimeoutSeconds timeoutSeconds) with
  | .error error => (.error (.python error), logs)
  | .ok _ => runUntilError (repository.runTest service worlds timeoutSeconds provider) logs testIds

/-- The loop of `run_test_targets` over the providers. -/
def runGroups (service : TestExecutionService) (worlds : String → TestWorld)
    (timeoutSeconds : ℤ) : List (PlacedProvider × List String) → List TestExecutionResult →
    RunLogs → SnippetResult (List TestExecutionResult) × RunLogs
  | [], results, logs => (.ok results, logs)
  | (placed, testIds) :: groups, results, logs =>
      match repository.runProviderTests service worlds timeoutSeconds placed.provider testIds
          logs with
      | (.error error, logs) => (.error error, logs)
      | (.ok found, logs) =>
          match checkedResults testIds found >>= addResults results with
          | .error error => (.error (.python error), logs)
          | .ok results => runGroups service worlds timeoutSeconds groups results logs

/-- `results_by_id[test_id]`; the exception stands for a `KeyError`, which no batch raises. -/
def resultById (results : List TestExecutionResult) (testId : String) :
    PyResult TestExecutionResult :=
  match results.find? fun item => item.testId = testId with
  | some item => .ok item
  | none => .error (.attributeError testId)

def batchGroups (testIds : List String) (timeoutSeconds : ℤ) :
    PyResult (List (PlacedProvider × List String)) := do
  validateTestBatch testIds
  validateTimeoutSeconds timeoutSeconds
  let placed ← testIds.mapM fun testId => do
    let provider ← repository.providerForTestId testId
    pure (provider, testId)
  pure (groupedIds placed)

/-- `run_test_targets`; `worlds` are those which the runs of the tests find. -/
def runTestTargets (service : TestExecutionService) (worlds : String → TestWorld)
    (testIds : List String) (timeoutSeconds : ℤ) (logs : RunLogs) :
    SnippetResult (List TestExecutionResult) × RunLogs :=
  match repository.batchGroups testIds timeoutSeconds with
  | .error error => (.error (.python error), logs)
  | .ok groups =>
      match repository.runGroups service worlds timeoutSeconds groups [] logs with
      | (.error error, logs) => (.error error, logs)
      | (.ok results, logs) => (orSnippetError (testIds.mapM (resultById results)), logs)

end Repository

end SuitCode
