import SuitCode.Repository

/-!
# Runners of a component and the component of a runner

The context of a component lists the runners which are related to it by their
working directories and their files.  The context of a runner names the one
component among the owners of the runner's action.
-/

namespace SuitCode

open PosixText KeyedList

namespace Repository

def isRelatedRunner (index : OwnershipIndex) (component : Component)
    (componentPaths : List String) (runner : Runner) : PyResult Bool :=
  if runner.cwd.any fun cwd => cwd ≠ "" && componentPaths.any fun path => isAtOrBelow path cwd then
    .ok true
  else do
    let runnerFiles ← index.filesForOwner runner.id
    pure (runnerFiles.any fun item => component.sourceRoots.any fun sourceRoot =>
      item.repositoryRelPath ∈ componentPaths || isAtOrBelow item.repositoryRelPath sourceRoot)

def relatedRunnerIdsForComponent (repository : Repository) (component : Component)
    (ownedFiles : List FileInfo) : PyResult (List String) := do
  let index ← repository.buildOwnershipIndex
  let componentPaths := ownedFiles.map FileInfo.repositoryRelPath
  let flags ← repository.getRunners.mapM (isRelatedRunner index component componentPaths)
  pure (sortedBy id (dedupeBy id
    (((repository.getRunners.zip flags).filter Prod.snd).map fun entry => entry.1.id)))

/-! ## The context of a runner -/

def runnerById (repository : Repository) (runnerId : String) : PyResult Runner := do
  let owner ← repository.resolveOwner runnerId
  if owner.kind ≠ .runner then
    raiseValueError ("owner id is not a runner: `" ++ runnerId ++ "`")
  else
    match firstDuplicate [] (repository.getRunners.map Runner.id) with
    | some duplicate => raiseValueError ("duplicate runner id detected: `" ++ duplicate ++ "`")
    | none =>
        match repository.getRunners.find? fun runner => runner.id = runnerId with
        | some runner => pure runner
        | none => raiseValueError ("unknown runner id: `" ++ runnerId ++ "`")

def runnerActionForId (repository : Repository) (runnerId : String) :
    PyResult RepositoryAction := do
  let actions ← repository.listActions ⟨.runnerId runnerId, []⟩
  match actions.filter fun action =>
      action.kind = .runnerExecution && action.targetKind = .runner &&
        action.targetId = runnerId with
  | [] => raiseValueError ("missing runner action for runner id `" ++ runnerId ++ "`")
  | [action] => pure action
  | _ => raiseValueError ("ambiguous runner actions for runner id `" ++ runnerId ++ "`")

def primaryComponentForAction (repository : Repository) (action : RepositoryAction) :
    PyResult (Option Component) := do
  let owners ← action.ownerIds.mapM repository.resolveOwner
  let componentOwnerIds :=
    ((action.ownerIds.zip owners).filter fun entry => entry.2.kind = .component).map Prod.fst
  match sortedBy id (dedupeBy id componentOwnerIds) with
  | [] => pure none
  | [componentId] =>
      match (repository.getComponents.filter fun component =>
          component.id = componentId).getLast? with
      | some component => pure (some component)
      | none =>
          raiseValueError ("component id could not be resolved: `" ++ componentId ++ "`")
  | componentIds =>
      raiseValueError
        ("runner action `" ++ action.id ++ "` maps to multiple components: `" ++
          join ", " componentIds ++ "`")

def relatedTestsForRunner (repository : Repository) (primaryComponent : Option Component)
    (ownedFiles : List FileInfo) : PyResult (List ResolvedRelatedTest) :=
  match primaryComponent with
  | some component => do
      let target ← RelatedTestTarget.ofOwner component.id
      repository.getRelatedTests target
  | none => do
      let found ← ownedFiles.mapM fun file => do
        let target ← RelatedTestTarget.ofFile file.repositoryRelPath
        repository.getRelatedTests target
      pure (sortedBy relatedTestSortKey (dedupeBy ResolvedRelatedTest.testId found.flatten))

/-- `_context_provenance`. -/
def runnerContextProvenance (runner : Runner) (action : RepositoryAction)
    (ownedFiles : List FileInfo) (relatedTests : List ResolvedRelatedTest) :
    PyResult (List ProvenanceEntry) := do
  let ownedPaths := (ownedFiles.take 10).map FileInfo.repositoryRelPath
  let evidencePaths ←
    if ownedPaths.isEmpty then mergeProvenancePaths runner.provenance 10 else pure ownedPaths
  let ownership ← ProvenanceEntry.create .derived .ownership none
    ("runner context derived from ownership index for `" ++ runner.id ++ "`") evidencePaths
  let sourceKind ← preferredSourceKind action.provenance
  let sourceTool ← preferredSourceTool action.provenance
  let actionPaths ← mergeProvenancePaths action.provenance 10
  let invocation ← derivedSummaryProvenance sourceKind
    ("runner invocation derived from deterministic action `" ++ action.id ++ "`")
    actionPaths sourceTool
  if relatedTests.isEmpty then
    pure [ownership, invocation]
  else
    let testProvenance := relatedTests.flatMap ResolvedRelatedTest.provenance
    let testTool ← preferredSourceTool testProvenance
    let testPaths ← mergeProvenancePaths testProvenance 10
    let tests ← derivedSummaryProvenance
      (if relatedTests.all ResolvedRelatedTest.isAuthoritative then .testTool else .heuristic)
      "runner-related tests derived from ownership and discovered test metadata"
      testPaths testTool
    pure [ownership, invocation, tests]

structure RunnerContext where
  runner : Runner
  actionId : String
  providerId : String
  invocation : ActionInvocation
  primaryComponent : Option Component
  ownedFileCount : ℕ
  ownedFilesPreview : List FileInfo
  relatedTestCount : ℕ
  relatedTestsPreview : List ResolvedRelatedTest
  provenance : List ProvenanceEntry
  deriving DecidableEq

def validatePreviewLimit (value : ℕ) (fieldName : String) : PyResult Unit :=
  if value < 1 ∨ 50 < value then
    raiseValueError (fieldName ++ " must be between 1 and 50")
  else
    .ok ()

def describeRunner (repository : Repository) (runnerId : String)
    (filePreviewLimit testPreviewLimit : ℕ) : PyResult RunnerContext := do
  validatePreviewLimit filePreviewLimit "file_preview_limit"
  validatePreviewLimit testPreviewLimit "test_preview_limit"
  let runner ← repository.runnerById runnerId
  let action ← repository.runnerActionForId runnerId
  let primaryComponent ← repository.primaryComponentForAction action
  let ownedFiles ← repository.listFilesByOwner runnerId
  let relatedTests ← repository.relatedTestsForRunner primaryComponent ownedFiles
  let provenance ← runnerContextProvenance runner action ownedFiles relatedTests
  validated
    [(isBlank action.id, "value must not be empty"),
      (isBlank action.providerId, "value must not be empty")]
    { runner := runner
      actionId := action.id
      providerId := action.providerId
      invocation := action.invocation
      primaryComponent := primaryComponent
      ownedFileCount := ownedFiles.length
      ownedFilesPreview := ownedFiles.take filePreviewLimit
      relatedTestCount := relatedTests.length
      relatedTestsPreview := relatedTests.take testPreviewLimit
      provenance := provenance }

end Repository

end SuitCode
