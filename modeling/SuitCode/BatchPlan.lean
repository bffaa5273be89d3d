import SuitCode.FileTargets

/-!
# Batch plans

`what_should_i_run` computes the change set of every file target, merges the
views by id, drops the tests which a planned build replaces, keeps the
exclusions a batch reports, and summarises the result.
-/

namespace SuitCode

open PosixText KeyedList

/-! ## Views of a batch -/

structure BatchMinimumVerifiedChangeSetTargetView where
  repositoryRelPath : String
  changeSet : MinimumVerifiedChangeSetView
  deriving DecidableEq, Repr

structure BatchMinimumVerifiedChangeSetView extends PlannedItemViews where
  compactSummary : MinimumVerifiedCompactSummaryView
  targetCount : ℕ
  targets : List BatchMinimumVerifiedChangeSetTargetView
  ownerIds : List String
  provenance : List ProvenanceView
  deriving DecidableEq, Repr

def minimumVerifiedBatchTargetView (tree : FileTree) (repository : Repository)
    (repositoryRelPath : String) : PyResult BatchMinimumVerifiedChangeSetTargetView := do
  let changeSet ← explainingFileTarget tree (rootSegments repository) repositoryRelPath
    "what_should_i_run" .mcpValidationError (fileChangeSet repository repositoryRelPath)
  pure
    { repositoryRelPath := repositoryRelPath
      changeSet := minimumVerifiedChangeSetView changeSet }

/-! ## Merging -/

def exclusionKey (item : ExcludedMinimumVerifiedItemView) : String × String × String :=
  (item.itemKind, item.itemId, item.reasonCode)

def mergedItems (targets : List BatchMinimumVerifiedChangeSetTargetView) :
    PlannedItemViews :=
  { tests := dedupeBy MinimumVerifiedTestTargetView.testId
      (targets.flatMap fun target => target.changeSet.tests)
    buildTargets := dedupeBy MinimumVerifiedBuildTargetView.actionId
      (targets.flatMap fun target => target.changeSet.buildTargets)
    runnerActions := dedupeBy MinimumVerifiedRunnerActionView.actionId
      (targets.flatMap fun target => target.changeSet.runnerActions)
    qualityValidationOperations := dedupeBy MinimumVerifiedQualityOperationView.id
      (targets.flatMap fun target => target.changeSet.qualityValidationOperations)
    qualityHygieneOperations := dedupeBy MinimumVerifiedQualityOperationView.id
      (targets.flatMap fun target => target.changeSet.qualityHygieneOperations)
    excludedItems := dedupeBy exclusionKey
      (targets.flatMap fun target => target.changeSet.excludedItems) }

def replacesTest (buildTargets : List MinimumVerifiedBuildTargetView)
    (item : ExcludedMinimumVerifiedItemView) : Bool :=
  item.reasonCode = "dependent_test_replaced_by_narrower_build" &&
    !item.replacedByIds.isEmpty &&
    item.replacedByIds.all fun replacement =>
      (buildTargets.map MinimumVerifiedBuildTargetView.actionId).contains replacement

def narrowBatchMinimumVerifiedTests (tests : List MinimumVerifiedTestTargetView)
    (buildTargets : List MinimumVerifiedBuildTargetView)
    (excludedItems : List ExcludedMinimumVerifiedItemView) :
    List MinimumVerifiedTestTargetView :=
  let replacementExclusions :=
    (excludedItems.filter (replacesTest buildTargets)).map
      ExcludedMinimumVerifiedItemView.itemId
  tests.filter fun item => item.testId ∉ replacementExclusions

def allowedReasonCodes : List String :=
  ["dependent_test_replaced_by_narrower_build",
    "repository_build_replaced_by_narrower_build",
    "no_deterministic_test_targets_available",
    "no_deterministic_validation_surface_for_artifact_member",
    "no_deterministic_validation_surfaces_for_provider_owned_artifact",
    "no_narrower_direct_validation_surface_for_file_target"]

def filterBatchMinimumVerifiedExclusions
    (excludedItems : List ExcludedMinimumVerifiedItemView) :
    List ExcludedMinimumVerifiedItemView :=
  excludedItems.filter fun item => item.reasonCode ∈ allowedReasonCodes

def batchItems (targets : List BatchMinimumVerifiedChangeSetTargetView) :
    PlannedItemViews :=
  let merged := mergedItems targets
  { merged with
    tests := narrowBatchMinimumVerifiedTests merged.tests merged.buildTargets
      merged.excludedItems
    excludedItems := filterBatchMinimumVerifiedExclusions merged.excludedItems }

/-! ## The summary and the batch -/

def reservedItems (targets : List BatchMinimumVerifiedChangeSetTargetView) :
    List MinimumVerifiedCompactItemView :=
  representatives MinimumVerifiedCompactItemView.key
    (targets.map fun target => target.changeSet.compactSummary.requiredValidation)

/-- `_batch_minimum_verified_compact_summary`: the reserved items come first. -/
def batchMinimumVerifiedCompactSummary
    (targets : List BatchMinimumVerifiedChangeSetTargetView) (items : PlannedItemViews) :
    MinimumVerifiedCompactSummaryView :=
  let base := minimumVerifiedCompactSummaryView items
  let reserved := reservedItems targets
  let seenIds := reserved.map MinimumVerifiedCompactItemView.key
  { base with
    requiredValidation :=
      reserved ++ base.requiredValidation.filter fun item => item.key ∉ seenIds }

/-- `_merge_view_provenance`: its key is every field but the owner path. -/
def mergeViewProvenance (groups : List (List ProvenanceView)) : List ProvenanceView :=
  dedupeBy
    (fun entry : ProvenanceView =>
      (entry.confidenceMode, entry.sourceKind, entry.sourceTool, entry.evidenceSummary,
        entry.evidencePaths))
    groups.flatten

def batchMinimumVerifiedChangeSetView
    (targets : List BatchMinimumVerifiedChangeSetTargetView) :
    BatchMinimumVerifiedChangeSetView :=
  let items := batchItems targets
  { items with
    compactSummary := batchMinimumVerifiedCompactSummary targets items
    targetCount := targets.length
    targets := targets
    ownerIds := sortedBy id (dedupeBy id (targets.map fun target => target.changeSet.owner.id))
    provenance := mergeViewProvenance (targets.map fun target => target.changeSet.provenance) }

def whatShouldIRun (tree : FileTree) (repository : Repository)
    (repositoryRelPaths : List String) : PyResult BatchMinimumVerifiedChangeSetView := do
  let normalizedPaths ← prevalidateExistingRepositoryFileTargets tree repository
    repositoryRelPaths "what_should_i_run" "repository_rel_paths" .mcpValidationError
  let targets ← normalizedPaths.mapM (minimumVerifiedBatchTargetView tree repository)
  pure (batchMinimumVerifiedChangeSetView targets)

end SuitCode
