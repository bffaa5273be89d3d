import SuitCode.RepositoryModels

/-!
# Models of the minimum verified change set

The items a change set includes, the items it excludes and the set itself.
Each record has a `create` function, which runs the checks of its validators.
-/

namespace SuitCode

open PosixText

inductive TargetKind where
  | symbol
  | file
  | owner
  deriving DecidableEq, Repr

def TargetKind.value : TargetKind → String
  | .symbol => "symbol"
  | .file => "file"
  | .owner => "owner"

inductive MinimumVerifiedItemKind where
  | testTarget
  | buildTarget
  | runnerAction
  | qualityOperation
  | validationSurface
  deriving DecidableEq, Repr

def MinimumVerifiedItemKind.value : MinimumVerifiedItemKind → String
  | .testTarget => "test_target"
  | .buildTarget => "build_target"
  | .runnerAction => "runner_action"
  | .qualityOperation => "quality_operation"
  | .validationSurface => "validation_surface"

inductive MinimumVerifiedExclusionReason where
  | duplicateReplacedByStrongerMatch
  | broadTestReplacedBySpecificTests
  | dependentTestReplacedByNarrowerBuild
  | repositoryBuildReplacedByNarrowerBuild
  | runnerNotDirectlyValidationRelevant
  | duplicateQualityOperationCollapsed
  | noDeterministicTestTargetsAvailable
  | noNarrowerDirectValidationSurfaceForFileTarget
  | noDeterministicValidationSurfaceForArtifactMember
  | noDeterministicValidationSurfacesForProviderOwnedArtifact
  deriving DecidableEq, Repr

def MinimumVerifiedExclusionReason.value : MinimumVerifiedExclusionReason → String
  | .duplicateReplacedByStrongerMatch => "duplicate_replaced_by_stronger_match"
  | .broadTestReplacedBySpecificTests => "broad_test_replaced_by_specific_tests"
  | .dependentTestReplacedByNarrowerBuild => "dependent_test_replaced_by_narrower_build"
  | .repositoryBuildReplacedByNarrowerBuild =>
      "repository_build_replaced_by_narrower_build"
  | .runnerNotDirectlyValidationRelevant => "runner_not_directly_validation_relevant"
  | .duplicateQualityOperationCollapsed => "duplicate_quality_operation_collapsed"
  | .noDeterministicTestTargetsAvailable => "no_deterministic_test_targets_available"
  | .noNarrowerDirectValidationSurfaceForFileTarget =>
      "no_narrower_direct_validation_surface_for_file_target"
  | .noDeterministicValidationSurfaceForArtifactMember =>
      "no_deterministic_validation_surface_for_artifact_member"
  | .noDeterministicValidationSurfacesForProviderOwnedArtifact =>
      "no_deterministic_validation_surfaces_for_provider_owned_artifact"

inductive QualityOperationScope where
  | validation
  | hygiene
  deriving DecidableEq, Repr

def QualityOperationScope.value : QualityOperationScope → String
  | .validation => "validation"
  | .hygiene => "hygiene"

inductive QualityOperationKind where
  | lint
  | format
  deriving DecidableEq, Repr

def QualityOperationKind.value : QualityOperationKind → String
  | .lint => "lint"
  | .format => "format"

inductive MinimumVerifiedEvidenceEdgeKind where
  | targetTestTarget
  | componentBuildTarget
  | ownerBuildTarget
  | targetRunnerAction
  | targetQualityValidation
  | targetQualityHygiene
  deriving DecidableEq, Repr

def MinimumVerifiedEvidenceEdgeKind.value : MinimumVerifiedEvidenceEdgeKind → String
  | .targetTestTarget => "target_test_target"
  | .componentBuildTarget => "component_build_target"
  | .ownerBuildTarget => "owner_build_target"
  | .targetRunnerAction => "target_runner_action"
  | .targetQualityValidation => "target_quality_validation"
  | .targetQualityHygiene => "target_quality_hygiene"

/-! ## Evidence edges -/

structure MinimumVerifiedEvidenceEdge where
  sourceNodeKind : String
  sourceNodeId : String
  targetNodeKind : String
  targetNodeId : String
  edgeKind : MinimumVerifiedEvidenceEdgeKind
  reason : String
  provenance : List ProvenanceEntry
  deriving DecidableEq, Repr

def MinimumVerifiedEvidenceEdge.create (edge : MinimumVerifiedEvidenceEdge) :
    PyResult MinimumVerifiedEvidenceEdge :=
  validated
    [(isBlank edge.sourceNodeKind, "source_node_kind must not be empty"),
      (isBlank edge.sourceNodeId, "source_node_id must not be empty"),
      (isBlank edge.targetNodeKind, "target_node_kind must not be empty"),
      (isBlank edge.targetNodeId, "target_node_id must not be empty"),
      (isBlank edge.reason, "reason must not be empty"),
      (edge.provenance.isEmpty, "provenance must not be empty")]
    edge

/-! ## Included items -/

def includedItemChecks (inclusionReason : String)
    (proofEdges : List MinimumVerifiedEvidenceEdge)
    (provenance : List ProvenanceEntry) : List (Bool × String) :=
  [(isBlank inclusionReason, "inclusion_reason must not be empty"),
    (proofEdges.isEmpty, "proof_edges must not be empty"),
    (provenance.isEmpty, "provenance must not be empty")]

structure MinimumVerifiedTestTarget where
  target : TestTargetDescription
  inclusionReason : String
  inclusionConfidenceMode : ConfidenceMode
  proofEdges : List MinimumVerifiedEvidenceEdge
  provenance : List ProvenanceEntry
  deriving DecidableEq, Repr

namespace MinimumVerifiedTestTarget

def testId (item : MinimumVerifiedTestTarget) : String := item.target.testDefinition.id

def create (item : MinimumVerifiedTestTarget) : PyResult MinimumVerifiedTestTarget :=
  validated (includedItemChecks item.inclusionReason item.proofEdges item.provenance) item

end MinimumVerifiedTestTarget

structure MinimumVerifiedBuildTarget where
  target : BuildTargetDescription
  inclusionReason : String
  inclusionConfidenceMode : ConfidenceMode
  proofEdges : List MinimumVerifiedEvidenceEdge
  provenance : List ProvenanceEntry
  deriving DecidableEq, Repr

namespace MinimumVerifiedBuildTarget

def actionId (item : MinimumVerifiedBuildTarget) : String := item.target.actionId

def create (item : MinimumVerifiedBuildTarget) : PyResult MinimumVerifiedBuildTarget :=
  validated (includedItemChecks item.inclusionReason item.proofEdges item.provenance) item

end MinimumVerifiedBuildTarget

structure MinimumVerifiedRunnerAction where
  action : RepositoryAction
  inclusionReason : String
  inclusionConfidenceMode : ConfidenceMode
  proofEdges : List MinimumVerifiedEvidenceEdge
  provenance : List ProvenanceEntry
  deriving DecidableEq, Repr

namespace MinimumVerifiedRunnerAction

def actionId (item : MinimumVerifiedRunnerAction) : String := item.action.id

def create (item : MinimumVerifiedRunnerAction) : PyResult MinimumVerifiedRunnerAction :=
  validated
    [(isBlank item.inclusionReason, "inclusion_reason must not be empty"),
      (item.action.kind ≠ .runnerExecution,
        "runner action must use kind `runner_execution`"),
      (item.proofEdges.isEmpty, "proof_edges must not be empty"),
      (item.provenance.isEmpty, "provenance must not be empty")]
    item

end MinimumVerifiedRunnerAction

/-! ## Quality operations -/

structure MinimumVerifiedQualityOperation where
  id : String
  providerId : String
  operation : QualityOperationKind
  scope : QualityOperationScope
  repositoryRelPaths : List String
  mcpToolName : String
  isFix : Option Bool
  isMutating : Bool
  inclusionReason : String
  inclusionConfidenceMode : ConfidenceMode
  proofEdges : List MinimumVerifiedEvidenceEdge
  provenance : List ProvenanceEntry
  deriving DecidableEq, Repr

/-- The loop of the `repository_rel_paths` validator, with the paths accepted. -/
def normalizeOperationPaths : List String → List String → PyResult (List String)
  | normalized, [] => .ok normalized
  | normalized, item :: items => do
      let path ← normalizeRepositoryRelativePath item
      if path ∈ normalized then
        raiseValueError "repository_rel_paths must not contain duplicates"
      else
        normalizeOperationPaths (normalized ++ [path]) items

def validateOperationPaths (paths : List String) : PyResult (List String) :=
  if paths.isEmpty then
    raiseValueError "repository_rel_paths must not be empty"
  else
    normalizeOperationPaths [] paths

namespace MinimumVerifiedQualityOperation

def shapeChecks (item : MinimumVerifiedQualityOperation) : List (Bool × String) :=
  match item.operation with
  | .lint =>
      [(item.scope ≠ .validation, "lint operations must use validation scope"),
        (item.mcpToolName ≠ "lint_file", "lint operations must use `lint_file`"),
        (item.isFix ≠ some false, "lint validation operations must use is_fix=False"),
        (item.isMutating, "lint validation operations must not mutate content")]
  | .format =>
      [(item.scope ≠ .hygiene, "format operations must use hygiene scope"),
        (item.mcpToolName ≠ "format_file", "format operations must use `format_file`"),
        (item.isFix.isSome, "format operations must not define is_fix"),
        (!item.isMutating, "format operations must be marked mutating")]

def create (item : MinimumVerifiedQualityOperation) :
    PyResult MinimumVerifiedQualityOperation := do
  let paths ← validateOperationPaths item.repositoryRelPaths
  validated
    ([(isBlank item.id, "id must not be empty"),
      (isBlank item.providerId, "provider_id must not be empty"),
      (isBlank item.mcpToolName, "mcp_tool_name must not be empty"),
      (isBlank item.inclusionReason, "inclusion_reason must not be empty"),
      (item.proofEdges.isEmpty, "proof_edges must not be empty"),
      (item.provenance.isEmpty, "provenance must not be empty")] ++ item.shapeChecks)
    { item with repositoryRelPaths := paths }

end MinimumVerifiedQualityOperation

/-! ## Excluded items -/

structure ExcludedMinimumVerifiedItem where
  itemKind : MinimumVerifiedItemKind
  itemId : String
  reasonCode : MinimumVerifiedExclusionReason
  reason : String
  replacedByIds : List String
  provenance : List ProvenanceEntry
  deriving DecidableEq, Repr

def ExcludedMinimumVerifiedItem.create (item : ExcludedMinimumVerifiedItem) :
    PyResult ExcludedMinimumVerifiedItem :=
  validated
    [(isBlank item.itemId, "item_id must not be empty"),
      (isBlank item.reason, "reason must not be empty"),
      (item.replacedByIds.any isBlank, "replaced_by_ids must not contain empty values"),
      (!decide item.replacedByIds.Nodup, "replaced_by_ids must not contain duplicates"),
      (item.provenance.isEmpty, "provenance must not be empty")]
    item

/-! ## The change set -/

structure MinimumVerifiedChangeSet where
  targetKind : TargetKind
  owner : OwnedNodeInfo
  primaryComponent : Option Component
  tests : List MinimumVerifiedTestTarget
  buildTargets : List MinimumVerifiedBuildTarget
  runnerActions : List MinimumVerifiedRunnerAction
  qualityValidationOperations : List MinimumVerifiedQualityOperation
  qualityHygieneOperations : List MinimumVerifiedQualityOperation
  excludedItems : List ExcludedMinimumVerifiedItem
  provenance : List ProvenanceEntry
  deriving DecidableEq, Repr

namespace MinimumVerifiedChangeSet

def hasNoSurface (changeSet : MinimumVerifiedChangeSet) : Bool :=
  changeSet.tests.isEmpty && changeSet.buildTargets.isEmpty &&
    changeSet.runnerActions.isEmpty && changeSet.qualityValidationOperations.isEmpty &&
    changeSet.qualityHygieneOperations.isEmpty

def create (changeSet : MinimumVerifiedChangeSet) : PyResult MinimumVerifiedChangeSet :=
  validated
    [(changeSet.provenance.isEmpty, "provenance must not be empty"),
      (changeSet.hasNoSurface && changeSet.excludedItems.isEmpty,
        "minimum verified change set requires at least one deterministic validation, " ++
          "hygiene surface, or explicit exclusion")]
    changeSet

end MinimumVerifiedChangeSet

end SuitCode
