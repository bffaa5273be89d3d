import SuitCode.Repository
import SuitCode.MinimumVerifiedModels

/-!
# Assembling the items of a change set

The quality planner and the evidence assembler: each builds one kind of item,
with its proof edge and its provenance, through the validators of the models.
-/

namespace SuitCode

open PosixText KeyedList

/-! ## Quality operations -/

def qualityProvenance (providerId summary : String) (relevantFiles : List String) :
    PyResult (List ProvenanceEntry) := do
  let entry ← derivedSummaryProvenance .qualityTool summary (relevantFiles.take 10)
    (some providerId)
  pure [entry]

/-- `quality_op:{provider_id}:{operation}`. -/
def qualityOperationId (providerId : String) (operation : QualityOperationKind) : String :=
  "quality_op:" ++ providerId ++ ":" ++ operation.value

def lintSummary : String :=
  "non-mutating lint validation applies to the exact affected file set"

def formatSummary : String := "format hygiene applies to the exact affected file set"

def lintOperation (targetAnchorId providerId : String) (relevantFiles : List String)
    (provenance : List ProvenanceEntry) : PyResult MinimumVerifiedQualityOperation := do
  let mode ← preferredConfidenceMode provenance
  let edge ← MinimumVerifiedEvidenceEdge.create
    { sourceNodeKind := "change_target"
      sourceNodeId := targetAnchorId
      targetNodeKind := "quality_operation"
      targetNodeId := qualityOperationId providerId .lint
      edgeKind := .targetQualityValidation
      reason := lintSummary
      provenance := provenance }
  MinimumVerifiedQualityOperation.create
    { id := qualityOperationId providerId .lint
      providerId := providerId
      operation := .lint
      scope := .validation
      repositoryRelPaths := relevantFiles
      mcpToolName := "lint_file"
      isFix := some false
      isMutating := false
      inclusionReason := lintSummary
      inclusionConfidenceMode := mode
      proofEdges := [edge]
      provenance := provenance }

def formatOperation (targetAnchorId providerId : String) (relevantFiles : List String)
    (provenance : List ProvenanceEntry) : PyResult MinimumVerifiedQualityOperation := do
  let mode ← preferredConfidenceMode provenance
  let edge ← MinimumVerifiedEvidenceEdge.create
    { sourceNodeKind := "change_target"
      sourceNodeId := targetAnchorId
      targetNodeKind := "quality_operation"
      targetNodeId := qualityOperationId providerId .format
      edgeKind := .targetQualityHygiene
      reason := formatSummary
      provenance := provenance }
  MinimumVerifiedQualityOperation.create
    { id := qualityOperationId providerId .format
      providerId := providerId
      operation := .format
      scope := .hygiene
      repositoryRelPaths := relevantFiles
      mcpToolName := "format_file"
      isFix := none
      isMutating := true
      inclusionReason := formatSummary
      inclusionConfidenceMode := mode
      proofEdges := [edge]
      provenance := provenance }

def providerOperations (targetAnchorId : String) (relevantFiles : List String)
    (providerId : String) :
    PyResult (MinimumVerifiedQualityOperation × MinimumVerifiedQualityOperation) := do
  let lintProvenance ← qualityProvenance providerId lintSummary relevantFiles
  let formatProvenance ← qualityProvenance providerId formatSummary relevantFiles
  let lint ← lintOperation targetAnchorId providerId relevantFiles lintProvenance
  let format ← formatOperation targetAnchorId providerId relevantFiles formatProvenance
  pure (lint, format)

/-- `build_operations`: the validation and the hygiene operations, by provider. -/
def buildOperations (targetAnchorId : String) (providerIds relevantFiles : List String) :
    PyResult (List (MinimumVerifiedQualityOperation × MinimumVerifiedQualityOperation)) :=
  providerIds.mapM (providerOperations targetAnchorId relevantFiles)

/-! ## Test items -/

def testTargetItem (targetAnchorId : String) (description : TestTargetDescription)
    (inclusionReason : String) (edgeProvenance provenance : List ProvenanceEntry) :
    PyResult MinimumVerifiedTestTarget := do
  let edge ← MinimumVerifiedEvidenceEdge.create
    { sourceNodeKind := "change_target"
      sourceNodeId := targetAnchorId
      targetNodeKind := "test_target"
      targetNodeId := description.testDefinition.id
      edgeKind := .targetTestTarget
      reason := inclusionReason
      provenance := edgeProvenance }
  let mode ← preferredConfidenceMode provenance
  MinimumVerifiedTestTarget.create
    { target := description
      inclusionReason := inclusionReason
      inclusionConfidenceMode := mode
      proofEdges := [edge]
      provenance := provenance }

def testItem (targetAnchorId : String) (related : ResolvedRelatedTest)
    (description : TestTargetDescription) (inclusionReason : String) :
    PyResult MinimumVerifiedTestTarget :=
  testTargetItem targetAnchorId description inclusionReason related.provenance
    (mergedProvenance [related.provenance, description.provenance])

def dependentTestItem (targetAnchorId : String) (related : ResolvedRelatedTest)
    (description : TestTargetDescription) (dependencyProvenance : List ProvenanceEntry)
    (inclusionReason : String) : PyResult MinimumVerifiedTestTarget :=
  let proofProvenance :=
    mergedProvenance [dependencyProvenance, related.provenance, description.provenance]
  testTargetItem targetAnchorId description inclusionReason proofProvenance proofProvenance

/-! ## Build and runner items -/

def buildTargetItem (sourceNodeKind sourceNodeId : String)
    (target : BuildTargetDescription) (inclusionReason : String)
    (edgeKind : MinimumVerifiedEvidenceEdgeKind) (provenance : List ProvenanceEntry) :
    PyResult MinimumVerifiedBuildTarget := do
  let edge ← MinimumVerifiedEvidenceEdge.create
    { sourceNodeKind := sourceNodeKind
      sourceNodeId := sourceNodeId
      targetNodeKind := "build_target"
      targetNodeId := target.actionId
      edgeKind := edgeKind
      reason := inclusionReason
      provenance := provenance }
  let mode ← preferredConfidenceMode provenance
  MinimumVerifiedBuildTarget.create
    { target := target
      inclusionReason := inclusionReason
      inclusionConfidenceMode := mode
      proofEdges := [edge]
      provenance := provenance }

def buildItem (sourceNodeKind sourceNodeId : String) (inclusionReason : String)
    (edgeKind : MinimumVerifiedEvidenceEdgeKind) (target : BuildTargetDescription) :
    PyResult MinimumVerifiedBuildTarget :=
  buildTargetItem sourceNodeKind sourceNodeId target inclusionReason edgeKind
    target.provenance

def dependentBuildItem (sourceComponentId : String) (target : BuildTargetDescription)
    (dependencyProvenance : List ProvenanceEntry) (inclusionReason : String) :
    PyResult MinimumVerifiedBuildTarget :=
  buildTargetItem "component" sourceComponentId target inclusionReason
    .componentBuildTarget (mergedProvenance [dependencyProvenance, target.provenance])

def runnerItem (ownerId : String) (action : RepositoryAction) :
    PyResult MinimumVerifiedRunnerAction := do
  let inclusionReason := "target is directly owned by this runner"
  let edge ← MinimumVerifiedEvidenceEdge.create
    { sourceNodeKind := "owner"
      sourceNodeId := ownerId
      targetNodeKind := "runner_action"
      targetNodeId := action.id
      edgeKind := .targetRunnerAction
      reason := inclusionReason
      provenance := action.provenance }
  let mode ← preferredConfidenceMode action.provenance
  MinimumVerifiedRunnerAction.create
    { action := action
      inclusionReason := inclusionReason
      inclusionConfidenceMode := mode
      proofEdges := [edge]
      provenance := action.provenance }

/-! ## Excluded items -/

def exclusion (itemKind : MinimumVerifiedItemKind) (itemId : String)
    (reasonCode : MinimumVerifiedExclusionReason) (reason : String)
    (replacedByIds : List String) (provenance : List ProvenanceEntry) :
    PyResult ExcludedMinimumVerifiedItem :=
  ExcludedMinimumVerifiedItem.create
    { itemKind := itemKind
      itemId := itemId
      reasonCode := reasonCode
      reason := reason
      replacedByIds := replacedByIds
      provenance := provenance }

end SuitCode
