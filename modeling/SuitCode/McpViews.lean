import SuitCode.MinimumVerifiedModels

/-!
# Views of change sets

The tools answer with views: flat records in which enumerations are texts and
long lists are cut.  The presenter functions below build the view of a change
set, with its compact summary.
-/

namespace SuitCode

open PosixText

/-! ## Provenance, owners and components -/

structure ProvenanceView where
  confidenceMode : String
  sourceKind : String
  sourceTool : Option String
  evidenceSummary : String
  evidencePaths : List String
  ownerPath : Option String
  deriving DecidableEq, Repr

def provenanceView (ownerPath : Option String) (entry : ProvenanceEntry) :
    ProvenanceView :=
  { confidenceMode := entry.confidenceMode.value
    sourceKind := entry.sourceKind.value
    sourceTool := entry.sourceTool
    evidenceSummary := entry.evidenceSummary
    evidencePaths := entry.evidencePaths
    ownerPath := ownerPath }

/-- `compact_provenance_views`: three entries with five paths each. -/
def compactProvenanceViews (items : List ProvenanceEntry) : List ProvenanceView :=
  (items.take 3).map fun item =>
    { provenanceView none item with evidencePaths := item.evidencePaths.take 5 }

structure OwnerView where
  id : String
  kind : String
  name : String
  deriving DecidableEq, Repr

def ownerView (owner : OwnedNodeInfo) : OwnerView :=
  { id := owner.id
    kind := owner.kind.value
    name := owner.name }

structure ComponentView where
  id : String
  name : String
  componentKind : String
  language : String
  sourceRoots : List String
  artifactPaths : List String
  provenance : List ProvenanceView
  deriving DecidableEq, Repr

def componentView (component : Component) : ComponentView :=
  { id := component.id
    name := component.name
    componentKind := component.componentKind.value
    language := component.language.value
    sourceRoots := component.sourceRoots
    artifactPaths := component.artifactPaths
    provenance := component.provenance.map (provenanceView none) }

structure FileView where
  id : String
  path : String
  language : Option String
  ownerId : String
  provenance : List ProvenanceView
  deriving DecidableEq, Repr

def fileView (fileInfo : FileInfo) : FileView :=
  { id := fileInfo.id
    path := fileInfo.repositoryRelPath
    language := fileInfo.language.map ProgrammingLanguage.value
    ownerId := fileInfo.ownerId
    provenance :=
      fileInfo.provenance.map (provenanceView (some fileInfo.repositoryRelPath)) }

structure FileOwnerView where
  file : FileView
  owner : OwnerView
  deriving DecidableEq, Repr

def fileOwnerView (fileOwner : FileOwnerInfo) : FileOwnerView :=
  { file := fileView fileOwner.fileInfo
    owner := ownerView fileOwner.owner }

/-! ## Items -/

structure MinimumVerifiedEvidenceEdgeView where
  sourceNodeKind : String
  sourceNodeId : String
  targetNodeKind : String
  targetNodeId : String
  edgeKind : String
  reason : String
  provenance : List ProvenanceView
  deriving DecidableEq, Repr

def minimumVerifiedEvidenceEdgeView (edge : MinimumVerifiedEvidenceEdge) :
    MinimumVerifiedEvidenceEdgeView :=
  { sourceNodeKind := edge.sourceNodeKind
    sourceNodeId := edge.sourceNodeId
    targetNodeKind := edge.targetNodeKind
    targetNodeId := edge.targetNodeId
    edgeKind := edge.edgeKind.value
    reason := edge.reason
    provenance := compactProvenanceViews edge.provenance }

structure MinimumVerifiedCommandSummaryView where
  argvPreview : List String
  totalArgCount : ℕ
  truncated : Bool
  cwd : Option String
  deriving DecidableEq, Repr

def minimumVerifiedCommandSummaryView (argv : List String) (cwd : Option String) :
    MinimumVerifiedCommandSummaryView :=
  { argvPreview := argv.take 8
    totalArgCount := argv.length
    truncated := 8 < argv.length
    cwd := cwd }

structure MinimumVerifiedTestTargetView where
  testId : String
  name : String
  framework : String
  testFileCount : ℕ
  testFilesPreview : List String
  command : MinimumVerifiedCommandSummaryView
  isAuthoritative : Bool
  warning : Option String
  inclusionReason : String
  inclusionConfidenceMode : String
  proofEdges : List MinimumVerifiedEvidenceEdgeView
  provenance : List ProvenanceView
  deriving DecidableEq, Repr

def minimumVerifiedTestTargetView (item : MinimumVerifiedTestTarget) :
    MinimumVerifiedTestTargetView :=
  { testId := item.testId
    name := item.target.testDefinition.name
    framework := item.target.testDefinition.framework.value
    testFileCount := item.target.testDefinition.testFiles.length
    testFilesPreview := item.target.testDefinition.testFiles.take 5
    command :=
      minimumVerifiedCommandSummaryView item.target.commandArgv item.target.commandCwd
    isAuthoritative := item.target.isAuthoritative
    warning := item.target.warning
    inclusionReason := item.inclusionReason
    inclusionConfidenceMode := item.inclusionConfidenceMode.value
    proofEdges := item.proofEdges.map minimumVerifiedEvidenceEdgeView
    provenance := compactProvenanceViews item.provenance }

structure MinimumVerifiedBuildTargetView where
  actionId : String
  name : String
  providerId : String
  targetId : String
  targetKind : String
  ownerIds : List String
  proofFacets : List String
  invocation : MinimumVerifiedCommandSummaryView
  dryRunSupported : Bool
  inclusionReason : String
  inclusionConfidenceMode : String
  proofEdges : List MinimumVerifiedEvidenceEdgeView
  provenance : List ProvenanceView
  deriving DecidableEq, Repr

def minimumVerifiedBuildTargetView (item : MinimumVerifiedBuildTarget) :
    MinimumVerifiedBuildTargetView :=
  { actionId := item.actionId
    name := item.target.name
    providerId := item.target.providerId
    targetId := item.target.targetId
    targetKind := item.target.targetKind.value
    ownerIds := item.target.ownerIds
    proofFacets := item.target.proofFacets.map ActionProofFacet.value
    invocation := minimumVerifiedCommandSummaryView item.target.invocation.argv
      item.target.invocation.cwd
    dryRunSupported := item.target.dryRunSupported
    inclusionReason := item.inclusionReason
    inclusionConfidenceMode := item.inclusionConfidenceMode.value
    proofEdges := item.proofEdges.map minimumVerifiedEvidenceEdgeView
    provenance := compactProvenanceViews item.provenance }

structure MinimumVerifiedRunnerActionView where
  actionId : String
  name : String
  providerId : String
  targetId : String
  targetKind : String
  invocation : MinimumVerifiedCommandSummaryView
  inclusionReason : String
  inclusionConfidenceMode : String
  proofEdges : List MinimumVerifiedEvidenceEdgeView
  provenance : List ProvenanceView
  deriving DecidableEq, Repr

def minimumVerifiedRunnerActionView (item : MinimumVerifiedRunnerAction) :
    MinimumVerifiedRunnerActionView :=
  { actionId := item.actionId
    name := item.action.name
    providerId := item.action.providerId
    targetId := item.action.targetId
    targetKind := item.action.targetKind.value
    invocation := minimumVerifiedCommandSummaryView item.action.invocation.argv
      item.action.invocation.cwd
    inclusionReason := item.inclusionReason
    inclusionConfidenceMode := item.inclusionConfidenceMode.value
    proofEdges := item.proofEdges.map minimumVerifiedEvidenceEdgeView
    provenance := compactProvenanceViews item.provenance }

structure MinimumVerifiedQualityOperationView where
  id : String
  providerId : String
  operation : String
  scope : String
  repositoryRelPaths : List String
  mcpToolName : String
  isFix : Option Bool
  isMutating : Bool
  inclusionReason : String
  inclusionConfidenceMode : String
  proofEdges : List MinimumVerifiedEvidenceEdgeView
  provenance : List ProvenanceView
  deriving DecidableEq, Repr

def minimumVerifiedQualityOperationView (item : MinimumVerifiedQualityOperation) :
    MinimumVerifiedQualityOperationView :=
  { id := item.id
    providerId := item.providerId
    operation := item.operation.value
    scope := item.scope.value
    repositoryRelPaths := item.repositoryRelPaths
    mcpToolName := item.mcpToolName
    isFix := item.isFix
    isMutating := item.isMutating
    inclusionReason := item.inclusionReason
    inclusionConfidenceMode := item.inclusionConfidenceMode.value
    proofEdges := item.proofEdges.map minimumVerifiedEvidenceEdgeView
    provenance := compactProvenanceViews item.provenance }

structure ExcludedMinimumVerifiedItemView where
  itemKind : String
  itemId : String
  reasonCode : String
  reason : String
  replacedByIds : List String
  provenance : List ProvenanceView
  deriving DecidableEq, Repr

def excludedMinimumVerifiedItemView (item : ExcludedMinimumVerifiedItem) :
    ExcludedMinimumVerifiedItemView :=
  { itemKind := item.itemKind.value
    itemId := item.itemId
    reasonCode := item.reasonCode.value
    reason := item.reason
    replacedByIds := item.replacedByIds
    provenance := compactProvenanceViews item.provenance }

/-! ## Compact summaries -/

structure MinimumVerifiedCompactItemView where
  itemKind : String
  itemId : String
  summary : String
  deriving DecidableEq, Repr

def MinimumVerifiedCompactItemView.key (item : MinimumVerifiedCompactItemView) :
    String × String :=
  (item.itemKind, item.itemId)

structure MinimumVerifiedCompactSummaryView where
  requiredValidationCount : ℕ
  requiredValidation : List MinimumVerifiedCompactItemView
  optionalHygieneCount : ℕ
  optionalHygiene : List MinimumVerifiedCompactItemView
  exclusionCount : ℕ
  exclusions : List MinimumVerifiedCompactItemView
  deriving DecidableEq, Repr

/-- The characters `shlex.quote` leaves unquoted. -/
def isShellSafe (c : Char) : Bool :=
  c.isAlphanum || "_@%+=:,./-".toList.contains c

/-- `shlex.quote`. -/
def shellQuote (text : String) : String :=
  if text = "" then "''"
  else if text.toList.all isShellSafe then text
  else "'" ++ join "'\"'\"'" ((text.toList.splitOn '\'').map String.ofList) ++ "'"

def commandLine (command : MinimumVerifiedCommandSummaryView) : String :=
  let rendered := join " " (command.argvPreview.map shellQuote)
  let rendered :=
    if command.truncated && command.argvPreview.length < command.totalArgCount then
      rendered ++ " ..."
    else
      rendered
  match command.cwd with
  | none => rendered
  | some cwd =>
      if cwd = "" then rendered else "cd " ++ shellQuote cwd ++ " && " ++ rendered

def buildProofFacetSuffix (proofFacets : List String) : String :=
  join ", "
    ((if "typescript_typecheck" ∈ proofFacets then ["TypeScript typecheck"] else []) ++
      if "frontend_bundle_build" ∈ proofFacets then ["frontend bundle build"] else [])

def compactTestItemView (item : MinimumVerifiedTestTargetView) :
    MinimumVerifiedCompactItemView :=
  { itemKind := "test_target"
    itemId := item.testId
    summary := commandLine item.command }

def compactBuildItemView (item : MinimumVerifiedBuildTargetView) :
    MinimumVerifiedCompactItemView :=
  let facetSuffix := buildProofFacetSuffix item.proofFacets
  { itemKind := "build_target"
    itemId := item.actionId
    summary :=
      if facetSuffix = "" then commandLine item.invocation
      else commandLine item.invocation ++ " (" ++ facetSuffix ++ ")" }

def compactRunnerItemView (item : MinimumVerifiedRunnerActionView) :
    MinimumVerifiedCompactItemView :=
  { itemKind := "runner_action"
    itemId := item.actionId
    summary := commandLine item.invocation }

def compactQualityItemView (item : MinimumVerifiedQualityOperationView) :
    MinimumVerifiedCompactItemView :=
  let target :=
    match item.repositoryRelPaths with
    | [path] => path
    | paths => toString paths.length ++ " files"
  { itemKind := "quality_operation"
    itemId := item.id
    summary := item.mcpToolName ++ " " ++ target }

def compactExclusionView (item : ExcludedMinimumVerifiedItemView) :
    MinimumVerifiedCompactItemView :=
  { itemKind := item.itemKind
    itemId := item.itemId
    summary := item.reason }

def isEmphasized (buildTargets : List MinimumVerifiedBuildTargetView)
    (item : MinimumVerifiedQualityOperationView) : Bool :=
  !((buildTargets.map MinimumVerifiedBuildTargetView.providerId).contains item.providerId &&
    item.providerId = "npm" && item.operation = "lint" &&
    item.repositoryRelPaths.length = 1)

structure PlannedItemViews where
  tests : List MinimumVerifiedTestTargetView
  buildTargets : List MinimumVerifiedBuildTargetView
  runnerActions : List MinimumVerifiedRunnerActionView
  qualityValidationOperations : List MinimumVerifiedQualityOperationView
  qualityHygieneOperations : List MinimumVerifiedQualityOperationView
  excludedItems : List ExcludedMinimumVerifiedItemView
  deriving DecidableEq, Repr

def minimumVerifiedCompactSummaryView (items : PlannedItemViews) :
    MinimumVerifiedCompactSummaryView :=
  let requiredValidation :=
    items.tests.map compactTestItemView ++ items.buildTargets.map compactBuildItemView ++
      items.runnerActions.map compactRunnerItemView ++
      (items.qualityValidationOperations.filter (isEmphasized items.buildTargets)).map
        compactQualityItemView
  let optionalHygiene := items.qualityHygieneOperations.map compactQualityItemView
  let exclusions := items.excludedItems.map compactExclusionView
  { requiredValidationCount := requiredValidation.length
    requiredValidation := requiredValidation
    optionalHygieneCount := optionalHygiene.length
    optionalHygiene := optionalHygiene
    exclusionCount := exclusions.length
    exclusions := exclusions }

/-! ## The view of a change set -/

structure MinimumVerifiedChangeSetView extends PlannedItemViews where
  compactSummary : MinimumVerifiedCompactSummaryView
  targetKind : String
  owner : OwnerView
  primaryComponent : Option ComponentView
  provenance : List ProvenanceView
  deriving DecidableEq, Repr

def plannedItemViews (changeSet : MinimumVerifiedChangeSet) : PlannedItemViews :=
  { tests := changeSet.tests.map minimumVerifiedTestTargetView
    buildTargets := changeSet.buildTargets.map minimumVerifiedBuildTargetView
    runnerActions := changeSet.runnerActions.map minimumVerifiedRunnerActionView
    qualityValidationOperations :=
      changeSet.qualityValidationOperations.map minimumVerifiedQualityOperationView
    qualityHygieneOperations :=
      changeSet.qualityHygieneOperations.map minimumVerifiedQualityOperationView
    excludedItems := changeSet.excludedItems.map excludedMinimumVerifiedItemView }

def minimumVerifiedChangeSetView (changeSet : MinimumVerifiedChangeSet) :
    MinimumVerifiedChangeSetView :=
  { plannedItemViews changeSet with
    compactSummary := minimumVerifiedCompactSummaryView (plannedItemViews changeSet)
    targetKind := changeSet.targetKind.value
    owner := ownerView changeSet.owner
    primaryComponent := changeSet.primaryComponent.map componentView
    provenance := compactProvenanceViews changeSet.provenance }

end SuitCode
