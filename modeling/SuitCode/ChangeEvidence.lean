import SuitCode.CodeQueries
import Mathlib.Algebra.GroupWithZero.Nat

/-!
# Evidence, truth coverage and provenance of a change

The impact of a change is summarised three times from the same items: as a graph
of evidence edges, as counts of how well each domain is covered, and as entries of
provenance.
-/

namespace SuitCode

open PosixText KeyedList

/-! ## The impact of a change -/

structure ComponentContext where
  component : Component
  ownedFileCount : ℕ
  ownedFilesPreview : List FileInfo
  runnerIds : List String
  relatedTestIds : List String
  dependencyCount : ℕ
  dependenciesPreview : List DependencyRef
  dependentCount : ℕ
  dependentsPreview : List String
  provenance : List ProvenanceEntry
  deriving DecidableEq

structure TestImpact where
  relatedTest : ResolvedRelatedTest
  reason : String
  provenance : List ProvenanceEntry
  deriving DecidableEq

structure RunnerImpact where
  runner : Runner
  reason : String
  provenance : List ProvenanceEntry
  deriving DecidableEq

structure QualityGateInfo where
  providerId : String
  providerRoles : List String
  applies : Bool
  reason : String
  provenance : List ProvenanceEntry
  deriving DecidableEq

structure ChangeItems where
  targetKind : TargetKind
  owner : OwnedNodeInfo
  primaryComponent : Option Component
  componentContext : Option ComponentContext
  fileContext : Option FileContext
  symbolContext : Option SymbolContext
  dependencyFiles : List FileRelationshipRef
  dependentFiles : List FileRelationshipRef
  renderChildren : List RenderEdgeRef
  renderParents : List RenderEdgeRef
  invariantFindings : List InvariantFindingRef
  localFlowEdges : List StaticFlowEdgeRef
  implementationLocations : List CodeLocation
  implementationComponents : List Component
  dependentComponents : List Component
  referenceLocations : List CodeLocation
  relatedTests : List TestImpact
  relatedRunners : List RunnerImpact
  qualityGates : List QualityGateInfo
  deriving DecidableEq

/-! ## Evidence edges -/

inductive ChangeEvidenceEdgeKind where
  | targetOwner
  | ownerPrimaryComponent
  | targetReference
  | targetDependencyFile
  | targetDependentFile
  | targetRenderChild
  | targetRenderParent
  | targetInvariantFinding
  | targetLocalFlowEdge
  | targetImplementationLocation
  | componentImplementationComponent
  | componentDependentComponent
  | targetRelatedTest
  | targetRelatedRunner
  | targetQualityGate
  deriving DecidableEq, Repr

def ChangeEvidenceEdgeKind.value : ChangeEvidenceEdgeKind → String
  | .targetOwner => "target_owner"
  | .ownerPrimaryComponent => "owner_primary_component"
  | .targetReference => "target_reference"
  | .targetDependencyFile => "target_dependency_file"
  | .targetDependentFile => "target_dependent_file"
  | .targetRenderChild => "target_render_child"
  | .targetRenderParent => "target_render_parent"
  | .targetInvariantFinding => "target_invariant_finding"
  | .targetLocalFlowEdge => "target_local_flow_edge"
  | .targetImplementationLocation => "target_implementation_location"
  | .componentImplementationComponent => "component_implementation_component"
  | .componentDependentComponent => "component_dependent_component"
  | .targetRelatedTest => "target_related_test"
  | .targetRelatedRunner => "target_related_runner"
  | .targetQualityGate => "target_quality_gate"

structure ChangeEvidenceEdge where
  sourceNodeKind : String
  sourceNodeId : String
  targetNodeKind : String
  targetNodeId : String
  edgeKind : ChangeEvidenceEdgeKind
  reason : String
  provenance : List ProvenanceEntry
  deriving DecidableEq

def ChangeEvidenceEdge.create (edge : ChangeEvidenceEdge) : PyResult ChangeEvidenceEdge :=
  validated
    [(isBlank edge.sourceNodeKind, "source_node_kind must not be empty"),
      (isBlank edge.sourceNodeId, "source_node_id must not be empty"),
      (isBlank edge.targetNodeKind, "target_node_kind must not be empty"),
      (isBlank edge.targetNodeId, "target_node_id must not be empty"),
      (isBlank edge.reason, "reason must not be empty"),
      (edge.provenance.isEmpty, "provenance must not be empty")]
    edge

structure ChangeEvidencePreview where
  totalEdges : ℕ
  countsByKind : List (ChangeEvidenceEdgeKind × ℕ)
  edgesPreview : List ChangeEvidenceEdge
  truncated : Bool
  deriving DecidableEq

/-- A `Counter`: every key with how often it occurs. -/
def counter {κ : Type} [DecidableEq κ] (keys : List κ) : List (κ × ℕ) :=
  (dedupeBy id keys).map fun key => (key, keys.count key)

namespace ChangeEvidenceAssembler

def previewLimit : ℕ := 25

def order : List ChangeEvidenceEdgeKind :=
  [.targetOwner, .ownerPrimaryComponent, .targetReference, .targetDependencyFile,
    .targetDependentFile, .targetRenderChild, .targetRenderParent,
    .targetInvariantFinding, .targetLocalFlowEdge, .targetImplementationLocation,
    .componentImplementationComponent, .componentDependentComponent, .targetRelatedTest,
    .targetRelatedRunner, .targetQualityGate]

def targetNodeId (targetKind : TargetKind) (targetValue : String) : String :=
  "change_target:" ++ targetKind.value ++ ":" ++ targetValue

def locationNodeId (location : CodeLocation) : String :=
  "location:" ++ location.repositoryRelPath ++ ":" ++ toString location.lineStart ++ ":" ++
    toString location.columnStart

def targetOwnerEdge (targetKind : TargetKind) (nodeId : String) (owner : OwnedNodeInfo)
    (evidencePath : Option String) : PyResult ChangeEvidenceEdge := do
  let ownership ←
    match targetKind with
    | .owner =>
        ProvenanceEntry.create .derived .ownership none
          ("owner `" ++ owner.id ++ "` was provided directly as the change target") []
    | _ =>
        ProvenanceEntry.create .derived .ownership none
          ("owner `" ++ owner.id ++ "` resolved from ownership metadata") evidencePath.toList
  ChangeEvidenceEdge.create
    { sourceNodeKind := "change_target"
      sourceNodeId := nodeId
      targetNodeKind := "owner"
      targetNodeId := owner.id
      edgeKind := .targetOwner
      reason :=
        match targetKind with
        | .file => "owner resolved from file ownership"
        | .symbol => "owner resolved from symbol file ownership"
        | .owner => "target directly specifies owner"
      provenance := [ownership] }

def ownerPrimaryComponentEdges (owner : OwnedNodeInfo) (primaryComponent : Option Component) :
    PyResult (List ChangeEvidenceEdge) :=
  primaryComponent.toList.mapM fun component =>
    ChangeEvidenceEdge.create
      { sourceNodeKind := "owner"
        sourceNodeId := owner.id
        targetNodeKind := "component"
        targetNodeId := component.id
        edgeKind := .ownerPrimaryComponent
        reason := "primary component resolved from ownership/component context"
        provenance := component.provenance }

def targetEdges {α : Type} (nodeId itemNodeKind : String)
    (edgeKind : α → ChangeEvidenceEdgeKind) (itemNodeId reason : α → String)
    (provenance : α → List ProvenanceEntry) (items : List α) :
    PyResult (List ChangeEvidenceEdge) :=
  items.mapM fun item =>
    ChangeEvidenceEdge.create
      { sourceNodeKind := "change_target"
        sourceNodeId := nodeId
        targetNodeKind := itemNodeKind
        targetNodeId := itemNodeId item
        edgeKind := edgeKind item
        reason := reason item
        provenance := provenance item }

def referenceEdges (targetKind : TargetKind) (nodeId : String) :
    List CodeLocation → PyResult (List ChangeEvidenceEdge) :=
  targetEdges nodeId "reference_location" (fun _ => .targetReference) locationNodeId
    (fun _ =>
      match targetKind with
      | .symbol => "reference discovered from symbol references"
      | .file => "reference discovered from file-owned symbols"
      | .owner => "reference discovered from owner-backed symbols/files")
    CodeLocation.provenance

def relationshipEdges (nodeId : String) :
    List FileRelationshipRef → PyResult (List ChangeEvidenceEdge) :=
  targetEdges nodeId "file"
    (fun item =>
      match item.relationshipKind with
      | .imports => .targetDependencyFile
      | .importedBy => .targetDependentFile)
    (fun item => "file:" ++ item.repositoryRelPath)
    (fun item =>
      match item.relationshipKind with
      | .imports => "dependency file discovered from deterministic import resolution"
      | .importedBy => "dependent file discovered from deterministic import resolution")
    FileRelationshipRef.provenance

def renderEdges (nodeId : String) :
    List RenderEdgeRef → PyResult (List ChangeEvidenceEdge) :=
  targetEdges nodeId "file"
    (fun item =>
      match item.relationshipKind with
      | .renders => .targetRenderChild
      | .renderedBy => .targetRenderParent)
    (fun item => "file:" ++ item.repositoryRelPath)
    (fun item =>
      match item.relationshipKind with
      | .renders => "render child discovered from deterministic JSX component resolution"
      | .renderedBy => "render parent discovered from deterministic JSX component resolution")
    RenderEdgeRef.provenance

def invariantEdges (nodeId : String) :
    List InvariantFindingRef → PyResult (List ChangeEvidenceEdge) :=
  targetEdges nodeId "invariant_finding" (fun _ => .targetInvariantFinding)
    (fun item => "invariant:" ++ item.repositoryRelPath ++ ":" ++ toString item.lineStart ++
      ":" ++ toString item.columnStart ++ ":" ++ item.fieldName)
    (fun _ => "field invariant finding discovered from deterministic TypeScript static analysis")
    InvariantFindingRef.provenance

def localFlowEdges (nodeId : String) :
    List StaticFlowEdgeRef → PyResult (List ChangeEvidenceEdge) :=
  targetEdges nodeId "local_flow_edge" (fun _ => .targetLocalFlowEdge)
    (fun item => "flow:" ++ item.repositoryRelPath ++ ":" ++ toString item.lineStart ++ ":" ++
      toString item.columnStart ++ ":" ++ item.sourceLabel ++ ":" ++ item.targetLabel)
    (fun item =>
      match item.edgeKind with
      | .callsLocalSymbol =>
          "local static flow edge discovered from deterministic TypeScript analysis"
      | .producesValueFor =>
          "local producer-to-consumer flow discovered from deterministic TypeScript analysis")
    StaticFlowEdgeRef.provenance

def implementationLocationEdges (nodeId : String) :
    List CodeLocation → PyResult (List ChangeEvidenceEdge) :=
  targetEdges nodeId "implementation_location" (fun _ => .targetImplementationLocation)
    locationNodeId
    (fun _ => "implementation candidate discovered from deterministic interface " ++
      "implementation analysis")
    CodeLocation.provenance

def implementationComponentEdges (primaryComponent : Option Component)
    (components : List Component) : PyResult (List ChangeEvidenceEdge) :=
  match primaryComponent with
  | none => .ok []
  | some primary =>
      components.mapM fun component =>
        ChangeEvidenceEdge.create
          { sourceNodeKind := "component"
            sourceNodeId := primary.id
            targetNodeKind := "component"
            targetNodeId := component.id
            edgeKind := .componentImplementationComponent
            reason := "implementation candidate component discovered from deterministic " ++
              "interface implementation analysis"
            provenance := component.provenance }

/-- `_dependent_component_edges`; the last edge of a source counts. -/
def dependentComponentEdges (primaryComponent : Option Component)
    (components : List Component) (dependentEdges : List ComponentDependencyEdge) :
    PyResult (List ChangeEvidenceEdge) :=
  match primaryComponent with
  | none => .ok []
  | some primary =>
      components.mapM fun component =>
        match (dependentEdges.filter fun edge =>
            edge.targetKind = .component && edge.targetId = primary.id &&
              edge.sourceComponentId = component.id).getLast? with
        | none =>
            raiseValueError
              ("dependent component preview item is missing matching dependency-edge " ++
                "provenance: `" ++ component.id ++ "` -> `" ++ primary.id ++ "`")
        | some dependencyEdge =>
            ChangeEvidenceEdge.create
              { sourceNodeKind := "component"
                sourceNodeId := component.id
                targetNodeKind := "component"
                targetNodeId := primary.id
                edgeKind := .componentDependentComponent
                reason := "dependent component references the primary component through " ++
                  "architecture dependency projection"
                provenance := dependencyEdge.provenance }

def relatedTestEdges (nodeId : String) :
    List TestImpact → PyResult (List ChangeEvidenceEdge) :=
  targetEdges nodeId "test" (fun _ => .targetRelatedTest)
    (fun item => item.relatedTest.testId) TestImpact.reason TestImpact.provenance

def relatedRunnerEdges (nodeId : String) :
    List RunnerImpact → PyResult (List ChangeEvidenceEdge) :=
  targetEdges nodeId "runner" (fun _ => .targetRelatedRunner)
    (fun item => item.runner.id) RunnerImpact.reason RunnerImpact.provenance

def qualityGateEdges (nodeId : String) :
    List QualityGateInfo → PyResult (List ChangeEvidenceEdge) :=
  targetEdges nodeId "quality_gate" (fun _ => .targetQualityGate)
    (fun item => "quality_gate:" ++ item.providerId) QualityGateInfo.reason
    QualityGateInfo.provenance

def edgeSortKey (edge : ChangeEvidenceEdge) : ℕ ×ₗ String ×ₗ String ×ₗ String :=
  toLex (order.idxOf edge.edgeKind, toLex (edge.sourceNodeId,
    toLex (edge.targetNodeId, edge.reason)))

def previewChecks (preview : ChangeEvidencePreview) : List (Bool × String) :=
  [(preview.totalEdges < 1, "total_edges must be >= 1"),
    (preview.countsByKind.isEmpty, "counts_by_kind must not be empty"),
    (preview.edgesPreview.isEmpty, "edges_preview must not be empty"),
    ((preview.countsByKind.map Prod.snd).sum ≠ preview.totalEdges,
      "sum(counts_by_kind.values()) must equal total_edges"),
    (preview.truncated && preview.totalEdges ≤ preview.edgesPreview.length,
      "truncated previews must contain fewer edges than total_edges"),
    (!preview.truncated && preview.edgesPreview.length ≠ preview.totalEdges,
      "non-truncated previews must contain exactly total_edges entries"),
    (preview.totalEdges < preview.edgesPreview.length,
      "edges_preview must not exceed total_edges")]

def allEdges (items : ChangeItems) (targetValue : String) (evidencePath : Option String)
    (dependentEdges : List ComponentDependencyEdge) : PyResult (List ChangeEvidenceEdge) := do
  let nodeId := targetNodeId items.targetKind targetValue
  let ownerEdge ← targetOwnerEdge items.targetKind nodeId items.owner evidencePath
  let primary ← ownerPrimaryComponentEdges items.owner items.primaryComponent
  let references ← referenceEdges items.targetKind nodeId items.referenceLocations
  let dependencyFiles ← relationshipEdges nodeId items.dependencyFiles
  let dependentFiles ← relationshipEdges nodeId items.dependentFiles
  let renderChildren ← renderEdges nodeId items.renderChildren
  let renderParents ← renderEdges nodeId items.renderParents
  let invariants ← invariantEdges nodeId items.invariantFindings
  let flows ← localFlowEdges nodeId items.localFlowEdges
  let implementations ← implementationLocationEdges nodeId items.implementationLocations
  let implementationComponents ←
    implementationComponentEdges items.primaryComponent items.implementationComponents
  let dependents ←
    dependentComponentEdges items.primaryComponent items.dependentComponents dependentEdges
  let tests ← relatedTestEdges nodeId items.relatedTests
  let runners ← relatedRunnerEdges nodeId items.relatedRunners
  let gates ← qualityGateEdges nodeId items.qualityGates
  pure (ownerEdge :: (primary ++ references ++ dependencyFiles ++ dependentFiles ++
    renderChildren ++ renderParents ++ invariants ++ flows ++ implementations ++
    implementationComponents ++ dependents ++ tests ++ runners ++ gates))

def assemble (items : ChangeItems) (targetValue : String) (evidencePath : Option String)
    (dependentEdges : List ComponentDependencyEdge) : PyResult ChangeEvidencePreview := do
  let edges ← allEdges items targetValue evidencePath dependentEdges
  let orderedEdges := sortedBy edgeSortKey edges
  let preview : ChangeEvidencePreview :=
    { totalEdges := orderedEdges.length
      countsByKind := sortedBy (fun entry => entry.1.value)
        (counter (orderedEdges.map ChangeEvidenceEdge.edgeKind))
      edgesPreview := orderedEdges.take previewLimit
      truncated := (orderedEdges.take previewLimit).length < orderedEdges.length }
  validated (previewChecks preview) preview

end ChangeEvidenceAssembler

/-! ## Truth coverage -/

inductive TruthCoverageDomain where
  | architecture
  | code
  | tests
  | quality
  | actions
  deriving DecidableEq, Repr

def TruthCoverageDomain.value : TruthCoverageDomain → String
  | .architecture => "architecture"
  | .code => "code"
  | .tests => "tests"
  | .quality => "quality"
  | .actions => "actions"

inductive TruthAvailability where
  | available
  | degraded
  | unavailable
  deriving DecidableEq, Repr

def TruthAvailability.value : TruthAvailability → String
  | .available => "available"
  | .degraded => "degraded"
  | .unavailable => "unavailable"

inductive TruthActionCapability where
  | tests
  | builds
  | runners
  deriving DecidableEq, Repr

structure TruthCoverageByDomain where
  domain : TruthCoverageDomain
  totalEntities : ℕ
  authoritativeCount : ℕ
  derivedCount : ℕ
  heuristicCount : ℕ
  unavailableCount : ℕ
  availability : TruthAvailability
  degradedReason : Option String
  sourceKindMix : List (SourceKind × ℕ)
  sourceToolMix : List (String × ℕ)
  executionAvailable : Option Bool
  actionCapabilities : List (TruthActionCapability × Bool)
  deriving DecidableEq

structure TruthCoverageSummary where
  scopeKind : String
  scopeId : String
  domains : List TruthCoverageByDomain
  overallAuthoritativeCount : ℕ
  overallDerivedCount : ℕ
  overallHeuristicCount : ℕ
  overallUnavailableCount : ℕ
  overallAvailability : TruthAvailability
  provenance : List ProvenanceEntry
  deriving DecidableEq

namespace TruthCoverageService

/-- What `add_provenance_item` adds to the counts for one item. -/
structure CoverageItem where
  confidence : ConfidenceMode
  sourceKind : SourceKind
  sourceTool : Option String

def addProvenanceItem (provenance : List ProvenanceEntry) : PyResult CoverageItem := do
  let confidence ← preferredConfidenceMode provenance
  let sourceKind ← preferredSourceKind provenance
  let sourceTool ← preferredSourceTool provenance
  pure ⟨confidence, sourceKind, sourceTool⟩

/-- `_artifact_domain_availability` with the reason it leaves. -/
def artifactDomainAvailability (items : List CoverageItem) :
    TruthAvailability × Option String :=
  if items.isEmpty then
    (.unavailable, none)
  else if items.any fun item => item.confidence = .heuristic then
    (.degraded, some "artifact includes heuristic coverage in this domain")
  else
    (.available, none)

def domainChecks (coverage : TruthCoverageByDomain) : List (Bool × String) :=
  [(coverage.degradedReason.any isBlank, "degraded_reason must not be empty"),
    (coverage.sourceToolMix.any fun entry => isBlank entry.1,
      "source_tool_mix keys must not be empty"),
    (coverage.authoritativeCount + coverage.derivedCount + coverage.heuristicCount +
        coverage.unavailableCount ≠ coverage.totalEntities,
      "authoritative + derived + heuristic + unavailable must equal total_entities"),
    (coverage.availability = .degraded && coverage.degradedReason.isNone,
      "degraded availability requires degraded_reason"),
    (coverage.availability = .available && coverage.degradedReason.isSome,
      "available coverage must not include degraded_reason"),
    (coverage.domain ≠ .actions && !coverage.actionCapabilities.isEmpty,
      "action_capabilities are allowed only for the actions domain"),
    (coverage.domain ≠ .quality && coverage.domain ≠ .actions &&
        coverage.executionAvailable.isSome,
      "execution_available is allowed only for quality and actions domains")]

/-- `_DomainAccumulator.finalize` over the accumulated items. -/
def finalizeDomain (domain : TruthCoverageDomain) (items : List CoverageItem)
    (executionAvailable : Option Bool)
    (actionCapabilities : List (TruthActionCapability × Bool)) :
    PyResult TruthCoverageByDomain :=
  let coverage : TruthCoverageByDomain :=
    { domain := domain
      totalEntities := items.length
      authoritativeCount := items.countP fun item => item.confidence = .authoritative
      derivedCount := items.countP fun item => item.confidence = .derived
      heuristicCount := items.countP fun item => item.confidence = .heuristic
      unavailableCount := 0
      availability := (artifactDomainAvailability items).1
      degradedReason := (artifactDomainAvailability items).2
      sourceKindMix := counter (items.map CoverageItem.sourceKind)
      sourceToolMix := counter (items.filterMap CoverageItem.sourceTool)
      executionAvailable := executionAvailable
      actionCapabilities := actionCapabilities }
  validated (domainChecks coverage) coverage

/-- `max(sorted(mix), key=…)`: the first of the most frequent keys. -/
def mostFrequent? {κ : Type} (name : κ → String) (mix : List (κ × ℕ)) : Option κ :=
  ((sortedBy (fun entry => name entry.1) mix).foldl
    (fun best entry =>
      match best with
      | none => some entry
      | some kept => if kept.2 < entry.2 then some entry else some kept)
    none).map Prod.fst

def domainSummaryProvenance (coverage : TruthCoverageByDomain) : PyResult ProvenanceEntry :=
  if coverage.totalEntities = 0 then
    derivedSummaryProvenance .heuristic
      (coverage.domain.value ++ " truth coverage is " ++ coverage.availability.value) [] none
  else
    derivedSummaryProvenance
      ((mostFrequent? SourceKind.value coverage.sourceKindMix).getD .heuristic)
      (coverage.domain.value ++ " truth coverage summarized as " ++
        coverage.availability.value)
      [] (mostFrequent? id coverage.sourceToolMix)

def summaryChecks (summary : TruthCoverageSummary) : List (Bool × String) :=
  [(isBlank summary.scopeKind, "value must not be empty"),
    (isBlank summary.scopeId, "value must not be empty"),
    (summary.scopeKind ≠ "repository" && summary.scopeKind ≠ "change",
      "unsupported scope_kind: `" ++ summary.scopeKind ++ "`"),
    (summary.domains.map TruthCoverageByDomain.domain ≠
        [.architecture, .code, .tests, .quality, .actions],
      "domains must contain exactly one entry for each truth coverage domain"),
    (summary.provenance.isEmpty, "provenance must not be empty")]

/-- `_summary`. -/
def summaryOf (scopeKind scopeId : String) (domains : List TruthCoverageByDomain) :
    PyResult TruthCoverageSummary := do
  let entries ← domains.mapM domainSummaryProvenance
  let summary : TruthCoverageSummary :=
    { scopeKind := scopeKind
      scopeId := scopeId
      domains := domains
      overallAuthoritativeCount :=
        (domains.map TruthCoverageByDomain.authoritativeCount).sum
      overallDerivedCount := (domains.map TruthCoverageByDomain.derivedCount).sum
      overallHeuristicCount := (domains.map TruthCoverageByDomain.heuristicCount).sum
      overallUnavailableCount := (domains.map TruthCoverageByDomain.unavailableCount).sum
      overallAvailability :=
        if domains.all fun coverage => coverage.availability = .unavailable then
          .unavailable
        else if domains.any fun coverage => coverage.availability ≠ .available then
          .degraded
        else
          .available
      provenance := dedupeBy id entries }
  validated (summaryChecks summary) summary

def changeScopeId (items : ChangeItems) (evidencePath : Option String) : PyResult String :=
  match items.targetKind, items.symbolContext, items.fileContext, evidencePath with
  | .symbol, none, _, _ => raiseValueError "symbol change impact requires symbol_context"
  | .symbol, some context, _, _ => .ok context.symbol.id
  | .file, _, some context, _ => .ok context.fileInfo.repositoryRelPath
  | .file, _, none, some path => .ok path
  | .file, _, none, none =>
      raiseValueError "file change impact requires evidence_path when file_context is unavailable"
  | .owner, _, _, _ => .ok items.owner.id

def codeProvenance (items : ChangeItems) : List (List ProvenanceEntry) :=
  items.fileContext.toList.map FileContext.provenance ++
    items.symbolContext.toList.map SymbolContext.provenance ++
    items.referenceLocations.map CodeLocation.provenance ++
    (items.dependencyFiles ++ items.dependentFiles).map FileRelationshipRef.provenance ++
    (items.renderChildren ++ items.renderParents).map RenderEdgeRef.provenance ++
    items.invariantFindings.map InvariantFindingRef.provenance ++
    items.localFlowEdges.map StaticFlowEdgeRef.provenance ++
    items.implementationLocations.map CodeLocation.provenance ++
    items.implementationComponents.map Component.provenance

def changeTruthCoverageFromParts (items : ChangeItems) (evidencePath : Option String) :
    PyResult TruthCoverageSummary := do
  let architectureItems ←
    (items.primaryComponent.toList.map Component.provenance ++
      items.componentContext.toList.map ComponentContext.provenance ++
      items.dependentComponents.map Component.provenance).mapM addProvenanceItem
  let codeItems ← (codeProvenance items).mapM addProvenanceItem
  let testItems ← (items.relatedTests.map TestImpact.provenance).mapM addProvenanceItem
  let qualityItems ←
    (items.qualityGates.map QualityGateInfo.provenance).mapM addProvenanceItem
  let actionItems ←
    (items.relatedRunners.map RunnerImpact.provenance).mapM addProvenanceItem
  let scopeId ← changeScopeId items evidencePath
  let hasRunners := !items.relatedRunners.isEmpty
  let architecture ← finalizeDomain .architecture architectureItems none []
  let code ← finalizeDomain .code codeItems none []
  let tests ← finalizeDomain .tests testItems none []
  let quality ← finalizeDomain .quality qualityItems (some !items.qualityGates.isEmpty) []
  let actions ← finalizeDomain .actions actionItems (some hasRunners)
    [(.tests, false), (.builds, false), (.runners, hasRunners)]
  summaryOf "change" scopeId [architecture, code, tests, quality, actions]

end TruthCoverageService

/-! ## Provenance of a change -/

def summarizeRelatedProvenance (entries : List ProvenanceEntry) (evidenceSummary : String) :
    PyResult ProvenanceEntry := do
  let sourceKind ← preferredSourceKind entries
  let sourceTool ← preferredSourceTool entries
  let evidencePaths ← mergeProvenancePaths entries 10
  ProvenanceEntry.create
    (if entries.any fun entry => entry.confidenceMode = .authoritative then
      .authoritative
    else
      .derived)
    sourceKind sourceTool evidenceSummary evidencePaths

def isTypescriptPath (path : String) : Bool :=
  [".ts", ".tsx", ".js", ".jsx", ".mts", ".cts", ".mjs", ".cjs"].any fun suffix =>
    endsWith path.toLower suffix

def sourceToolOr (byPath : String → Option String) (entries : List ProvenanceEntry)
    (evidencePath : Option String) : Option String :=
  match entries.findSome? ProvenanceEntry.sourceTool with
  | some tool => some tool
  | none => evidencePath.bind byPath

/-- `_relationship_source_tool` for a path. -/
def relationshipToolOfPath (path : String) : Option String :=
  if endsWith path.toLower ".py" then some "basedpyright"
  else if isTypescriptPath path then some "typescript"
  else none

/-- `_render_source_tool` and `_static_analysis_source_tool` for a path. -/
def typescriptToolOfPath (path : String) : Option String :=
  if isTypescriptPath path then some "typescript" else none

def pathsFrom (evidencePath : Option String) (paths : List String) : List String :=
  (evidencePath.toList ++ dedupeBy id (paths.filter fun path => path ∉ evidencePath)).take 10

def staticAnalysisPaths (items : ChangeItems) : List String :=
  items.invariantFindings.flatMap (fun item =>
      item.repositoryRelPath ::
        item.producerSitesPreview.map StaticAnalysisSiteRef.repositoryRelPath) ++
    items.localFlowEdges.map StaticFlowEdgeRef.repositoryRelPath

def changeProvenance (items : ChangeItems) (evidencePath : Option String) :
    PyResult (List ProvenanceEntry) := do
  let relationships := items.dependencyFiles ++ items.dependentFiles
  let renders := items.renderChildren ++ items.renderParents
  let ownership ← ProvenanceEntry.create .derived .ownership none
    ("change analysis anchored to owner `" ++ items.owner.id ++ "`") evidencePath.toList
  let dependents ← entryWhen (!items.dependentComponents.isEmpty) do
    let paths ←
      mergeProvenancePaths (items.dependentComponents.flatMap Component.provenance) 10
    derivedSummaryProvenance .manifest
      ("dependent component impact derived from " ++
        toString items.dependentComponents.length ++ " dependency edges")
      paths none
  let relationshipEntry ← entryWhen (!relationships.isEmpty)
    (derivedSummaryProvenance .dependencyGraph
      "change analysis includes deterministic file relationship evidence"
      (pathsFrom evidencePath (relationships.map FileRelationshipRef.repositoryRelPath))
      (sourceToolOr relationshipToolOfPath
        (relationships.flatMap FileRelationshipRef.provenance) evidencePath))
  let renderEntry ← entryWhen (!renders.isEmpty)
    (derivedSummaryProvenance .dependencyGraph
      "change analysis includes deterministic JSX render-edge evidence"
      (pathsFrom evidencePath (renders.map RenderEdgeRef.repositoryRelPath))
      (sourceToolOr typescriptToolOfPath (renders.flatMap RenderEdgeRef.provenance)
        evidencePath))
  let analysisEntry ← entryWhen
    (!items.invariantFindings.isEmpty || !items.localFlowEdges.isEmpty)
    (derivedSummaryProvenance .dependencyGraph
      "change analysis includes deterministic TypeScript static-analysis evidence"
      (pathsFrom evidencePath (staticAnalysisPaths items))
      (sourceToolOr typescriptToolOfPath
        (items.invariantFindings.flatMap InvariantFindingRef.provenance ++
          items.localFlowEdges.flatMap StaticFlowEdgeRef.provenance) evidencePath))
  let implementationEntry ← entryWhen
    (!items.implementationLocations.isEmpty || !items.implementationComponents.isEmpty)
    (derivedSummaryProvenance .lsp
      "change analysis includes deterministic implementation candidate evidence"
      (pathsFrom evidencePath
        (items.implementationLocations.map CodeLocation.repositoryRelPath))
      (some "gopls"))
  let referenceEntry ← entryWhen (!items.referenceLocations.isEmpty)
    (summarizeRelatedProvenance (items.referenceLocations.flatMap CodeLocation.provenance)
      "reference impact derived from LSP definition/reference results")
  let testEntry ← entryWhen (!items.relatedTests.isEmpty)
    (summarizeRelatedProvenance (items.relatedTests.flatMap TestImpact.provenance)
      "related test impact derived from discovered test provenance")
  let runnerEntry ← entryWhen (!items.relatedRunners.isEmpty)
    (summarizeRelatedProvenance (items.relatedRunners.flatMap RunnerImpact.provenance)
      "related runner impact derived from ownership and component context")
  let gateEntry ← entryWhen (!items.qualityGates.isEmpty)
    (summarizeRelatedProvenance (items.qualityGates.flatMap QualityGateInfo.provenance)
      "quality gate applicability derived from repository quality providers")
  pure (ownership :: (dependents ++ relationshipEntry ++ renderEntry ++ analysisEntry ++
    implementationEntry ++ referenceEntry ++ testEntry ++ runnerEntry ++ gateEntry))

structure ChangeImpact extends ChangeItems where
  evidence : ChangeEvidencePreview
  truthCoverage : TruthCoverageSummary
  provenance : List ProvenanceEntry
  deriving DecidableEq

def changeImpactChecks (impact : ChangeImpact) : List (Bool × String) :=
  [(impact.provenance.isEmpty, "provenance must not be empty"),
    (impact.targetKind = .symbol && impact.symbolContext.isNone,
      "symbol target requires symbol_context"),
    (impact.targetKind = .owner && impact.symbolContext.isSome,
      "owner target must not include symbol_context"),
    (impact.targetKind = .owner && impact.fileContext.isSome,
      "owner target must not include file_context"),
    (impact.primaryComponent.any fun component =>
        impact.componentContext.any fun context => component.id ≠ context.component.id,
      "primary_component and component_context must reference the same component")]

end SuitCode
