import SuitCode.ChangeEvidence
import SuitCode.RunnerService

/-!
# Impact of a change

A resolver finds out what a change target is and reads its references and related
tests.  Two services are built on it: one analyses the change in full, the other
reports a summary of the impact.
-/

namespace SuitCode

open PosixText KeyedList

/-! ## Construction of the services -/

inductive AnalysisDependency where
  | repository
  | ownershipIndex
  | contextService
  | componentContextResolver
  | codeReferenceService
  | fileSemanticFactsService
  | truthCoverageService
  deriving DecidableEq, Repr

def quotedNames : List String → String
  | [] => ""
  | [name] => "'" ++ name ++ "'"
  | [first, second] => "'" ++ first ++ "' and '" ++ second ++ "'"
  | names =>
      join ", " (names.dropLast.map fun name => "'" ++ name ++ "'") ++ ", and '" ++
        names.getLast?.getD "" ++ "'"

/-- Binding the positional arguments of a method, its `self` apart, to the parameters,
none of which has a default. -/
def bindArguments (method : String) (parameters : List String)
    (arguments : List AnalysisDependency) : PyResult (List (String × AnalysisDependency)) :=
  let missing := parameters.drop arguments.length
  if parameters.length < arguments.length then
    .error (.typeError (method ++ "() takes " ++ toString (parameters.length + 1) ++
      " positional arguments but " ++ toString (arguments.length + 1) ++ " were given"))
  else if missing ≠ [] then
    .error (.typeError (method ++ "() missing " ++ toString missing.length ++
      " required positional argument" ++ (if missing.length = 1 then "" else "s") ++ ": " ++
      quotedNames missing))
  else
    .ok (parameters.zip arguments)

/-! ## Component contexts -/

def componentContextProvenance (componentId : String) (ownedFiles : List FileInfo)
    (dependencies : List DependencyRef) (relatedTests : List ResolvedRelatedTest) :
    PyResult (List ProvenanceEntry) := do
  let ownership ← ProvenanceEntry.create .derived .ownership none
    ("component context derived from ownership index for `" ++ componentId ++ "`")
    ((ownedFiles.take 10).map FileInfo.repositoryRelPath)
  let declared ← entryWhen (!dependencies.isEmpty)
    (derivedSummaryProvenance .manifest
      ("dependency context summarized from " ++ toString dependencies.length ++
        " declared component dependencies")
      ((dedupeBy id ((dependencies.flatMap DependencyRef.provenance).flatMap
        ProvenanceEntry.evidencePaths)).take 10)
      none)
  let tests ← entryWhen (!relatedTests.isEmpty)
    (summarizedTestProvenance relatedTests "component-related tests")
  pure (ownership :: (declared ++ tests))

structure ComponentPreviewLimits where
  filePreviewLimit : ℕ
  dependencyPreviewLimit : ℕ
  dependentPreviewLimit : ℕ
  testPreviewLimit : ℕ
  deriving DecidableEq

namespace Repository

def describeComponent (repository : Repository) (limits : ComponentPreviewLimits)
    (componentId : String) : PyResult ComponentContext :=
  match repository.componentWithId componentId with
  | none => raiseValueError ("unknown component id: `" ++ componentId ++ "`")
  | some component => do
      let ownedFiles ← repository.listFilesByOwner componentId
      let target ← RelatedTestTarget.ofOwner componentId
      let relatedTests ← repository.getRelatedTests target
      let dependencies ← repository.getComponentDependencies componentId
      let dependents ← repository.getComponentDependents componentId
      let runnerIds ← repository.relatedRunnerIdsForComponent component ownedFiles
      let provenance ←
        componentContextProvenance componentId ownedFiles dependencies relatedTests
      pure
        { component := component
          ownedFileCount := ownedFiles.length
          ownedFilesPreview := ownedFiles.take limits.filePreviewLimit
          runnerIds := runnerIds
          relatedTestIds :=
            (relatedTests.take limits.testPreviewLimit).map ResolvedRelatedTest.testId
          dependencyCount := dependencies.length
          dependenciesPreview := dependencies.take limits.dependencyPreviewLimit
          dependentCount := dependents.length
          dependentsPreview := dependents.take limits.dependentPreviewLimit
          provenance := provenance }

def describeComponents (repository : Repository) (componentIds : List String)
    (limits : ComponentPreviewLimits) : PyResult (List ComponentContext) := do
  validateExactBatch componentIds "component_ids"
  componentIds.mapM (repository.describeComponent limits)

end Repository

/-! ## The target of a change -/

structure FileSemanticFactsKey where
  repositoryRelPath : String
  evidenceTier : CodeEvidenceTier
  deriving DecidableEq

structure ResolvedImpactTarget where
  targetKind : TargetKind
  owner : OwnedNodeInfo
  evidencePath : Option String
  ownerPrimaryComponentId : Option String
  filePrimaryComponentId : Option String
  fileContext : Option FileContext
  fileSemanticFacts : Option FileSemanticFactsKey
  symbolContext : Option SymbolContext
  referenceLocations : List CodeLocation
  relatedTests : List ResolvedRelatedTest

/-- The keyword arguments of `resolve` besides the target. -/
structure ResolveOptions where
  referencePreviewLimit : ℕ
  testPreviewLimit : ℕ
  includeReferenceLocations : Bool := true
  includeFileContextImplementationLocations : Bool := true
  evidenceTier : CodeEvidenceTier := .semantic

/-- `try: … except ValueError: …`. -/
def orOnValueError {α : Type} (result : PyResult α) (fallback : α) : PyResult α :=
  match result with
  | .ok value => .ok value
  | .error (.valueError _) => .ok fallback
  | .error exception => .error exception

theorem orOnValueError_eq_ok
    {α : Type} {result : PyResult α} {fallback value : α}
    (hok : orOnValueError result fallback = .ok value) :
    result = .ok value ∨ value = fallback := by
  unfold orOnValueError at hok
  split at hok
  · exact .inl hok
  · exact .inr (Except.ok.inj hok).symm
  · cases hok

structure ImpactTargetResolver where
  repository : Repository

namespace ImpactTargetResolver

def parameters : List String :=
  ["repository", "ownership_index", "context_service", "component_context_resolver",
    "code_reference_service", "file_semantic_facts_service"]

def create (repository : Repository) (arguments : List AnalysisDependency) :
    PyResult ImpactTargetResolver := do
  let _ ← bindArguments "ImpactTargetResolver.__init__" parameters arguments
  pure ⟨repository⟩

def resolveSymbolTarget (resolver : ImpactTargetResolver) (symbolId : String)
    (options : ResolveOptions) : PyResult ResolvedImpactTarget := do
  let repository := resolver.repository
  let symbolContext ← repository.describeSymbolContext symbolId
    options.referencePreviewLimit options.testPreviewLimit
  let owner := symbolContext.owner
  let evidencePath := symbolContext.symbol.repositoryRelPath
  let ownerPrimaryComponentId ← repository.primaryComponentIdForOwner owner.id
  let filePrimaryComponentId ← repository.primaryComponentIdForFile evidencePath owner.id
  let target ← RelatedTestTarget.ofFile evidencePath
  let relatedTests ← repository.getRelatedTests target
  pure
    { targetKind := .symbol
      owner := owner
      evidencePath := some evidencePath
      ownerPrimaryComponentId := ownerPrimaryComponentId
      filePrimaryComponentId := filePrimaryComponentId
      fileContext := none
      fileSemanticFacts := none
      symbolContext := some symbolContext
      referenceLocations :=
        symbolContext.referencesPreview.take options.referencePreviewLimit
      relatedTests := relatedTests.take options.testPreviewLimit }

/-- `build_file_context` of the bundle of a path. -/
def buildFileContext (repository : Repository) (path : String) (options : DescribeOptions) :
    PyResult FileContext := do
  let facts ← repository.evalFacts (readFacts path options)
  fileContextOf path options facts

def bundleOwner (repository : Repository) (path : String)
    (evidenceTier : CodeEvidenceTier) : PyResult FileOwnerInfo :=
  repository.fileFact path evidenceTier .fileOwner

def bundleReferenceSites (repository : Repository) (path : String)
    (options : ResolveOptions) : PyResult (List CodeLocation) :=
  if options.includeReferenceLocations then
    repository.fileFact path options.evidenceTier .referenceSites
  else
    .ok []

def bundleRelatedTests (repository : Repository) (path : String)
    (evidenceTier : CodeEvidenceTier) : PyResult (List ResolvedRelatedTest) :=
  repository.fileFact path evidenceTier .relatedTests

def resolveFileTarget (resolver : ImpactTargetResolver) (repositoryRelPath : String)
    (options : ResolveOptions) : PyResult ResolvedImpactTarget := do
  let repository := resolver.repository
  let tier := options.evidenceTier
  let path ← normalizeRepositoryRelativePath repositoryRelPath
  let fileOwner ← bundleOwner repository path tier
  let fileContext ← buildFileContext repository path
    { symbolPreviewLimit := 20
      testPreviewLimit := options.testPreviewLimit
      includeImplementationLocations := options.includeFileContextImplementationLocations
      evidenceTier := tier }
  let owner := fileContext.owner
  let referenceSites ← bundleReferenceSites repository path options
  let relatedTests ← bundleRelatedTests repository path tier
  let evidencePath := fileOwner.fileInfo.repositoryRelPath
  let ownerPrimaryComponentId ← repository.primaryComponentIdForOwner owner.id
  let filePrimaryComponentId ← repository.primaryComponentIdForFile evidencePath owner.id
  pure
    { targetKind := .file
      owner := owner
      evidencePath := some evidencePath
      ownerPrimaryComponentId := ownerPrimaryComponentId
      filePrimaryComponentId := filePrimaryComponentId
      fileContext := some fileContext
      fileSemanticFacts := some ⟨path, tier⟩
      symbolContext := none
      referenceLocations := referenceSites.take options.referencePreviewLimit
      relatedTests := relatedTests.take options.testPreviewLimit }

def resolveOwnerTarget (resolver : ImpactTargetResolver) (ownerId : String)
    (options : ResolveOptions) : PyResult ResolvedImpactTarget := do
  let repository := resolver.repository
  let limit := options.referencePreviewLimit
  let owner ← repository.resolveOwner ownerId
  let references ← orOnValueError
    (do
      let references ← repository.referencesForOwner ownerId (some limit) (some (max 10 limit))
      pure (references.take limit))
    []
  let ownerPrimaryComponentId ← repository.primaryComponentIdForOwner ownerId
  let target ← RelatedTestTarget.ofOwner ownerId
  let relatedTests ← repository.getRelatedTests target
  pure
    { targetKind := .owner
      owner := owner
      evidencePath := none
      ownerPrimaryComponentId := ownerPrimaryComponentId
      filePrimaryComponentId := none
      fileContext := none
      fileSemanticFacts := none
      symbolContext := none
      referenceLocations := references
      relatedTests := relatedTests.take options.testPreviewLimit }

def resolve (resolver : ImpactTargetResolver) (target : ChangeTarget)
    (options : ResolveOptions) : PyResult ResolvedImpactTarget :=
  match target with
  | .symbol symbolId => resolver.resolveSymbolTarget symbolId options
  | .file repositoryRelPath => resolver.resolveFileTarget repositoryRelPath options
  | .owner ownerId => resolver.resolveOwnerTarget ownerId options

def resolveComponent (resolver : ImpactTargetResolver) (componentId : Option String) :
    PyResult (Option Component) :=
  match componentId with
  | none => .ok none
  | some componentId =>
      match resolver.repository.componentWithId componentId with
      | some component => .ok (some component)
      | none =>
          raiseValueError
            ("dependent component id could not be resolved: `" ++ componentId ++ "`")

end ImpactTargetResolver

/-! ## The full analysis of a change -/

structure ChangePreviewLimits where
  referencePreviewLimit : ℕ := 50
  dependentPreviewLimit : ℕ := 50
  testPreviewLimit : ℕ := 25
  runnerPreviewLimit : ℕ := 25

/-- The keyword arguments of `analyze_change`. -/
structure ChangeOptions extends ChangePreviewLimits where
  includeReferenceLocations : Bool := true
  includeImplementationLocations : Bool := true
  evidenceTier : CodeEvidenceTier := .semantic

structure ChangeImpactService where
  targetResolver : ImpactTargetResolver

namespace ChangeImpactService

def parameters : List String :=
  ["repository", "ownership_index", "context_service", "component_context_resolver",
    "code_reference_service", "file_semantic_facts_service", "truth_coverage_service"]

def create (repository : Repository) (arguments : List AnalysisDependency) :
    PyResult ChangeImpactService := do
  let _ ← bindArguments "ChangeImpactService.__init__" parameters arguments
  let targetResolver ← ImpactTargetResolver.create repository
    [.repository, .ownershipIndex, .contextService, .componentContextResolver,
      .codeReferenceService, .fileSemanticFactsService]
  pure ⟨targetResolver⟩

def primaryComponentContext (repository : Repository) (primaryComponent : Option Component)
    (limits : ChangePreviewLimits) : PyResult (Option ComponentContext) :=
  match primaryComponent with
  | none => .ok none
  | some component => do
      let contexts ← repository.describeComponents [component.id]
        ⟨20, 20, limits.dependentPreviewLimit, limits.testPreviewLimit⟩
      pure contexts.head?

def dependentComponents (repository : Repository) (primaryComponent : Option Component)
    (dependentPreviewLimit : ℕ) : PyResult (List Component) :=
  match primaryComponent with
  | none => .ok []
  | some component => do
      let dependentIds ← repository.getComponentDependents component.id
      (dependentIds.take dependentPreviewLimit).mapM fun componentId =>
        match repository.componentWithId componentId with
        | some dependent => .ok dependent
        | none =>
            raiseValueError
              ("dependent component id could not be resolved: `" ++ componentId ++ "`")

def factOr {α : Type} (bundle : Option FileSemanticFactsKey) (evidencePath : Option String)
    (ofBundle : FileSemanticFactsKey → PyResult (List α))
    (atPath : String → PyResult (List α)) : PyResult (List α) :=
  match evidencePath, bundle with
  | none, _ => .ok []
  | some _, some key => ofBundle key
  | some path, none => atPath path

def bundleFact (repository : Repository) (fact : FileFact) (key : FileSemanticFactsKey) :
    PyResult fact.Value :=
  repository.fileFact key.repositoryRelPath key.evidenceTier fact

/-- `_file_relationships` of one kind. -/
def fileRelationships (repository : Repository) (resolved : ResolvedImpactTarget)
    (evidenceTier : CodeEvidenceTier) (relationshipKind : FileRelationshipKind) :
    PyResult (List FileRelationshipRef) :=
  factOr resolved.fileSemanticFacts resolved.evidencePath
    (match relationshipKind with
      | .imports => bundleFact repository .dependencyFiles
      | .importedBy => bundleFact repository .dependentFiles)
    fun path => repository.getFileRelationships path (some relationshipKind) evidenceTier

/-- `_render_edges` of one kind. -/
def renderEdges (repository : Repository) (resolved : ResolvedImpactTarget)
    (relationshipKind : RenderEdgeKind) : PyResult (List RenderEdgeRef) :=
  factOr resolved.fileSemanticFacts resolved.evidencePath
    (match relationshipKind with
      | .renders => bundleFact repository .renderChildren
      | .renderedBy => bundleFact repository .renderParents)
    fun path => repository.getFileRenderEdges path (some relationshipKind)

def invariantFindings (repository : Repository) (resolved : ResolvedImpactTarget) :
    PyResult (List InvariantFindingRef) :=
  factOr resolved.fileSemanticFacts resolved.evidencePath
    (bundleFact repository .invariantFindings) repository.getFileInvariantFindings

def localFlowEdges (repository : Repository) (resolved : ResolvedImpactTarget) :
    PyResult (List StaticFlowEdgeRef) :=
  factOr resolved.fileSemanticFacts resolved.evidencePath
    (bundleFact repository .localFlowEdges) repository.getFileLocalFlowEdges

def implementationLocations (repository : Repository) (resolved : ResolvedImpactTarget) :
    PyResult (List CodeLocation) :=
  factOr resolved.fileSemanticFacts resolved.evidencePath
    (bundleFact repository .implementationLocations)
    repository.getFileImplementationLocations

def unlessStructural {α : Type} (evidenceTier : CodeEvidenceTier)
    (items : PyResult (List α)) : PyResult (List α) :=
  match evidenceTier with
  | .structural => .ok []
  | .semantic => items

def componentOfLocation (repository : Repository) (location : CodeLocation) :
    PyResult (Option Component) :=
  orOnValueError
    (do
      let fileOwner ← repository.getFileOwner location.repositoryRelPath
      pure (if fileOwner.owner.kind ≠ .component then
        none
      else
        repository.componentWithId fileOwner.owner.id))
    none

def implementationComponents (repository : Repository) (locations : List CodeLocation) :
    PyResult (List Component) := do
  let components ← locations.mapM (componentOfLocation repository)
  pure (sortedBy Component.id (dedupeBy Component.id (components.filterMap id)))

def dependentComponentEdges (repository : Repository) (primaryComponent : Option Component)
    (dependents : List Component) : PyResult (List ComponentDependencyEdge) :=
  match primaryComponent with
  | none => .ok []
  | some primary =>
      if dependents.isEmpty then
        .ok []
      else do
        let edges ← repository.allComponentDependencyEdges
        pure (edges.filter fun edge =>
          edge.targetKind = .component && edge.targetId = primary.id &&
            edge.sourceComponentId ∈ dependents.map Component.id)

def targetValue (resolved : ResolvedImpactTarget) : PyResult String :=
  match resolved.targetKind, resolved.symbolContext, resolved.evidencePath with
  | .symbol, none, _ => raiseValueError "symbol target requires symbol_context"
  | .symbol, some context, _ => .ok context.symbol.id
  | .file, _, none => raiseValueError "file target requires evidence_path"
  | .file, _, some path => .ok path
  | .owner, _, _ => .ok resolved.owner.id

def testImpactReason (relatedTest : ResolvedRelatedTest) : String :=
  if relatedTest.matchedOwnerId.isSome then "same_owner"
  else if relatedTest.matchedRepositoryRelPath.isSome then "same_file_context"
  else "related_test_scope"

def testImpacts (relatedTests : List ResolvedRelatedTest) : PyResult (List TestImpact) :=
  relatedTests.mapM fun relatedTest =>
    validated [(relatedTest.provenance.isEmpty, "provenance must not be empty")]
      ⟨relatedTest, testImpactReason relatedTest, relatedTest.provenance⟩

def runnerImpact (runner : Runner) (reason evidenceSummary : String) :
    PyResult RunnerImpact := do
  let paths ← mergeProvenancePaths runner.provenance 10
  let ownership ← ProvenanceEntry.create .derived .ownership none evidenceSummary paths
  pure ⟨runner, reason, [ownership]⟩

def runnerWithId (repository : Repository) (runnerId : String) : PyResult Runner :=
  match (repository.getRunners.filter fun runner => runner.id = runnerId).getLast? with
  | some runner => .ok runner
  | none => raiseValueError ("runner id could not be resolved: `" ++ runnerId ++ "`")

def relatedRunnersForComponent (repository : Repository)
    (primaryComponent : Option Component) (runnerPreviewLimit : ℕ) :
    PyResult (List RunnerImpact) :=
  match primaryComponent with
  | none => .ok []
  | some component => do
      let ownedFiles ← repository.listFilesByOwner component.id
      let runnerIds ← repository.relatedRunnerIdsForComponent component ownedFiles
      (runnerIds.take runnerPreviewLimit).mapM fun runnerId => do
        let runner ← runnerWithId repository runnerId
        runnerImpact runner "same_component"
          ("runner `" ++ runner.id ++ "` linked to component `" ++ component.id ++
            "` through ownership context")

def relatedRunnersForOwner (repository : Repository) (ownerId : String)
    (primaryComponent : Option Component) (runnerPreviewLimit : ℕ) :
    PyResult (List RunnerImpact) := do
  let owner ← repository.resolveOwner ownerId
  match owner.kind with
  | .runner => do
      let runner ← runnerWithId repository ownerId
      let impact ← runnerImpact runner "same_owner"
        ("runner impact anchored directly to runner owner `" ++ ownerId ++ "`")
      pure [impact]
  | .packageManager | .testDefinition => pure []
  | .component | .aggregator =>
      relatedRunnersForComponent repository primaryComponent runnerPreviewLimit

def qualityGate (providerId reason evidenceSummary : String) (applies : Bool)
    (evidencePaths : List String) : PyResult QualityGateInfo := do
  let entry ← derivedSummaryProvenance .qualityTool evidenceSummary evidencePaths
    (some providerId)
  validated [(isBlank providerId, "provider_id must not be empty")]
    ⟨providerId, ["quality"], applies, reason, [entry]⟩

def qualityGatesForPath (repositoryRelPath : String) (providerIds : List String) :
    PyResult (List QualityGateInfo) :=
  providerIds.mapM fun providerId =>
    qualityGate providerId
      "quality provider applies to the target file through repository quality support"
      ("quality applicability derived for `" ++ repositoryRelPath ++ "` through provider `" ++
        providerId ++ "`")
      true [repositoryRelPath]

def qualityProviderIds (repository : Repository) (resolved : ResolvedImpactTarget)
    (path : String) : PyResult (List String) :=
  match resolved.fileSemanticFacts with
  | some key => bundleFact repository .qualityProviderIds key
  | none => repository.providerIdsForFiles [path]

def providerIdsForOwner (repository : Repository) (ownerId : String) :
    PyResult (List String) := do
  let ownedFiles ← repository.listFilesByOwner ownerId
  if ownedFiles.isEmpty then
    pure []
  else
    repository.providerIdsForFiles (ownedFiles.map FileInfo.repositoryRelPath)

def qualityGatesForOwner (repository : Repository) (ownerId : String) :
    PyResult (List QualityGateInfo) := do
  let ownedFiles ← repository.listFilesByOwner ownerId
  let providerIds ← providerIdsForOwner repository ownerId
  providerIds.mapM fun providerId =>
    qualityGate providerId
      (if ownedFiles.isEmpty then
        "quality provider does not apply because the owner has no owned files"
      else
        "quality provider applies through files owned by the target owner")
      ("quality applicability derived for owner `" ++ ownerId ++ "` through provider `" ++
        providerId ++ "`")
      (!ownedFiles.isEmpty) ((ownedFiles.take 10).map FileInfo.repositoryRelPath)

def runnersAndGates (repository : Repository) (resolved : ResolvedImpactTarget)
    (primaryComponent : Option Component) (runnerPreviewLimit : ℕ) :
    PyResult (List RunnerImpact × List QualityGateInfo) :=
  match resolved.targetKind, resolved.evidencePath with
  | .owner, _ => do
      let runners ← relatedRunnersForOwner repository resolved.owner.id primaryComponent
        runnerPreviewLimit
      let gates ← qualityGatesForOwner repository resolved.owner.id
      pure (runners, gates)
  | _, none => do
      let _ ← relatedRunnersForComponent repository primaryComponent runnerPreviewLimit
      raiseValueError "file and symbol targets must include evidence_path"
  | _, some path => do
      let runners ← relatedRunnersForComponent repository primaryComponent runnerPreviewLimit
      let providerIds ← qualityProviderIds repository resolved path
      let gates ← qualityGatesForPath path providerIds
      pure (runners, gates)

/-- What `_analyze_resolved_target` finds before it summarises. -/
def itemsOf (resolver : ImpactTargetResolver) (resolved : ResolvedImpactTarget)
    (primaryComponentId : Option String) (options : ChangeOptions) : PyResult ChangeItems := do
  let repository := resolver.repository
  let primaryComponent ← resolver.resolveComponent primaryComponentId
  let componentContext ← primaryComponentContext repository primaryComponent
    options.toChangePreviewLimits
  let dependents ←
    dependentComponents repository primaryComponent options.dependentPreviewLimit
  let dependencyFiles ← fileRelationships repository resolved options.evidenceTier .imports
  let dependentFiles ← fileRelationships repository resolved options.evidenceTier .importedBy
  let renderChildren ← renderEdges repository resolved .renders
  let renderParents ← renderEdges repository resolved .renderedBy
  let findings ← unlessStructural options.evidenceTier (invariantFindings repository resolved)
  let flows ← unlessStructural options.evidenceTier (localFlowEdges repository resolved)
  let implementations ← unlessStructural options.evidenceTier
    (if options.includeImplementationLocations then
      implementationLocations repository resolved
    else
      .ok [])
  let components ← implementationComponents repository implementations
  let tests ← testImpacts resolved.relatedTests
  let (runners, gates) ← runnersAndGates repository resolved primaryComponent
    options.runnerPreviewLimit
  pure
    { targetKind := resolved.targetKind
      owner := resolved.owner
      primaryComponent := primaryComponent
      componentContext := componentContext
      fileContext := resolved.fileContext
      symbolContext := resolved.symbolContext
      dependencyFiles := dependencyFiles
      dependentFiles := dependentFiles
      renderChildren := renderChildren
      renderParents := renderParents
      invariantFindings := findings
      localFlowEdges := flows
      implementationLocations := implementations
      implementationComponents := components
      dependentComponents := dependents
      referenceLocations := resolved.referenceLocations
      relatedTests := tests
      relatedRunners := runners
      qualityGates := gates }

def analyzeResolvedTarget (resolver : ImpactTargetResolver) (resolved : ResolvedImpactTarget)
    (primaryComponentId : Option String) (options : ChangeOptions) : PyResult ChangeImpact := do
  let items ← itemsOf resolver resolved primaryComponentId options
  let dependentEdges ← dependentComponentEdges resolver.repository items.primaryComponent
    items.dependentComponents
  let value ← targetValue resolved
  let evidence ← ChangeEvidenceAssembler.assemble items value resolved.evidencePath
    dependentEdges
  let truthCoverage ← TruthCoverageService.changeTruthCoverageFromParts items
    resolved.evidencePath
  let provenance ← changeProvenance items resolved.evidencePath
  let impact : ChangeImpact :=
    { toChangeItems := items
      evidence := evidence
      truthCoverage := truthCoverage
      provenance := provenance }
  validated (changeImpactChecks impact) impact

def resolveOptions (options : ChangeOptions) : ResolveOptions :=
  { referencePreviewLimit := options.referencePreviewLimit
    testPreviewLimit := options.testPreviewLimit
    includeReferenceLocations :=
      options.includeReferenceLocations && options.evidenceTier = .semantic
    includeFileContextImplementationLocations :=
      options.includeImplementationLocations && options.evidenceTier = .semantic
    evidenceTier := options.evidenceTier }

def analyzeChange (service : ChangeImpactService) (target : ChangeTarget)
    (options : ChangeOptions) : PyResult ChangeImpact := do
  let resolver := service.targetResolver
  let resolved ← resolver.resolve target (resolveOptions options)
  match resolved.targetKind with
  | .symbol | .file =>
      analyzeResolvedTarget resolver resolved resolved.filePrimaryComponentId options
  | .owner =>
      analyzeResolvedTarget resolver resolved resolved.ownerPrimaryComponentId options

end ChangeImpactService

/-! ## The summary of an impact -/

structure ImpactSummary where
  targetKind : TargetKind
  owner : OwnedNodeInfo
  primaryComponentId : Option String
  dependentComponentCount : ℕ
  dependentComponentIdsPreview : List String
  referenceCount : ℕ
  referencesPreview : List CodeLocation
  relatedTestCount : ℕ
  relatedTestIdsPreview : List String
  provenance : List ProvenanceEntry
  deriving DecidableEq

structure ImpactPreviewLimits where
  referencePreviewLimit : ℕ := 20
  dependentPreviewLimit : ℕ := 20
  testPreviewLimit : ℕ := 20

structure ImpactService where
  targetResolver : ImpactTargetResolver

namespace ImpactService

def parameters : List String :=
  ["repository", "ownership_index", "context_service", "component_context_resolver",
    "code_reference_service"]

/-- The constructor hands its own arguments on to the resolver. -/
def create (repository : Repository) (arguments : List AnalysisDependency) :
    PyResult ImpactService := do
  let _ ← bindArguments "ImpactService.__init__" parameters arguments
  let targetResolver ← ImpactTargetResolver.create repository
    [.repository, .ownershipIndex, .contextService, .componentContextResolver,
      .codeReferenceService]
  pure ⟨targetResolver⟩

def componentDependentsOrEmpty (repository : Repository) (componentId : Option String) :
    PyResult (List String) :=
  match componentId with
  | none => .ok []
  | some componentId => repository.getComponentDependents componentId

def impactProvenance (resolved : ResolvedImpactTarget) (dependentIds : List String) :
    PyResult (List ProvenanceEntry) := do
  let symbolPath := resolved.evidencePath
  let ownership ← ProvenanceEntry.create .derived .ownership none
    ("impact analysis anchored to owner `" ++ resolved.owner.id ++ "` via ownership index")
    symbolPath.toList
  let dependents ← entryWhen (!dependentIds.isEmpty)
    (derivedSummaryProvenance .manifest
      ("dependent component impact derived from " ++ toString dependentIds.length ++
        " dependency edges")
      [] none)
  let references ← entryWhen (!resolved.referenceLocations.isEmpty && symbolPath.isSome)
    (derivedSummaryProvenance .lsp
      "reference impact derived from LSP definition/reference results" symbolPath.toList
      (some (if symbolPath.any fun path => endsWith path.toLower ".py" then
        "basedpyright"
      else
        "typescript-language-server")))
  let tests ← entryWhen (!resolved.relatedTests.isEmpty)
    (summarizedTestProvenance resolved.relatedTests "related test impact")
  pure (ownership :: (dependents ++ references ++ tests))

def analyzeImpact (service : ImpactService) (target : ChangeTarget)
    (limits : ImpactPreviewLimits) : PyResult ImpactSummary := do
  let resolver := service.targetResolver
  let resolved ← resolver.resolve target
    { referencePreviewLimit := limits.referencePreviewLimit
      testPreviewLimit := limits.testPreviewLimit }
  let primaryComponentId :=
    match resolved.targetKind with
    | .symbol | .owner => resolved.ownerPrimaryComponentId
    | .file => resolved.filePrimaryComponentId
  let dependentIds ← componentDependentsOrEmpty resolver.repository primaryComponentId
  let provenance ← impactProvenance resolved dependentIds
  pure
    { targetKind := resolved.targetKind
      owner := resolved.owner
      primaryComponentId := primaryComponentId
      dependentComponentCount := dependentIds.length
      dependentComponentIdsPreview := dependentIds.take limits.dependentPreviewLimit
      referenceCount := resolved.referenceLocations.length
      referencesPreview := resolved.referenceLocations.take limits.referencePreviewLimit
      relatedTestCount := resolved.relatedTests.length
      relatedTestIdsPreview :=
        (resolved.relatedTests.take limits.testPreviewLimit).map ResolvedRelatedTest.testId
      provenance := provenance }

end ImpactService

/-! ## The operations of the repository -/

namespace Repository

/-- `_build_change_impact_service`; the ownership index is built first. -/
def buildChangeImpactService (repository : Repository) : PyResult ChangeImpactService := do
  let _ ← repository.buildOwnershipIndex
  ChangeImpactService.create repository
    [.repository, .ownershipIndex, .contextService, .componentContextResolver,
      .codeReferenceService, .fileSemanticFactsService, .truthCoverageService]

/-- `_build_impact_service`; the ownership index is built first. -/
def buildImpactService (repository : Repository) : PyResult ImpactService := do
  let _ ← repository.buildOwnershipIndex
  ImpactService.create repository
    [.repository, .ownershipIndex, .contextService, .componentContextResolver,
      .codeReferenceService]

def analyzeChange (repository : Repository) (target : ChangeTarget)
    (options : ChangeOptions) : PyResult ChangeImpact := do
  let service ← repository.buildChangeImpactService
  service.analyzeChange target options

def analyzeImpact (repository : Repository) (target : ChangeTarget)
    (limits : ImpactPreviewLimits) : PyResult ImpactSummary := do
  let service ← repository.buildImpactService
  service.analyzeImpact target limits

end Repository

/-! ## The services which are constructed -/

theorem bindArguments_ok
    {method : String} {parameters : List String} {arguments : List AnalysisDependency}
    (hlength : arguments.length = parameters.length) :
    bindArguments method parameters arguments = .ok (parameters.zip arguments) := by
  unfold bindArguments
  rw [if_neg (by omega), if_neg]
  simp [hlength]

theorem ImpactTargetResolver.create_with_facts (repository : Repository) :
    ImpactTargetResolver.create repository
      [.repository, .ownershipIndex, .contextService, .componentContextResolver,
        .codeReferenceService, .fileSemanticFactsService] = .ok ⟨repository⟩ := by
  unfold ImpactTargetResolver.create
  rw [bindArguments_ok rfl]
  rfl

namespace Repository

theorem buildChangeImpactService_eq (repository : Repository) :
    repository.buildChangeImpactService =
      repository.buildOwnershipIndex.bind fun _ => .ok ⟨⟨repository⟩⟩ := by
  unfold buildChangeImpactService ChangeImpactService.create
  rw [bindArguments_ok rfl, ImpactTargetResolver.create_with_facts]
  rfl

/-- Once the ownership index is built, the change is analysed by a service over the repository. -/
theorem analyzeChange_eq (repository : Repository) (target : ChangeTarget)
    (options : ChangeOptions) :
    repository.analyzeChange target options =
      repository.buildOwnershipIndex.bind fun _ =>
        (⟨⟨repository⟩⟩ : ChangeImpactService).analyzeChange target options := by
  unfold analyzeChange
  rw [buildChangeImpactService_eq]
  cases repository.buildOwnershipIndex with
  | error exception => rfl
  | ok index => rfl

end Repository

end SuitCode
