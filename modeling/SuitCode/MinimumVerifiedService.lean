import SuitCode.SymbolContext
import SuitCode.MinimumVerifiedMinimizer

/-!
# The minimum verified change set of a target

Resolution of the target, the passes which choose tests, builds, runners and
quality operations, the passes which explain what is missing, and the service
which runs them in order.
-/

namespace SuitCode

open PosixText KeyedList

/-! ## Resolution of the target -/

structure ResolvedMinimumTarget where
  targetKind : TargetKind
  targetAnchorId : String
  owner : OwnedNodeInfo
  primaryComponent : Option Component
  evidencePath : Option String
  relevantFiles : List String
  ownerFiles : List FileInfo
  deriving DecidableEq, Repr

namespace ResolvedMinimumTarget

/-- `resolved.evidence_path or resolved.owner.id`. -/
def descriptor (resolved : ResolvedMinimumTarget) : String :=
  (orText resolved.evidencePath (some resolved.owner.id)).getD ""

/-- `resolved.relevant_files[:10] or (evidence path, if any)`. -/
def evidencePaths (resolved : ResolvedMinimumTarget) : List String :=
  if (resolved.relevantFiles.take 10).isEmpty then
    resolved.evidencePath.toList
  else
    resolved.relevantFiles.take 10

end ResolvedMinimumTarget

namespace Repository

def componentById (repository : Repository) (componentId : Option String) :
    PyResult (Option Component) :=
  match componentId with
  | none => .ok none
  | some componentId =>
      match repository.getComponents.find? fun component => component.id = componentId with
      | some component => .ok (some component)
      | none =>
          raiseValueError
            ("resolved primary component does not exist: `" ++ componentId ++ "`")

def primaryComponentForFile (repository : Repository)
    (repositoryRelPath ownerId : String) : PyResult (Option Component) := do
  let componentId ← repository.primaryComponentIdForFile repositoryRelPath ownerId
  repository.componentById componentId

def primaryComponentForOwner (repository : Repository) (ownerId : String) :
    PyResult (Option Component) := do
  let componentId ← repository.primaryComponentIdForOwner ownerId
  repository.componentById componentId

def resolveTarget (repository : Repository) (target : ChangeTarget) :
    PyResult ResolvedMinimumTarget :=
  match target with
  | .file repositoryRelPath => do
      let fileOwner ← repository.getFileOwner repositoryRelPath
      let evidencePath := fileOwner.fileInfo.repositoryRelPath
      let primaryComponent ←
        repository.primaryComponentForFile evidencePath fileOwner.owner.id
      let ownerFiles ← repository.listFilesByOwner fileOwner.owner.id
      pure
        { targetKind := .file
          targetAnchorId := "change_target:file:" ++ evidencePath
          owner := fileOwner.owner
          primaryComponent := primaryComponent
          evidencePath := some evidencePath
          relevantFiles := [evidencePath]
          ownerFiles := ownerFiles }
  | .symbol symbolId => do
      let symbolContext ← repository.describeSymbolContext symbolId 1 1
      let evidencePath ← symbolContext.symbol.textAttribute "path"
      let primaryComponent ←
        repository.primaryComponentForFile evidencePath symbolContext.owner.id
      let ownerFiles ← repository.listFilesByOwner symbolContext.owner.id
      pure
        { targetKind := .symbol
          targetAnchorId := "change_target:symbol:" ++ symbolId
          owner := symbolContext.owner
          primaryComponent := primaryComponent
          evidencePath := some evidencePath
          relevantFiles := [evidencePath]
          ownerFiles := ownerFiles }
  | .owner ownerId => do
      let owner ← repository.resolveOwner ownerId
      let ownerFiles ← repository.listFilesByOwner owner.id
      let primaryComponent ← repository.primaryComponentForOwner owner.id
      pure
        { targetKind := .owner
          targetAnchorId := "change_target:owner:" ++ owner.id
          owner := owner
          primaryComponent := primaryComponent
          evidencePath := none
          relevantFiles :=
            sortedBy id (dedupeBy id (ownerFiles.map FileInfo.repositoryRelPath))
          ownerFiles := ownerFiles }

/-! ## Candidates -/

def relatedTestsFor (repository : Repository) (resolved : ResolvedMinimumTarget) :
    PyResult (List ResolvedRelatedTest) :=
  match resolved.targetKind, resolved.evidencePath with
  | .owner, _ => do
      let target ← RelatedTestTarget.ofOwner resolved.owner.id
      repository.getRelatedTests target
  | _, some evidencePath => do
      let target ← RelatedTestTarget.ofFile evidencePath
      repository.getRelatedTests target
  | _, none => .error .assertionError

def runnerActionsFor (repository : Repository) (ownerId : String) :
    PyResult (List RepositoryAction) :=
  repository.listActions ⟨.runnerId ownerId, [.runnerExecution]⟩

def resolveDependentComponent (repository : Repository) (primaryComponentId : String)
    (dependentId : String) : PyResult (Option ResolvedDependentComponent) :=
  match repository.getComponents.find? fun component => component.id = dependentId with
  | none => .ok none
  | some component => do
      let edges ← repository.componentDependencyEdgesOf dependentId
      let dependencyEdges := edges.filter fun edge =>
        edge.targetKind = .component && edge.targetId = primaryComponentId
      if dependencyEdges.isEmpty then
        pure none
      else
        pure (some ⟨component, dependencyEdges⟩)

def directDependentComponents (repository : Repository)
    (resolved : ResolvedMinimumTarget) : PyResult (List ResolvedDependentComponent) :=
  match resolved.primaryComponent with
  | none => .ok []
  | some primaryComponent => do
      let dependentIds ← repository.getComponentDependents primaryComponent.id
      let dependents ←
        dependentIds.mapM (repository.resolveDependentComponent primaryComponent.id)
      pure (sortedBy (fun item => item.component.id) (dependents.filterMap id))

def asDependentTest (dependent : ResolvedDependentComponent)
    (related : ResolvedRelatedTest) : ResolvedRelatedTest :=
  { relatedMatch :=
      { testDefinition := related.testDefinition
        relationReason := .dependentComponent
        matchedOwnerId := some dependent.component.id
        matchedRepositoryRelPath := none }
    discoveredTest := related.discoveredTest
    sameTest := related.sameTest }

def relatedTestsOfDependent (repository : Repository)
    (dependent : ResolvedDependentComponent) :
    PyResult (List (ResolvedRelatedTest × List ProvenanceEntry)) := do
  let target ← RelatedTestTarget.ofOwner dependent.component.id
  let related ← repository.getRelatedTests target
  pure (related.map fun test => (asDependentTest dependent test, dependent.dependencyProvenance))

def relatedTestsForDependentComponents (repository : Repository)
    (dependents : List ResolvedDependentComponent) :
    PyResult (List (ResolvedRelatedTest × List ProvenanceEntry)) := do
  let candidates ← dependents.mapM repository.relatedTestsOfDependent
  pure (dedupeBy (fun candidate => candidate.1.testId) candidates.flatten)

/-! ## Artifacts -/

def longestRoot : List String → String
  | [] => ""
  | root :: roots =>
      roots.foldl
        (fun longest next => if longest.length < next.length then next else longest) root

def artifactMemberOf (component : Component) (evidencePath : String) :
    Option (String × String) :=
  let normalized := normalizedMemberPath evidencePath
  if component.sourceRoots.any (isAtOrBelow normalized) then
    none
  else
    let matchingRoots := component.artifactPaths.filter (isAtOrBelow normalized)
    if matchingRoots.isEmpty then
      none
    else
      let artifactRoot := longestRoot matchingRoots
      if artifactRoot ≠ normalized && '/' ∈ normalized.toList then
        some (component.id, parentText normalized)
      else
        some (component.id, artifactRoot)

def artifactMemberForTarget (repository : Repository)
    (resolved : ResolvedMinimumTarget) : Option (String × String) :=
  match resolved.targetKind, resolved.evidencePath with
  | .file, some evidencePath =>
      if resolved.owner.kind ≠ .component then
        none
      else
        match repository.getComponents.find? fun component =>
            component.id = resolved.owner.id with
        | none => none
        | some component => artifactMemberOf component evidencePath
  | _, _ => none

def structuredArtifactsOf (repository : Repository) :
    List String → PyResult (Option (List StructuredArtifact))
  | [] => .ok (some [])
  | path :: paths => do
      let artifact ← repository.describeStructuredArtifact path
      match artifact with
      | none => pure none
      | some artifact => do
          let artifacts ← repository.structuredArtifactsOf paths
          pure (artifacts.map fun rest => artifact :: rest)

def structuredArtifactsForTarget (repository : Repository)
    (resolved : ResolvedMinimumTarget) : PyResult (List StructuredArtifact) := do
  let artifacts ← repository.structuredArtifactsOf resolved.relevantFiles
  pure (artifacts.getD [])

end Repository

/-! ## Candidates of an artifact and of source -/

def dependentsFor (repository : Repository) (resolved : ResolvedMinimumTarget)
    (artifactMember : Option (String × String))
    (structuredArtifacts : List StructuredArtifact) :
    PyResult (List ResolvedDependentComponent) :=
  if !structuredArtifacts.isEmpty || artifactMember.isSome then pure []
  else repository.directDependentComponents resolved

def relatedTestsUnlessArtifact (repository : Repository) (resolved : ResolvedMinimumTarget)
    (artifactMember : Option (String × String)) : PyResult (List ResolvedRelatedTest) :=
  if artifactMember.isSome then pure [] else repository.relatedTestsFor resolved

def buildTargetsUnlessArtifact (repository : Repository)
    (artifactMember : Option (String × String)) : PyResult (List BuildTargetDescription) :=
  if artifactMember.isSome then pure [] else repository.listBuildTargets

def planDirectBuilds (repository : Repository) (resolved : ResolvedMinimumTarget)
    (artifactMember : Option (String × String)) : PyResult MinimizedBuildTargets :=
  if artifactMember.isSome then
    pure ⟨[], []⟩
  else do
    let targets ← repository.listBuildTargets
    minimizeBuildTargets resolved.owner resolved.primaryComponent targets []

/-! ## Dependent tests and builds -/

def dependentTestExclusion (replacementIds : List String)
    (candidate : ResolvedRelatedTest × List ProvenanceEntry) :
    PyResult ExcludedMinimumVerifiedItem :=
  exclusion .testTarget candidate.1.testId .dependentTestReplacedByNarrowerBuild
    "direct dependent component test replaced by narrower deterministic build surface"
    replacementIds (mergedProvenance [candidate.2, candidate.1.provenance])

def dependentTestFor (repository : Repository) (targetAnchorId : String)
    (candidate : ResolvedRelatedTest × List ProvenanceEntry) :
    PyResult MinimumVerifiedTestTarget := do
  let description ← repository.describeTestTarget candidate.1.testId
  dependentTestItem targetAnchorId candidate.1 description candidate.2
    (humanTestReason candidate.1)

def dependentTestsAsked (repository : Repository)
    (dependents : List ResolvedDependentComponent) (noTests : Bool) :
    PyResult (List (ResolvedRelatedTest × List ProvenanceEntry)) :=
  if noTests && !dependents.isEmpty then
    repository.relatedTestsForDependentComponents dependents
  else
    pure []

/-- Tests of dependent components stand in when the target has none of its own:
as exclusions when there is a build to replace them, as tests otherwise. -/
def planDependentTests (repository : Repository) (targetAnchorId : String)
    (dependents : List ResolvedDependentComponent)
    (tests : List MinimumVerifiedTestTarget)
    (buildTargets : List MinimumVerifiedBuildTarget) : PyResult MinimizedTests := do
  let candidates ← dependentTestsAsked repository dependents tests.isEmpty
  if candidates.isEmpty then
    pure ⟨tests, []⟩
  else if !buildTargets.isEmpty then
    let exclusions ← candidates.mapM
      (dependentTestExclusion (buildTargets.map MinimumVerifiedBuildTarget.actionId))
    pure ⟨tests, exclusions⟩
  else
    let dependentTests ← candidates.mapM (dependentTestFor repository targetAnchorId)
    pure ⟨dependentTests, []⟩

def planDependentBuilds (repository : Repository) (resolved : ResolvedMinimumTarget)
    (artifactMember : Option (String × String))
    (dependents : List ResolvedDependentComponent)
    (tests : List MinimumVerifiedTestTarget) (builds : MinimizedBuildTargets) :
    PyResult MinimizedBuildTargets :=
  if artifactMember.isNone && tests.isEmpty && builds.buildTargets.isEmpty &&
      !dependents.isEmpty then do
    let targets ← repository.listBuildTargets
    minimizeBuildTargets resolved.owner resolved.primaryComponent targets dependents
  else
    pure builds

def runnerActionsAsked (repository : Repository) (resolved : ResolvedMinimumTarget) :
    PyResult (List RepositoryAction) :=
  if resolved.owner.kind = .runner then
    repository.runnerActionsFor resolved.owner.id
  else
    pure []

def planRunnerActions (repository : Repository) (resolved : ResolvedMinimumTarget) :
    PyResult (List MinimumVerifiedRunnerAction) := do
  let actions ← runnerActionsAsked repository resolved
  if resolved.owner.kind = .runner then
    runnerItems resolved.owner actions
  else
    pure []

def qualityProviderIdsFor (repository : Repository) (resolved : ResolvedMinimumTarget)
    (artifactMember : Option (String × String)) : PyResult (List String) :=
  if !resolved.relevantFiles.isEmpty && artifactMember.isNone then
    repository.providerIdsForFiles resolved.relevantFiles
  else
    pure []

def planQualityOperations (repository : Repository) (resolved : ResolvedMinimumTarget)
    (artifactMember : Option (String × String)) :
    PyResult (List (MinimumVerifiedQualityOperation × MinimumVerifiedQualityOperation)) := do
  let providerIds ← qualityProviderIdsFor repository resolved artifactMember
  buildOperations resolved.targetAnchorId providerIds resolved.relevantFiles

/-! ## Explanations of what is missing -/

structure PlannedSurfaces where
  tests : List MinimumVerifiedTestTarget
  buildTargets : List MinimumVerifiedBuildTarget
  runnerActions : List MinimumVerifiedRunnerAction
  qualityValidationOperations : List MinimumVerifiedQualityOperation
  qualityHygieneOperations : List MinimumVerifiedQualityOperation
  deriving DecidableEq, Repr

def artifactMemberExclusion (resolved : ResolvedMinimumTarget)
    (member : String × String) : PyResult ExcludedMinimumVerifiedItem := do
  let entry ← derivedSummaryProvenance .ownership
    "explicit artifact member target has no inherited deterministic source validation surface"
    resolved.evidencePaths none
  exclusion .validationSurface ("validation_surface:artifact:" ++ resolved.descriptor)
    .noDeterministicValidationSurfaceForArtifactMember
    ("target is an explicit owned artifact member under `" ++ member.2 ++
      "` for component `" ++ member.1 ++
      "` and no narrower deterministic validation surface is available")
    [] [entry]

def structuredArtifactExclusion (resolved : ResolvedMinimumTarget)
    (artifacts : List StructuredArtifact) : PyResult ExcludedMinimumVerifiedItem := do
  let labels := sortedBy id (dedupeBy id
    (artifacts.map fun artifact => artifact.artifactKind.value))
  let entry ← derivedSummaryProvenance .document
    "provider-owned structured artifact target has no deterministic validation surface"
    resolved.evidencePaths (some "structured_artifact")
  exclusion .validationSurface ("validation_surface:" ++ resolved.descriptor)
    .noDeterministicValidationSurfacesForProviderOwnedArtifact
    ("target is provider-owned structured artifact content and exposes no " ++
      "deterministic validation surface; supported artifact kinds: " ++ join ", " labels)
    [] [entry]

def isFrontendSourcePath (repositoryRelPath : String) : Bool :=
  let normalized := (replaceChar '\\' '/' repositoryRelPath).toLower
  [".tsx", ".jsx", ".ts", ".js", ".mts", ".cts", ".mjs", ".cjs"].any (endsWith normalized)

def isFrontendBuildPrimarySurface (resolved : ResolvedMinimumTarget)
    (surfaces : PlannedSurfaces) : Bool :=
  !surfaces.buildTargets.isEmpty && surfaces.runnerActions.isEmpty &&
    surfaces.buildTargets.all (fun item => item.target.providerId = "npm") &&
    surfaces.qualityValidationOperations.all (fun item => item.providerId = "npm") &&
    surfaces.qualityHygieneOperations.all (fun item => item.providerId = "npm") &&
    !resolved.relevantFiles.isEmpty && resolved.relevantFiles.all isFrontendSourcePath

def remainingSurfaces (surfaces : PlannedSurfaces) : List String :=
  (if surfaces.buildTargets.isEmpty then [] else ["build"]) ++
    (if surfaces.runnerActions.isEmpty then [] else ["runner"]) ++
    (if surfaces.qualityValidationOperations.isEmpty &&
        surfaces.qualityHygieneOperations.isEmpty then [] else ["quality"])

def missingTestsReason (frontend : Bool) (remaining : List String) : String :=
  let noTests := "no deterministic test targets were discovered for this target; "
  if frontend then
    "no finer deterministic frontend test target was discovered for this target; " ++
      "build is the primary deterministic frontend validation surface currently available"
  else
    match remaining with
    | [surface] =>
        noTests ++ surface ++ " surface is the only deterministic validation available"
    | [first, second] =>
        noTests ++ first ++ " and " ++ second ++
          " surfaces are the only deterministic validation available"
    | _ =>
        noTests ++ join ", " remaining.dropLast ++ ", and " ++ remaining.getLastD "" ++
          " surfaces are the only deterministic validation available"

def availabilityExclusions (repository : Repository) (resolved : ResolvedMinimumTarget)
    (artifactMember : Option (String × String)) (surfaces : PlannedSurfaces) :
    PyResult (List ExcludedMinimumVerifiedItem) :=
  match artifactMember with
  | some member => do
      let excluded ← artifactMemberExclusion resolved member
      pure [excluded]
  | none => do
      let artifacts ← repository.structuredArtifactsForTarget resolved
      if !artifacts.isEmpty then
        let excluded ← structuredArtifactExclusion resolved artifacts
        pure [excluded]
      else if !surfaces.tests.isEmpty || (remainingSurfaces surfaces).isEmpty then
        pure []
      else
        let entry ← derivedSummaryProvenance .ownership
          ("absence of deterministic test targets established from provider-owned " ++
            "validation surfaces")
          resolved.evidencePaths none
        let excluded ← exclusion .testTarget ("test_surface:" ++ resolved.owner.id)
          .noDeterministicTestTargetsAvailable
          (missingTestsReason (isFrontendBuildPrimarySurface resolved surfaces)
            (remainingSurfaces surfaces))
          [] [entry]
        pure [excluded]

def isSharedFileSurface (resolved : ResolvedMinimumTarget) (surfaces : PlannedSurfaces) :
    Bool :=
  resolved.targetKind = .file && surfaces.runnerActions.isEmpty &&
    surfaces.qualityValidationOperations.isEmpty &&
    surfaces.qualityHygieneOperations.isEmpty &&
    !(surfaces.tests.isEmpty && surfaces.buildTargets.isEmpty) &&
    surfaces.tests.all (fun item => item.inclusionReason = dependentTestReason) &&
    surfaces.buildTargets.all (fun item => item.inclusionReason = dependentBuildReason)

def sharedFileSurfaceExplanations (resolved : ResolvedMinimumTarget)
    (surfaces : PlannedSurfaces) : PyResult (List ExcludedMinimumVerifiedItem) :=
  if isSharedFileSurface resolved surfaces then do
    let entry ← derivedSummaryProvenance .ownership
      ("file target has no narrower direct deterministic validation surface; dependent " ++
        "validation surfaces are required because the file is shared")
      resolved.evidencePaths none
    let excluded ← exclusion .validationSurface
      ("validation_surface:breadth:" ++ resolved.descriptor)
      .noNarrowerDirectValidationSurfaceForFileTarget
      ("this file has no narrower direct deterministic validation surface; " ++
        "the listed validations are dependent-package surfaces required because the " ++
        "file is shared")
      []
      (mergedProvenance
        [surfaces.tests.flatMap MinimumVerifiedTestTarget.provenance,
          surfaces.buildTargets.flatMap MinimumVerifiedBuildTarget.provenance, [entry]])
    pure [excluded]
  else
    pure []

/-! ## The service -/

def overallProvenance (surfaces : PlannedSurfaces) (hasExclusions : Bool) :
    PyResult (List ProvenanceEntry) := do
  let merged := mergedProvenance
    (surfaces.tests.map MinimumVerifiedTestTarget.provenance ++
      surfaces.buildTargets.map MinimumVerifiedBuildTarget.provenance ++
      surfaces.runnerActions.map MinimumVerifiedRunnerAction.provenance ++
      surfaces.qualityValidationOperations.map MinimumVerifiedQualityOperation.provenance ++
      surfaces.qualityHygieneOperations.map MinimumVerifiedQualityOperation.provenance)
  if hasExclusions then
    let paths ← if merged.isEmpty then pure [] else mergeProvenancePaths merged 10
    let entry ← derivedSummaryProvenance .ownership
      ("minimum verified change set excludes supersets and weaker candidates " ++
        "deterministically")
      (paths.take 10) none
    pure (merged ++ [entry])
  else
    pure merged

def validateNonEmptyChangeSet (resolved : ResolvedMinimumTarget)
    (surfaces : PlannedSurfaces) (availability : List ExcludedMinimumVerifiedItem) :
    PyResult Unit :=
  if surfaces.tests.isEmpty && surfaces.buildTargets.isEmpty &&
      surfaces.runnerActions.isEmpty && surfaces.qualityValidationOperations.isEmpty &&
      surfaces.qualityHygieneOperations.isEmpty && availability.isEmpty then
    raiseValueError
      ("no deterministic validation surfaces were found for " ++ resolved.targetKind.value ++
        " target `" ++ resolved.descriptor ++ "`")
  else
    .ok ()

def assembleChangeSet (repository : Repository) (resolved : ResolvedMinimumTarget)
    (artifactMember : Option (String × String)) (surfaces : PlannedSurfaces)
    (planningExclusions : List ExcludedMinimumVerifiedItem) :
    PyResult MinimumVerifiedChangeSet := do
  let availability ← availabilityExclusions repository resolved artifactMember surfaces
  let breadth ← sharedFileSurfaceExplanations resolved surfaces
  let excludedItems := planningExclusions ++ breadth ++ availability
  let provenance ← overallProvenance surfaces (!excludedItems.isEmpty)
  validateNonEmptyChangeSet resolved surfaces availability
  MinimumVerifiedChangeSet.create
    { targetKind := resolved.targetKind
      owner := resolved.owner
      primaryComponent := resolved.primaryComponent
      tests := surfaces.tests
      buildTargets := surfaces.buildTargets
      runnerActions := surfaces.runnerActions
      qualityValidationOperations := surfaces.qualityValidationOperations
      qualityHygieneOperations := surfaces.qualityHygieneOperations
      excludedItems := excludedItems
      provenance := provenance }

def getMinimumVerifiedChangeSet (repository : Repository) (target : ChangeTarget) :
    PyResult MinimumVerifiedChangeSet := do
  let resolved ← repository.resolveTarget target
  let artifactMember := repository.artifactMemberForTarget resolved
  let structuredArtifacts ← repository.structuredArtifactsForTarget resolved
  let dependents ← dependentsFor repository resolved artifactMember structuredArtifacts
  let related ← relatedTestsUnlessArtifact repository resolved artifactMember
  let minimized ← minimizeTests repository resolved.targetAnchorId related
  let builds ← planDirectBuilds repository resolved artifactMember
  let planned ← planDependentTests repository resolved.targetAnchorId dependents
    minimized.tests builds.buildTargets
  let finalBuilds ← planDependentBuilds repository resolved artifactMember dependents
    planned.tests builds
  let runnerActions ← planRunnerActions repository resolved
  let operations ← planQualityOperations repository resolved artifactMember
  assembleChangeSet repository resolved artifactMember
    { tests := planned.tests
      buildTargets := finalBuilds.buildTargets
      runnerActions := runnerActions
      qualityValidationOperations := operations.map Prod.fst
      qualityHygieneOperations := operations.map Prod.snd }
    (minimized.exclusions ++ planned.exclusions ++ finalBuilds.exclusions)

end SuitCode
