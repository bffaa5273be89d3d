import SuitCode.Library.KeyedList
import SuitCode.RepositoryModels

/-!
# The repository and its services

A repository is a list of provider attachments with the roles detected for
them.  A provider is modelled by its answers; a provider which does not
implement an interface has the empty answers.  Over the answers this module
computes what the repository services compute: the ownership index, the
architecture, test, action, build and quality queries, and the component
context of a file or an owner.
-/

namespace SuitCode

open PosixText KeyedList

/-! ## Providers -/

inductive ProviderRole where
  | architecture
  | code
  | test
  | quality
  deriving DecidableEq, Repr

theorem noSymbols (_ : String) (_ : true = false) :
    (.ok [] : PyResult (List EntityInfo)) = .ok [] ∨
      ∃ message, (.ok [] : PyResult (List EntityInfo)) = raiseValueError message :=
  .inl rfl

theorem noTests_tagged : ∀ test ∈ ([] : List DiscoveredTestDefinition),
    startsWith test.testDefinition.id "test:" = true := by decide

theorem noActions_tagged :
    ∀ action ∈ ([] : List RepositoryAction), startsWith action.id "action:" = true := by decide

/-- The answers of one provider attachment.  The symbol, definition, reference and
implementation answers come from a language server, which is asked about the
`languageServerFiles`; for another file there are no symbols.  The last fields state
this, and how all providers build the ids of their tests and of their actions. -/
structure Provider where
  providerId : String
  attachmentRootRelPath : String := "."
  components : List Component := []
  aggregators : List Aggregator := []
  runners : List Runner := []
  packageManagers : List PackageManager := []
  files : List FileInfo := []
  componentDependencyEdges :
    Option String → PyResult (List ComponentDependencyEdge) := fun _ => .ok []
  discoveredTests : List DiscoveredTestDefinition := []
  relatedTests : RelatedTestTarget → PyResult (List RelatedTestMatch) := fun _ => .ok []
  testTargets : String → PyResult TestTargetDescription := fun _ => raiseValueError ""
  actions : List RepositoryAction := []
  structuredArtifact : String → PyResult (Option StructuredArtifact) := fun _ => .ok none
  symbolsInFile : String → PyResult (List EntityInfo) := fun _ => .ok []
  definitions : String → ℕ → ℕ → PyResult (List CodeLocation) := fun _ _ _ => .ok []
  references : String → ℕ → ℕ → PyResult (List CodeLocation) := fun _ _ _ => .ok []
  fileImplementationLocations :
    String → PyResult (List CodeLocation) := fun _ => .ok []
  structuralSymbolsInFile : String → PyResult (List EntityInfo) := fun _ => .ok []
  fileRelationships : String → PyResult (List FileRelationshipRef) := fun _ => .ok []
  structuralFileRelationships :
    String → PyResult (List FileRelationshipRef) := fun _ => .ok []
  fileRenderEdges : String → PyResult (List RenderEdgeRef) := fun _ => .ok []
  fileInvariantFindings : String → PyResult (List InvariantFindingRef) := fun _ => .ok []
  fileLocalFlowEdges : String → PyResult (List StaticFlowEdgeRef) := fun _ => .ok []
  languageServerFiles : String → Bool := fun _ => true
  otherFiles_without_symbols :
    ∀ path, languageServerFiles path = false →
      symbolsInFile path = .ok [] ∨
        ∃ message, symbolsInFile path = raiseValueError message := by
      first | exact noSymbols | simp
  testIds_tagged :
    ∀ test ∈ discoveredTests, startsWith test.testDefinition.id "test:" = true := by
      first | exact noTests_tagged | decide
  actionIds_tagged :
    ∀ action ∈ actions, startsWith action.id "action:" = true := by
      first | exact noActions_tagged | decide

structure Repository where
  root : String
  providers : List Provider
  providerRoles : String → List ProviderRole

namespace Repository

def providersForRole (repository : Repository) (role : ProviderRole) : List Provider :=
  repository.providers.filter fun provider =>
    role ∈ repository.providerRoles provider.providerId

def providersById (repository : Repository) (providerId : String) : List Provider :=
  repository.providers.filter fun provider => provider.providerId = providerId

/-! ## Architecture -/

def getComponents (repository : Repository) : List Component :=
  sortedBy Component.id
    ((repository.providersForRole .architecture).flatMap Provider.components)

def getAggregators (repository : Repository) : List Aggregator :=
  sortedBy Aggregator.id
    ((repository.providersForRole .architecture).flatMap Provider.aggregators)

def getRunners (repository : Repository) : List Runner :=
  sortedBy Runner.id
    ((repository.providersForRole .architecture).flatMap Provider.runners)

def getPackageManagers (repository : Repository) : List PackageManager :=
  sortedBy PackageManager.id
    ((repository.providersForRole .architecture).flatMap Provider.packageManagers)

def getFiles (repository : Repository) : List FileInfo :=
  sortedBy FileInfo.id
    ((repository.providersForRole .architecture).flatMap Provider.files)

def indexComponents :
    List String → List (Component × Provider) → PyResult (List (String × Provider))
  | _, [] => .ok []
  | seen, (component, provider) :: rest =>
      if component.id ∈ seen then
        raiseValueError ("duplicate component id detected: `" ++ component.id ++ "`")
      else do
        let index ← indexComponents (component.id :: seen) rest
        pure ((component.id, provider) :: index)

def providerForComponentId (repository : Repository) (componentId : String) :
    PyResult Provider := do
  let index ← indexComponents []
    ((repository.providersForRole .architecture).flatMap fun provider =>
      provider.components.map fun component => (component, provider))
  match index.find? fun entry => entry.1 = componentId with
  | some entry => pure entry.2
  | none => raiseValueError ("unknown component id: `" ++ componentId ++ "`")

def dependencyEdgeSortKey (edge : ComponentDependencyEdge) :
    String ×ₗ String ×ₗ String ×ₗ String :=
  toLex (edge.sourceComponentId, toLex (edge.targetKind.value,
    toLex (edge.targetId, edge.dependencyScope.value)))

def allComponentDependencyEdges (repository : Repository) :
    PyResult (List ComponentDependencyEdge) := do
  let edges ← (repository.providersForRole .architecture).mapM fun provider =>
    provider.componentDependencyEdges none
  pure (sortedBy dependencyEdgeSortKey edges.flatten)

def componentDependencyEdgesOf (repository : Repository) (componentId : String) :
    PyResult (List ComponentDependencyEdge) := do
  let provider ← repository.providerForComponentId componentId
  let edges ← provider.componentDependencyEdges (some componentId)
  if edges.any fun edge => edge.sourceComponentId ≠ componentId then
    raiseValueError
      ("provider `" ++ provider.providerId ++
        "` returned dependency edges with mismatched source component for `" ++
        componentId ++ "`")
  else
    pure (sortedBy dependencyEdgeSortKey edges)

/-- `DependencyProjection.dependents_for_component`. -/
def dependentsForComponent (edges : List ComponentDependencyEdge)
    (componentId : String) : List String :=
  sortedBy id (dedupeBy id
    ((edges.filter fun edge =>
      edge.targetKind = .component && edge.targetId = componentId).map
        ComponentDependencyEdge.sourceComponentId))

def getComponentDependents (repository : Repository) (componentId : String) :
    PyResult (List String) := do
  let _ ← repository.providerForComponentId componentId
  let edges ← repository.allComponentDependencyEdges
  pure (dependentsForComponent edges componentId)

/-! ## Discovered tests -/

def indexDiscoveredTests :
    List String → List (DiscoveredTestDefinition × Provider) →
      PyResult (List (DiscoveredTestDefinition × Provider))
  | _, [] => .ok []
  | seen, (test, provider) :: rest =>
      if test.testDefinition.id ∈ seen then
        raiseValueError
          ("duplicate test id detected across providers: `" ++ test.testDefinition.id ++ "`")
      else do
        let index ← indexDiscoveredTests (test.testDefinition.id :: seen) rest
        pure ((test, provider) :: index)

def discoveredTestIndex (repository : Repository) :
    PyResult (List (DiscoveredTestDefinition × Provider)) :=
  indexDiscoveredTests []
    ((repository.providersForRole .test).flatMap fun provider =>
      provider.discoveredTests.map fun test => (test, provider))

def getDiscoveredTests (repository : Repository) :
    PyResult (List DiscoveredTestDefinition) := do
  let index ← repository.discoveredTestIndex
  pure (sortedBy (fun test => test.testDefinition.id) (index.map Prod.fst))

def getTests (repository : Repository) : PyResult (List TestDefinition) := do
  let tests ← repository.getDiscoveredTests
  pure (tests.map DiscoveredTestDefinition.testDefinition)

/-! ## Ownership -/

structure OwnershipIndex where
  root : String
  owners : List OwnedNodeInfo
  files : List FileInfo
  deriving DecidableEq, Repr

def ownerNodes (repository : Repository) : PyResult (List OwnedNodeInfo) := do
  let tests ← repository.getTests
  pure
    ((repository.getComponents.map fun node => ⟨node.id, .component, node.name⟩) ++
      (repository.getAggregators.map fun node => ⟨node.id, .aggregator, node.name⟩) ++
      (repository.getRunners.map fun node => ⟨node.id, .runner, node.name⟩) ++
      (repository.getPackageManagers.map fun node =>
        ⟨node.id, .packageManager, node.name⟩) ++
      (tests.map fun node => ⟨node.id, .testDefinition, node.name⟩))

/-- `_build_owner_index`, with the owners already accepted. -/
def buildOwnerIndex (root : String) :
    List OwnedNodeInfo → List OwnedNodeInfo → PyResult (List OwnedNodeInfo)
  | owners, [] => .ok owners
  | owners, node :: nodes =>
      if owners.any fun owner => owner.id = node.id then
        raiseValueError
          ("duplicate owner id detected for repository `" ++ root ++ "`: `" ++ node.id ++ "`")
      else
        buildOwnerIndex root (owners ++ [node]) nodes

/-- `_build_file_indexes`, with the files already accepted. -/
def buildFileIndexes (owners : List OwnedNodeInfo) :
    List FileInfo → List FileInfo → PyResult (List FileInfo)
  | files, [] => .ok files
  | files, fileInfo :: rest =>
      if !owners.any fun owner => owner.id = fileInfo.ownerId then
        raiseValueError
          ("file `" ++ fileInfo.repositoryRelPath ++ "` references unknown owner `" ++
            fileInfo.ownerId ++ "`")
      else if files.any fun file => file.repositoryRelPath = fileInfo.repositoryRelPath then
        raiseValueError
          ("duplicate file ownership detected for `" ++ fileInfo.repositoryRelPath ++ "`")
      else
        buildFileIndexes owners (files ++ [fileInfo]) rest

def buildOwnershipIndex (repository : Repository) : PyResult OwnershipIndex := do
  let nodes ← repository.ownerNodes
  let owners ← buildOwnerIndex repository.root [] nodes
  let files ← buildFileIndexes owners [] repository.getFiles
  pure ⟨repository.root, owners, files⟩

namespace OwnershipIndex

def ownerInfo (index : OwnershipIndex) (ownerId : String) : PyResult OwnedNodeInfo :=
  match index.owners.find? fun owner => owner.id = ownerId with
  | some owner => .ok owner
  | none =>
      raiseValueError
        ("unknown owner id for repository `" ++ index.root ++ "`: `" ++ ownerId ++ "`")

def ownerForFile (index : OwnershipIndex) (repositoryRelPath : String) :
    PyResult FileOwnerInfo :=
  match index.files.find? fun file => file.repositoryRelPath = repositoryRelPath with
  | some fileInfo => do
      let owner ← index.ownerInfo fileInfo.ownerId
      pure ⟨fileInfo, owner⟩
  | none =>
      raiseValueError ("unknown repository file owner for `" ++ repositoryRelPath ++ "`")

def filesForOwner (index : OwnershipIndex) (ownerId : String) :
    PyResult (List FileInfo) := do
  let _ ← index.ownerInfo ownerId
  pure (sortedBy FileInfo.repositoryRelPath
    (index.files.filter fun file => file.ownerId = ownerId))

end OwnershipIndex

def getFileOwner (repository : Repository) (repositoryRelPath : String) :
    PyResult FileOwnerInfo := do
  let index ← repository.buildOwnershipIndex
  index.ownerForFile repositoryRelPath

def listFilesByOwner (repository : Repository) (ownerId : String) :
    PyResult (List FileInfo) := do
  let index ← repository.buildOwnershipIndex
  index.filesForOwner ownerId

def resolveOwner (repository : Repository) (ownerId : String) : PyResult OwnedNodeInfo := do
  let index ← repository.buildOwnershipIndex
  index.ownerInfo ownerId

/-! ## Providers of an owner and of a file -/

def attachmentContainsPath (attachmentRootRelPath repositoryRelPath : String) : Bool :=
  let attachmentRoot := replaceChar '\\' '/' (stripSlashes (strip attachmentRootRelPath))
  let normalizedPath := replaceChar '\\' '/' (stripSlashes (strip repositoryRelPath))
  if attachmentRoot = "" || attachmentRoot = "." then
    true
  else
    isAtOrBelow normalizedPath attachmentRoot

def providerIdForOwner (repository : Repository) (ownerId : String) : PyResult String :=
  let normalized := strip ownerId
  if normalized = "" then
    raiseValueError "owner_id must not be empty"
  else
    match (normalized.toList.splitOn ':').map String.ofList with
    | _ :: part :: _ =>
        if isBlank part then
          raiseValueError ("owner id does not encode a provider id: `" ++ ownerId ++ "`")
        else if repository.providersById (strip part) = [] then
          raiseValueError
            ("owner id references unknown provider `" ++ strip part ++ "`: `" ++ ownerId ++ "`")
        else
          .ok (strip part)
    | _ => raiseValueError ("owner id does not encode a provider id: `" ++ ownerId ++ "`")

/-- `matched or providers`. -/
def orAll (matched providers : List Provider) : List Provider :=
  if matched.isEmpty then providers else matched

def providersForOwnerRole (repository : Repository) (ownerId : String)
    (role : ProviderRole) : PyResult (List Provider) := do
  let providerId ← repository.providerIdForOwner ownerId
  if role ∉ repository.providerRoles providerId then
    pure []
  else
    let providers := repository.providersById providerId
    if providers.length ≤ 1 then
      pure providers
    else
      let ownerFiles ← repository.listFilesByOwner ownerId
      if ownerFiles.isEmpty then
        pure providers
      else
        pure (orAll
          (providers.filter fun provider =>
            ownerFiles.any fun file =>
              attachmentContainsPath provider.attachmentRootRelPath file.repositoryRelPath)
          providers)

def providersForFileRole (repository : Repository) (repositoryRelPath : String)
    (role : ProviderRole) : PyResult (List Provider) := do
  let fileOwner ← repository.getFileOwner repositoryRelPath
  let providers ← repository.providersForOwnerRole fileOwner.owner.id role
  pure (orAll
    (providers.filter fun provider =>
      attachmentContainsPath provider.attachmentRootRelPath repositoryRelPath)
    providers)

def owningProvidersForFile (repository : Repository) (repositoryRelPath : String) :
    PyResult (List Provider) := do
  let fileOwner ← repository.getFileOwner repositoryRelPath
  let providerId ← repository.providerIdForOwner fileOwner.owner.id
  let providers := repository.providersById providerId
  pure (orAll
    (providers.filter fun provider =>
      attachmentContainsPath provider.attachmentRootRelPath repositoryRelPath)
    providers)

def firstStructuredArtifact (repositoryRelPath : String) :
    List Provider → PyResult (Option StructuredArtifact)
  | [] => .ok none
  | provider :: providers => do
      let artifact ← provider.structuredArtifact repositoryRelPath
      match artifact with
      | some artifact => pure (some artifact)
      | none => firstStructuredArtifact repositoryRelPath providers

def describeStructuredArtifact (repository : Repository) (repositoryRelPath : String) :
    PyResult (Option StructuredArtifact) := do
  let providers ← repository.owningProvidersForFile repositoryRelPath
  firstStructuredArtifact repositoryRelPath providers

/-! ## Related tests -/

def resolveRelatedTest (discovered : List DiscoveredTestDefinition)
    (relatedMatch : RelatedTestMatch) : PyResult ResolvedRelatedTest :=
  match hfind : discovered.find? fun test =>
      test.testDefinition.id = relatedMatch.testDefinition.id with
  | some test =>
      .ok ⟨relatedMatch, test, by
        have hid := List.find?_some hfind
        exact (of_decide_eq_true hid).symm⟩
  | none =>
      raiseValueError
        ("related test `" ++ relatedMatch.testDefinition.id ++
          "` has no discovered test metadata")

def relatedTestSortKey (test : ResolvedRelatedTest) :
    String ×ₗ String ×ₗ String ×ₗ String :=
  toLex (test.testId, toLex (test.relationReason.value,
    toLex (test.matchedOwnerId.getD "", test.matchedRepositoryRelPath.getD "")))

def testProvidersFor (repository : Repository) (target : RelatedTestTarget) :
    PyResult (List Provider) :=
  match target with
  | .owner ownerId => repository.providersForOwnerRole ownerId .test
  | .file repositoryRelPath => repository.providersForFileRole repositoryRelPath .test

def getRelatedTests (repository : Repository) (target : RelatedTestTarget) :
    PyResult (List ResolvedRelatedTest) := do
  let discovered ← repository.getDiscoveredTests
  let providers ← repository.testProvidersFor target
  let items ← providers.mapM fun provider => do
    let related ← provider.relatedTests target
    related.mapM (resolveRelatedTest discovered)
  pure (sortedBy relatedTestSortKey items.flatten)

def describeTestTarget (repository : Repository) (testId : String) :
    PyResult TestTargetDescription := do
  let index ← repository.discoveredTestIndex
  match index.find? fun entry => entry.1.testDefinition.id = testId with
  | none => raiseValueError ("unknown test id: `" ++ testId ++ "`")
  | some entry => do
      let description ← entry.2.testTargets testId
      if description.testDefinition.id ≠ testId then
        raiseValueError
          ("provider returned mismatched test target description id: expected `" ++
            testId ++ "`, got `" ++ description.testDefinition.id ++ "`")
      else
        pure description

/-! ## Actions and build targets -/

/-- `_all_actions`, with the ids already met. -/
def indexActions :
    List String → List (RepositoryAction × Provider) → PyResult (List RepositoryAction)
  | _, [] => .ok []
  | seen, (action, provider) :: rest =>
      if action.providerId ≠ provider.providerId then
        raiseValueError
          ("provider `" ++ provider.providerId ++ "` returned action `" ++ action.id ++
            "` with mismatched provider_id `" ++ action.providerId ++ "`")
      else if action.id ∈ seen then
        raiseValueError
          ("duplicate action id detected across providers: `" ++ action.id ++ "`")
      else do
        let actions ← indexActions (action.id :: seen) rest
        pure (action :: actions)

def allActions (repository : Repository) : PyResult (List RepositoryAction) :=
  indexActions []
    (repository.providers.flatMap fun provider =>
      provider.actions.map fun action => (action, provider))

def filterByKind (actions : List RepositoryAction) (query : ActionQuery) :
    List RepositoryAction :=
  if query.actionKinds.isEmpty then
    actions
  else
    actions.filter fun action => action.kind ∈ query.actionKinds

def actionsOfOwner (actions : List RepositoryAction) (ownerId : String) :
    List RepositoryAction :=
  actions.filter fun action =>
    ownerId ∈ action.ownerIds ||
      (action.targetKind = .component && action.targetId = ownerId)

def filterBySelector (repository : Repository) (actions : List RepositoryAction)
    (query : ActionQuery) : PyResult (List RepositoryAction) :=
  match query.selector with
  | .all => .ok actions
  | .runnerId runnerId => do
      let owner ← repository.resolveOwner runnerId
      if owner.kind ≠ .runner then
        raiseValueError ("owner id is not a runner: `" ++ runnerId ++ "`")
      else
        pure (actions.filter fun action =>
          action.targetKind = .runner && action.targetId = runnerId)
  | .testId testId => do
      let owner ← repository.resolveOwner testId
      if owner.kind ≠ .testDefinition then
        raiseValueError ("owner id is not a test definition: `" ++ testId ++ "`")
      else
        pure (actions.filter fun action =>
          action.targetKind = .testDefinition && action.targetId = testId)
  | .repositoryRelPath path => do
      let fileOwner ← repository.getFileOwner path
      pure (actionsOfOwner actions fileOwner.owner.id)
  | .ownerId ownerId => do
      let _ ← repository.resolveOwner ownerId
      pure (actionsOfOwner actions ownerId)
  | .componentId componentId => do
      let owner ← repository.resolveOwner componentId
      if owner.kind ≠ .component then
        raiseValueError ("owner id is not a component: `" ++ componentId ++ "`")
      else
        pure (actionsOfOwner actions componentId)

def actionSortKey (action : RepositoryAction) :
    String ×ₗ String ×ₗ String ×ₗ String ×ₗ String :=
  toLex (action.kind.value, toLex (action.targetKind.value,
    toLex (action.targetId, toLex (action.providerId, action.id))))

def listActions (repository : Repository) (query : ActionQuery) :
    PyResult (List RepositoryAction) := do
  let actions ← repository.allActions
  let selected ← repository.filterBySelector (filterByKind actions query) query
  pure (sortedBy actionSortKey selected)

def buildTargetChecks (action : RepositoryAction) : List (Bool × String) :=
  [(isBlank action.id, "action_id must not be empty"),
    (isBlank action.name, "name must not be empty"),
    (isBlank action.providerId, "provider_id must not be empty"),
    (isBlank action.targetId, "target_id must not be empty"),
    (action.targetKind ≠ .component && action.targetKind ≠ .repository,
      "build target_kind must be `component` or `repository`"),
    (action.ownerIds.any isBlank, "owner_ids must not contain empty values"),
    (!decide action.ownerIds.Nodup, "owner_ids must not contain duplicates"),
    (!decide action.proofFacets.Nodup, "proof_facets must not contain duplicates"),
    (action.provenance.isEmpty, "provenance must not be empty")]

def toBuildTarget (action : RepositoryAction) : PyResult BuildTargetDescription :=
  if action.kind ≠ .buildExecution then
    raiseValueError ("action is not a build action: `" ++ action.id ++ "`")
  else
    validated (buildTargetChecks action)
      { actionId := action.id
        name := action.name
        providerId := action.providerId
        targetId := action.targetId
        targetKind := action.targetKind
        ownerIds := action.ownerIds
        proofFacets := action.proofFacets
        invocation := action.invocation
        dryRunSupported := action.dryRunSupported
        provenance := action.provenance }

/-- `_build_targets_by_action_id`, with the ids already met. -/
def indexBuildTargets :
    List String → List RepositoryAction → PyResult (List BuildTargetDescription)
  | _, [] => .ok []
  | seen, action :: actions =>
      if action.id ∈ seen then
        raiseValueError ("duplicate build action id detected: `" ++ action.id ++ "`")
      else do
        let target ← toBuildTarget action
        let targets ← indexBuildTargets (action.id :: seen) actions
        pure (target :: targets)

def buildTargetKindOrder : ActionTargetKind → ℕ
  | .component => 0
  | _ => 1

def buildTargetSortKey (target : BuildTargetDescription) : ℕ ×ₗ String ×ₗ String :=
  toLex (buildTargetKindOrder target.targetKind, toLex (target.targetId, target.actionId))

def listBuildTargets (repository : Repository) :
    PyResult (List BuildTargetDescription) := do
  let actions ← repository.listActions ⟨.all, [.buildExecution]⟩
  let targets ← indexBuildTargets [] actions
  pure (sortedBy buildTargetSortKey targets)

/-! ## Quality -/

/-- `path.replace("\\", "/").strip().removeprefix("./")`. -/
def normalizedMemberPath (repositoryRelPath : String) : String :=
  removePrefix "./" (strip (replaceChar '\\' '/' repositoryRelPath))

def isQualityRelevantInComponent (component : Component) (repositoryRelPath : String) :
    Bool :=
  let normalized := normalizedMemberPath repositoryRelPath
  if component.artifactPaths.any (isAtOrBelow normalized) then
    false
  else if !component.sourceRoots.isEmpty then
    component.sourceRoots.any (isAtOrBelow normalized)
  else
    true

def isQualityRelevantFile (repository : Repository) (repositoryRelPath : String) : Bool :=
  match repository.getFileOwner repositoryRelPath with
  | .error _ => true
  | .ok fileOwner =>
      if fileOwner.owner.kind ≠ .component then
        true
      else
        match repository.getComponents.find? fun component =>
            component.id = fileOwner.owner.id with
        | none => true
        | some component => isQualityRelevantInComponent component repositoryRelPath

def providerKey (provider : Provider) : String × String :=
  (provider.providerId, provider.attachmentRootRelPath)

def qualityProvidersForFiles (repository : Repository) (repositoryRelPaths : List String) :
    PyResult (List Provider) := do
  let providers ← (repositoryRelPaths.filter repository.isQualityRelevantFile).mapM
    fun path => repository.providersForFileRole path .quality
  pure (dedupeBy providerKey providers.flatten)

def providerIdsForFiles (repository : Repository) (repositoryRelPaths : List String) :
    PyResult (List String) := do
  let providers ← repository.qualityProvidersForFiles repositoryRelPaths
  pure (dedupeBy id (providers.map Provider.providerId))

/-! ## Component context -/

def belongsToComponent (index : OwnershipIndex) (repositoryRelPath : String)
    (component : Component) : PyResult Bool := do
  let componentFiles ← index.filesForOwner component.id
  pure (componentFiles.any (fun file => file.repositoryRelPath = repositoryRelPath) ||
    component.sourceRoots.any (isAtOrBelow repositoryRelPath))

def primaryComponentIdForFile (repository : Repository)
    (repositoryRelPath ownerId : String) : PyResult (Option String) := do
  let index ← repository.buildOwnershipIndex
  let owner ← index.ownerInfo ownerId
  if owner.kind = .component then
    pure (some owner.id)
  else
    let flags ← repository.getComponents.mapM (belongsToComponent index repositoryRelPath)
    let candidates := sortedBy id (dedupeBy id
      (((repository.getComponents.zip flags).filter Prod.snd).map fun entry => entry.1.id))
    match candidates with
    | [] => pure none
    | [candidate] => pure (some candidate)
    | _ =>
        raiseValueError
          ("file resolves to multiple component contexts: `" ++ repositoryRelPath ++ "`")

def primaryComponentIdForOwner (repository : Repository) (ownerId : String) :
    PyResult (Option String) := do
  let index ← repository.buildOwnershipIndex
  let owner ← index.ownerInfo ownerId
  if owner.kind = .component then
    pure (some owner.id)
  else
    let files ← index.filesForOwner ownerId
    let componentIds ← files.mapM fun file =>
      repository.primaryComponentIdForFile file.repositoryRelPath owner.id
    match dedupeBy id (componentIds.filterMap id) with
    | [] => pure none
    | [componentId] => pure (some componentId)
    | _ =>
        raiseValueError
          ("owner resolves to multiple component contexts: `" ++ ownerId ++ "`")

end Repository

end SuitCode
