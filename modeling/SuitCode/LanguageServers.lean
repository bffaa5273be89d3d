import SuitCode.CodeQueries
import SuitCode.RunnerService

/-!
# Repositories with other language servers

Two runs may differ in what the language servers answer.  The answers of other
servers replace the ones of a provider for the files which it asks about; what the
services compute from the other answers stays as it is.
-/

namespace SuitCode

open PosixText KeyedList ExceptList Memo

/-! ## Other servers -/

structure ServerAnswers where
  symbolsInFile : String → PyResult (List EntityInfo)
  definitions : String → ℕ → ℕ → PyResult (List CodeLocation)
  references : String → ℕ → ℕ → PyResult (List CodeLocation)
  fileImplementationLocations : String → PyResult (List CodeLocation)

namespace ServerAnswers

def silent : ServerAnswers where
  symbolsInFile _ := .ok []
  definitions _ _ _ := .ok []
  references _ _ _ := .ok []
  fileImplementationLocations _ := .ok []

/-- `LspProtocolError` of a client whose server has closed its output. -/
def unexpectedEof : PyError :=
  .runtimeError "unexpected EOF while reading language server response"

/-- Servers whose process is gone: the error of the client is no `ValueError`. -/
def crashed : ServerAnswers where
  symbolsInFile _ := .error unexpectedEof
  definitions _ _ _ := .error unexpectedEof
  references _ _ _ := .error unexpectedEof
  fileImplementationLocations _ := .error unexpectedEof

end ServerAnswers

def Provider.withServers (servers : ServerAnswers) (provider : Provider) : Provider :=
  { provider with
    symbolsInFile := fun path =>
      if provider.languageServerFiles path then
        servers.symbolsInFile path
      else
        provider.symbolsInFile path
    definitions := fun path line column =>
      if provider.languageServerFiles path then
        servers.definitions path line column
      else
        provider.definitions path line column
    references := fun path line column =>
      if provider.languageServerFiles path then
        servers.references path line column
      else
        provider.references path line column
    fileImplementationLocations := fun path =>
      if provider.languageServerFiles path then
        servers.fileImplementationLocations path
      else
        provider.fileImplementationLocations path
    otherFiles_without_symbols := by
      intro path hother
      rw [if_neg (by simp [hother])]
      exact provider.otherFiles_without_symbols path hother }

def Repository.withServers (repository : Repository) (servers : ServerAnswers) : Repository :=
  { repository with providers := repository.providers.map (Provider.withServers servers) }

def Repository.SameButServers (repository other : Repository) : Prop :=
  repository.withServers .silent = other.withServers .silent

theorem Provider.withServers_withServers (first second : ServerAnswers) (provider : Provider) :
    (provider.withServers first).withServers second = provider.withServers second := by
  unfold Provider.withServers
  congr 1
  all_goals
    funext
    simp only []
    split <;> rfl

theorem Repository.withServers_sameButServers (repository : Repository)
    (servers : ServerAnswers) :
    repository.SameButServers (repository.withServers servers) := by
  simp [SameButServers, withServers, Function.comp_def, Provider.withServers_withServers]

/-! ## Services which do not ask the servers -/

namespace Repository

variable (repository : Repository) (servers : ServerAnswers)

@[simp] theorem root_withServers :
    (repository.withServers servers).root = repository.root := rfl

@[simp] theorem providerRoles_withServers :
    (repository.withServers servers).providerRoles = repository.providerRoles := rfl

@[simp] theorem providersForRole_withServers (role : ProviderRole) :
    (repository.withServers servers).providersForRole role =
      (repository.providersForRole role).map (Provider.withServers servers) := by
  unfold providersForRole withServers
  rw [List.filter_map]
  rfl

@[simp] theorem providersById_withServers (providerId : String) :
    (repository.withServers servers).providersById providerId =
      (repository.providersById providerId).map (Provider.withServers servers) := by
  unfold providersById withServers
  rw [List.filter_map]
  rfl

@[simp] theorem getComponents_withServers :
    (repository.withServers servers).getComponents = repository.getComponents := by
  simp [getComponents, List.flatMap_map, Provider.withServers]

@[simp] theorem getAggregators_withServers :
    (repository.withServers servers).getAggregators = repository.getAggregators := by
  simp [getAggregators, List.flatMap_map, Provider.withServers]

@[simp] theorem getRunners_withServers :
    (repository.withServers servers).getRunners = repository.getRunners := by
  simp [getRunners, List.flatMap_map, Provider.withServers]

@[simp] theorem getPackageManagers_withServers :
    (repository.withServers servers).getPackageManagers = repository.getPackageManagers := by
  simp [getPackageManagers, List.flatMap_map, Provider.withServers]

@[simp] theorem getFiles_withServers :
    (repository.withServers servers).getFiles = repository.getFiles := by
  simp [getFiles, List.flatMap_map, Provider.withServers]

/-! ### Components and dependencies -/

theorem indexComponents_map (change : Provider → Provider) (seen : List String)
    (entries : List (Component × Provider)) :
    indexComponents seen (entries.map fun entry => (entry.1, change entry.2)) =
      (List.map fun entry => (entry.1, change entry.2)) <$> indexComponents seen entries := by
  induction entries generalizing seen with
  | nil => rfl
  | cons entry entries ih =>
      simp only [List.map_cons, indexComponents]
      split
      · rfl
      · rw [ih]
        cases indexComponents (entry.1.id :: seen) entries with
        | error exception => rfl
        | ok index => rfl

theorem providerForComponentId_withServers (componentId : String) :
    (repository.withServers servers).providerForComponentId componentId =
      Provider.withServers servers <$> repository.providerForComponentId componentId := by
  have hentries : ((repository.withServers servers).providersForRole .architecture).flatMap
        (fun provider => provider.components.map fun component => (component, provider)) =
      ((repository.providersForRole .architecture).flatMap
        fun provider => provider.components.map fun component => (component, provider)).map
          fun entry => (entry.1, entry.2.withServers servers) := by
    simp [List.flatMap_map, List.map_flatMap, Function.comp_def, Provider.withServers]
  unfold providerForComponentId
  rw [hentries, indexComponents_map]
  cases indexComponents [] ((repository.providersForRole .architecture).flatMap
      fun provider => provider.components.map fun component => (component, provider)) with
  | error exception => rfl
  | ok index =>
      simp only [Except.map_ok, ok_bind, List.find?_map, Function.comp_def]
      cases index.find? fun entry => entry.1 = componentId with
      | none => rfl
      | some entry => rfl

@[simp] theorem allComponentDependencyEdges_withServers :
    (repository.withServers servers).allComponentDependencyEdges =
      repository.allComponentDependencyEdges := by
  simp [allComponentDependencyEdges, List.mapM_map, Function.comp_def, Provider.withServers]

@[simp] theorem componentDependencyEdgesOf_withServers (componentId : String) :
    (repository.withServers servers).componentDependencyEdgesOf componentId =
      repository.componentDependencyEdgesOf componentId := by
  unfold componentDependencyEdgesOf
  rw [providerForComponentId_withServers]
  cases repository.providerForComponentId componentId with
  | error exception => rfl
  | ok provider => rfl

@[simp] theorem getComponentDependents_withServers (componentId : String) :
    (repository.withServers servers).getComponentDependents componentId =
      repository.getComponentDependents componentId := by
  simp [getComponentDependents, providerForComponentId_withServers]

@[simp] theorem getComponentDependencies_withServers (componentId : String) :
    (repository.withServers servers).getComponentDependencies componentId =
      repository.getComponentDependencies componentId := by
  simp [getComponentDependencies, providerForComponentId_withServers]

@[simp] theorem componentWithId_withServers (componentId : String) :
    (repository.withServers servers).componentWithId componentId =
      repository.componentWithId componentId := by
  simp [componentWithId]

/-! ### Tests and ownership -/

theorem indexDiscoveredTests_map (change : Provider → Provider) (seen : List String)
    (entries : List (DiscoveredTestDefinition × Provider)) :
    indexDiscoveredTests seen (entries.map fun entry => (entry.1, change entry.2)) =
      (List.map fun entry => (entry.1, change entry.2)) <$>
        indexDiscoveredTests seen entries := by
  induction entries generalizing seen with
  | nil => rfl
  | cons entry entries ih =>
      simp only [List.map_cons, indexDiscoveredTests]
      split
      · rfl
      · rw [ih]
        cases indexDiscoveredTests (entry.1.testDefinition.id :: seen) entries with
        | error exception => rfl
        | ok index => rfl

theorem discoveredTestIndex_withServers :
    (repository.withServers servers).discoveredTestIndex =
      (List.map fun entry => (entry.1, entry.2.withServers servers)) <$>
        repository.discoveredTestIndex := by
  have hentries : ((repository.withServers servers).providersForRole .test).flatMap
        (fun provider => provider.discoveredTests.map fun test => (test, provider)) =
      ((repository.providersForRole .test).flatMap
        fun provider => provider.discoveredTests.map fun test => (test, provider)).map
          fun entry => (entry.1, entry.2.withServers servers) := by
    simp [List.flatMap_map, List.map_flatMap, Function.comp_def, Provider.withServers]
  unfold discoveredTestIndex
  rw [hentries, indexDiscoveredTests_map]

@[simp] theorem getDiscoveredTests_withServers :
    (repository.withServers servers).getDiscoveredTests = repository.getDiscoveredTests := by
  simp [getDiscoveredTests, discoveredTestIndex_withServers, Function.comp_def]

@[simp] theorem buildOwnershipIndex_withServers :
    (repository.withServers servers).buildOwnershipIndex = repository.buildOwnershipIndex := by
  simp [buildOwnershipIndex, ownerNodes, getTests]

@[simp] theorem getFileOwner_withServers (repositoryRelPath : String) :
    (repository.withServers servers).getFileOwner repositoryRelPath =
      repository.getFileOwner repositoryRelPath := by
  simp [getFileOwner]

@[simp] theorem listFilesByOwner_withServers (ownerId : String) :
    (repository.withServers servers).listFilesByOwner ownerId =
      repository.listFilesByOwner ownerId := by
  simp [listFilesByOwner]

@[simp] theorem resolveOwner_withServers (ownerId : String) :
    (repository.withServers servers).resolveOwner ownerId =
      repository.resolveOwner ownerId := by
  simp [resolveOwner]

/-! ### Providers of an owner and of a file -/

@[simp] theorem providerIdForOwner_withServers (ownerId : String) :
    (repository.withServers servers).providerIdForOwner ownerId =
      repository.providerIdForOwner ownerId := by
  simp [providerIdForOwner]

theorem orAll_map (change : Provider → Provider) (matched providers : List Provider) :
    orAll (matched.map change) (providers.map change) = (orAll matched providers).map change := by
  unfold orAll
  simp only [List.isEmpty_map]
  split <;> rfl

theorem containing_withServers (contains : String → Bool) (providers : List Provider) :
    orAll
        ((providers.map (Provider.withServers servers)).filter fun provider =>
          contains provider.attachmentRootRelPath)
        (providers.map (Provider.withServers servers)) =
      (orAll (providers.filter fun provider => contains provider.attachmentRootRelPath)
        providers).map (Provider.withServers servers) := by
  rw [List.filter_map]
  exact orAll_map _ _ _

theorem providersForOwnerRole_withServers (ownerId : String) (role : ProviderRole) :
    (repository.withServers servers).providersForOwnerRole ownerId role =
      List.map (Provider.withServers servers) <$>
        repository.providersForOwnerRole ownerId role := by
  unfold providersForOwnerRole
  rw [providerIdForOwner_withServers]
  cases repository.providerIdForOwner ownerId with
  | error exception => rfl
  | ok providerId =>
      simp only [ok_bind, providerRoles_withServers, providersById_withServers,
        List.length_map, listFilesByOwner_withServers]
      split
      · rfl
      · split
        · rfl
        · cases repository.listFilesByOwner ownerId with
          | error exception => rfl
          | ok ownerFiles =>
              simp only [ok_bind]
              split
              · rfl
              · rw [containing_withServers servers fun root =>
                  ownerFiles.any fun file => attachmentContainsPath root file.repositoryRelPath]
                rfl

theorem providersForFileRole_withServers (repositoryRelPath : String) (role : ProviderRole) :
    (repository.withServers servers).providersForFileRole repositoryRelPath role =
      List.map (Provider.withServers servers) <$>
        repository.providersForFileRole repositoryRelPath role := by
  unfold providersForFileRole
  rw [getFileOwner_withServers]
  cases repository.getFileOwner repositoryRelPath with
  | error exception => rfl
  | ok fileOwner =>
      simp only [ok_bind, providersForOwnerRole_withServers]
      cases repository.providersForOwnerRole fileOwner.owner.id role with
      | error exception => rfl
      | ok providers =>
          simp only [Except.map_ok, ok_bind]
          rw [containing_withServers servers fun root =>
            attachmentContainsPath root repositoryRelPath]
          rfl

@[simp] theorem getRelatedTests_withServers (target : RelatedTestTarget) :
    (repository.withServers servers).getRelatedTests target =
      repository.getRelatedTests target := by
  have hproviders : (repository.withServers servers).testProvidersFor target =
      List.map (Provider.withServers servers) <$> repository.testProvidersFor target := by
    cases target with
    | file repositoryRelPath => exact providersForFileRole_withServers _ _ _ _
    | owner ownerId => exact providersForOwnerRole_withServers _ _ _ _
  simp [getRelatedTests, hproviders, List.mapM_map, Function.comp_def, Provider.withServers]

/-! ### Quality -/

@[simp] theorem isQualityRelevantFile_withServers :
    (repository.withServers servers).isQualityRelevantFile =
      repository.isQualityRelevantFile := by
  funext repositoryRelPath
  simp [isQualityRelevantFile]

theorem dedupeFrom_map_withServers (seen : List (String × String)) (providers : List Provider) :
    dedupeFrom providerKey seen (providers.map (Provider.withServers servers)) =
      (dedupeFrom providerKey seen providers).map (Provider.withServers servers) := by
  induction providers generalizing seen with
  | nil => rfl
  | cons provider providers ih =>
      have hkey : providerKey (provider.withServers servers) = providerKey provider := rfl
      simp only [List.map_cons, dedupeFrom, hkey, ih]
      split <;> rfl

theorem qualityProvidersForFiles_withServers (repositoryRelPaths : List String) :
    (repository.withServers servers).qualityProvidersForFiles repositoryRelPaths =
      List.map (Provider.withServers servers) <$>
        repository.qualityProvidersForFiles repositoryRelPaths := by
  simp only [qualityProvidersForFiles, isQualityRelevantFile_withServers,
    providersForFileRole_withServers]
  rw [mapM_map_results]
  cases (repositoryRelPaths.filter repository.isQualityRelevantFile).mapM
      fun path => repository.providersForFileRole path .quality with
  | error exception => rfl
  | ok providers =>
      simp only [Except.map_ok, ok_bind, ← List.map_flatten]
      rw [dedupeBy, dedupeFrom_map_withServers]
      rfl

@[simp] theorem providerIdsForFiles_withServers (repositoryRelPaths : List String) :
    (repository.withServers servers).providerIdsForFiles repositoryRelPaths =
      repository.providerIdsForFiles repositoryRelPaths := by
  simp [providerIdsForFiles, qualityProvidersForFiles_withServers, Function.comp_def,
    Provider.withServers]

/-! ### Component context -/

@[simp] theorem primaryComponentIdForFile_withServers (repositoryRelPath ownerId : String) :
    (repository.withServers servers).primaryComponentIdForFile repositoryRelPath ownerId =
      repository.primaryComponentIdForFile repositoryRelPath ownerId := by
  simp [primaryComponentIdForFile]

@[simp] theorem primaryComponentIdForOwner_withServers (ownerId : String) :
    (repository.withServers servers).primaryComponentIdForOwner ownerId =
      repository.primaryComponentIdForOwner ownerId := by
  simp [primaryComponentIdForOwner]

@[simp] theorem primaryComponentForFile_withServers (repositoryRelPath ownerId : String) :
    (repository.withServers servers).primaryComponentForFile repositoryRelPath ownerId =
      repository.primaryComponentForFile repositoryRelPath ownerId := by
  simp [primaryComponentForFile, componentById]

@[simp] theorem relatedRunnerIdsForComponent_withServers (component : Component)
    (ownedFiles : List FileInfo) :
    (repository.withServers servers).relatedRunnerIdsForComponent component ownedFiles =
      repository.relatedRunnerIdsForComponent component ownedFiles := by
  simp [relatedRunnerIdsForComponent]

/-! ### Code -/

theorem collectAnswers_map {α : Type} (change : Provider → Provider)
    (answer : Provider → PyResult (List α)) (providers : List Provider) :
    collectAnswers answer (providers.map change) =
      collectAnswers (fun provider => answer (change provider)) providers := by
  induction providers with
  | nil => rfl
  | cons provider providers ih =>
      simp only [List.map_cons, collectAnswers, ih]

theorem codeAnswers_withServers {α : Type} {answer : Provider → String → PyResult (List α)}
    (hanswer : ∀ provider : Provider, answer (provider.withServers servers) = answer provider)
    (repositoryRelPath : String) :
    (repository.withServers servers).codeAnswers repositoryRelPath answer =
      repository.codeAnswers repositoryRelPath answer := by
  simp [codeAnswers, providersForFileRole_withServers, collectAnswers_map, hanswer]

@[simp] theorem listStructuralSymbolsInFile_withServers (repositoryRelPath : String) :
    (repository.withServers servers).listStructuralSymbolsInFile repositoryRelPath =
      repository.listStructuralSymbolsInFile repositoryRelPath := by
  unfold listStructuralSymbolsInFile
  rw [codeAnswers_withServers]
  intro provider
  rfl

@[simp] theorem getFileRenderEdges_withServers (repositoryRelPath : String)
    (relationshipKind : Option RenderEdgeKind) :
    (repository.withServers servers).getFileRenderEdges repositoryRelPath relationshipKind =
      repository.getFileRenderEdges repositoryRelPath relationshipKind := by
  unfold getFileRenderEdges
  rw [codeAnswers_withServers]
  intro provider
  rfl

@[simp] theorem architectureProjectedFileRelationships_withServers
    (repositoryRelPath : String) (relationshipKind : Option FileRelationshipKind) :
    (repository.withServers servers).architectureProjectedFileRelationships repositoryRelPath
        relationshipKind =
      repository.architectureProjectedFileRelationships repositoryRelPath
        relationshipKind := by
  simp [architectureProjectedFileRelationships, projectedImports, projectedImportedBy]

@[simp] theorem getFileRelationships_withServers (repositoryRelPath : String)
    (relationshipKind : Option FileRelationshipKind) (evidenceTier : CodeEvidenceTier) :
    (repository.withServers servers).getFileRelationships repositoryRelPath relationshipKind
        evidenceTier =
      repository.getFileRelationships repositoryRelPath relationshipKind evidenceTier := by
  have hanswers : (repository.withServers servers).codeAnswers repositoryRelPath
        (Provider.relationshipsOfTier evidenceTier) =
      repository.codeAnswers repositoryRelPath
        (Provider.relationshipsOfTier evidenceTier) := by
    apply codeAnswers_withServers
    intro provider
    cases evidenceTier with
    | structural => rfl
    | semantic => rfl
  simp [getFileRelationships, hanswers]

end Repository

/-! ## Facts of the structural tier -/

namespace Repository

variable (repository : Repository) (servers : ServerAnswers)

theorem fileFact_eq (path : String) (evidenceTier : CodeEvidenceTier) (fact : FileFact) :
    repository.fileFact path evidenceTier fact =
      repository.evalFacts (bundleFact factServices path evidenceTier fact) :=
  System.value_eq_eval (factSystem factServices) repository (.bundle path evidenceTier fact)

theorem evalFacts_answer (query : FactQuery) :
    repository.evalFacts (factServices.answer query) = repository.answerFact query :=
  Program.eval_ask _ _ _

/-- Structural facts about a file do not depend on the language servers. -/
theorem fileFact_withServers (path : String) (fact : FileFact) :
    (repository.withServers servers).fileFact path .structural fact =
      repository.fileFact path .structural fact := by
  have hanswer : ∀ query,
      (repository.withServers servers).answerFact query = repository.answerFact query →
        (repository.withServers servers).evalFacts (factServices.answer query) =
          repository.evalFacts (factServices.answer query) := by
    intro query hsame
    rw [evalFacts_answer, evalFacts_answer, hsame]
  rw [fileFact_eq, fileFact_eq]
  cases fact with
  | fileOwner => exact hanswer (.ownerForFile path) (getFileOwner_withServers ..)
  | symbols =>
      exact hanswer (.listStructuralSymbolsInFile path)
        (listStructuralSymbolsInFile_withServers ..)
  | referenceSites => rfl
  | dependencyFiles =>
      exact hanswer (.fileRelationships path .imports .structural)
        (getFileRelationships_withServers ..)
  | dependentFiles =>
      exact hanswer (.fileRelationships path .importedBy .structural)
        (getFileRelationships_withServers ..)
  | renderChildren =>
      exact hanswer (.fileRenderEdges path .renders) (getFileRenderEdges_withServers ..)
  | renderParents =>
      exact hanswer (.fileRenderEdges path .renderedBy) (getFileRenderEdges_withServers ..)
  | invariantFindings => rfl
  | localFlowEdges => rfl
  | implementationLocations => rfl
  | relatedTests =>
      simp only [bundleFact, evalFacts]
      cases RelatedTestTarget.ofFile path with
      | error exception => rfl
      | ok target => exact hanswer (.relatedTests target) (getRelatedTests_withServers ..)
  | qualityProviderIds =>
      exact hanswer (.providerIdsForFiles [path]) (providerIdsForFiles_withServers ..)

theorem evalFacts_readFacts_withServers (path : String) {options : DescribeOptions}
    (hstructural : options.evidenceTier = .structural) :
    (repository.withServers servers).evalFacts (readFacts path options) =
      repository.evalFacts (readFacts path options) := by
  apply (readFacts_readsOnly path options).eval_congr
  rintro cell ⟨fact, rfl⟩
  rw [hstructural]
  exact repository.fileFact_withServers servers path fact

end Repository

end SuitCode
