import SuitCode.ImpactSummaries
import SuitCode.LanguageServers

/-!
# Structural evidence and the language servers

Descriptions of files and analyses of changes may be asked for structural evidence.
A file is then described without the language servers, and a change of a file is
analysed without them.  The tier does not reach the resolution of a symbol or of an
owner.
-/

namespace SuitCode

open PosixText KeyedList ExceptList Memo

/-! ## Calls for structural evidence -/

/-- A call whose evidence tier is structural. -/
inductive EvidenceCall where
  | describeFiles (repositoryRelPaths : List String) (options : DescribeOptions)
  | analyzeChange (target : ChangeTarget) (options : ChangeOptions)

inductive EvidenceResult where
  | contexts (described : List FileContext)
  | impact (analysed : ChangeImpact)
  deriving DecidableEq

def FileContext.locations (context : FileContext) : List CodeLocation :=
  context.referenceSitesPreview ++ context.implementationLocationsPreview

def SymbolContext.locations (context : SymbolContext) : List CodeLocation :=
  context.definitions ++ context.referencesPreview

def EvidenceResult.locations : EvidenceResult → List CodeLocation
  | .contexts described => described.flatMap FileContext.locations
  | .impact analysed =>
      analysed.referenceLocations ++ analysed.implementationLocations ++
        analysed.fileContext.toList.flatMap FileContext.locations ++
        analysed.symbolContext.toList.flatMap SymbolContext.locations

def DescribeOptions.structural (options : DescribeOptions) : DescribeOptions :=
  { options with evidenceTier := .structural }

def ChangeOptions.structural (options : ChangeOptions) : ChangeOptions :=
  { options with evidenceTier := .structural }

namespace Repository

def answerCall (repository : Repository) : EvidenceCall → PyResult EvidenceResult
  | .describeFiles paths options => do
      let described ← repository.describeFiles paths options.structural
      pure (.contexts described)
  | .analyzeChange target options => do
      let analysed ← repository.analyzeChange target options.structural
      pure (.impact analysed)

/-- No run with other servers has another result, and no result has a location. -/
structure IndependentOfServers (repository : Repository) (call : EvidenceCall) : Prop where
  sameResult :
    ∀ other, repository.SameButServers other → other.answerCall call = repository.answerCall call
  noLocations :
    ∀ result, repository.answerCall call = .ok result → result.locations = []

/-! ## When the servers are asked -/

def asksAbout (repository : Repository) (repositoryRelPath : String) : PyResult Bool := do
  let path ← normalizeRepositoryRelativePath repositoryRelPath
  let providers ← repository.providersForFileRole path .code
  pure (providers.any fun provider => provider.languageServerFiles path)

def comesToServer (asks : FileInfo → PyResult Bool) : List FileInfo → Bool
  | [] => false
  | file :: files =>
      match asks file with
      | .ok true => true
      | .ok false => comesToServer asks files
      | .error _ => false

def asksOverFiles (repository : Repository) (files : List FileInfo) : Bool :=
  comesToServer (fun file => repository.asksAbout file.repositoryRelPath) files

def asksForOwner (repository : Repository) (ownerId : String)
    (referencePreviewLimit : ℕ) : Bool :=
  referencePreviewLimit ≠ 0 &&
    match repository.listFilesByOwner ownerId with
    | .ok files => repository.asksOverFiles (files.take (max 10 referencePreviewLimit))
    | .error _ => false

def asksNoServer (repository : Repository) : EvidenceCall → Bool
  | .describeFiles _ _ => true
  | .analyzeChange (.file _) _ => true
  | .analyzeChange (.owner ownerId) options =>
      !repository.asksForOwner ownerId options.referencePreviewLimit
  | .analyzeChange (.symbol _) _ => false

end Repository

variable {path repositoryRelPath ownerId symbolId : String} {resolved : ResolvedImpactTarget}
  {resolver : ImpactTargetResolver} {target : ChangeTarget} {exception : PyError}
  {files : List FileInfo} {limit : ℕ} {call : EvidenceCall}

/-! ## Files -/

section Files

variable (repository : Repository) (servers : ServerAnswers)

theorem Repository.evalFacts_bind_eq_ok
    {α β : Type} {program : FactProgram Repository Empty Empty.elim α}
    {next : α → FactProgram Repository Empty Empty.elim β} {result : β}
    (hok : repository.evalFacts (program >>= next) = .ok result) :
    ∃ value, repository.evalFacts program = .ok value ∧
      repository.evalFacts (next value) = .ok result := by
  unfold evalFacts at hok
  rw [Program.eval_bind] at hok
  exact bind_eq_ok.mp hok

theorem fileFact_structural_nil (path : String) :
    repository.fileFact path .structural .referenceSites = .ok ([] : List CodeLocation) ∧
      repository.fileFact path .structural .implementationLocations =
        .ok ([] : List CodeLocation) := by
  constructor
  · rw [Repository.fileFact_eq]
    rfl
  · rw [Repository.fileFact_eq]
    rfl

theorem evalFacts_readFactWhen_nil
    {asked : Bool} {found : List CodeLocation}
    {program : FactProgram Repository Empty Empty.elim (List CodeLocation)}
    (hnil : repository.evalFacts program = .ok [])
    (hfound : repository.evalFacts (readFactWhen asked program) = .ok found) : found = [] := by
  cases asked with
  | false => exact (Except.ok.inj hfound).symm
  | true => exact (Except.ok.inj (hnil.symm.trans hfound)).symm

variable {options : DescribeOptions}

theorem readFacts_structural {facts : FileFactValues}
    (hstructural : options.evidenceTier = .structural)
    (hfacts : repository.evalFacts (readFacts path options) = .ok facts) :
    facts.referenceSites = [] ∧ facts.implementationLocations = [] := by
  have hnil := fileFact_structural_nil repository path
  unfold readFacts at hfacts
  rw [hstructural] at hfacts
  obtain ⟨sites, hsites, hfacts⟩ := repository.evalFacts_bind_eq_ok hfacts
  obtain ⟨implementations, himplementations, hfacts⟩ :=
    repository.evalFacts_bind_eq_ok hfacts
  obtain ⟨fileOwner, -, hfacts⟩ := repository.evalFacts_bind_eq_ok hfacts
  obtain ⟨symbols, -, hfacts⟩ := repository.evalFacts_bind_eq_ok hfacts
  obtain ⟨dependencyFiles, -, hfacts⟩ := repository.evalFacts_bind_eq_ok hfacts
  obtain ⟨dependentFiles, -, hfacts⟩ := repository.evalFacts_bind_eq_ok hfacts
  obtain ⟨renderChildren, -, hfacts⟩ := repository.evalFacts_bind_eq_ok hfacts
  obtain ⟨renderParents, -, hfacts⟩ := repository.evalFacts_bind_eq_ok hfacts
  obtain ⟨invariantFindings, -, hfacts⟩ := repository.evalFacts_bind_eq_ok hfacts
  obtain ⟨localFlowEdges, -, hfacts⟩ := repository.evalFacts_bind_eq_ok hfacts
  obtain ⟨relatedTests, -, hfacts⟩ := repository.evalFacts_bind_eq_ok hfacts
  obtain ⟨qualityProviderIds, -, hfacts⟩ := repository.evalFacts_bind_eq_ok hfacts
  have hsitesNil : sites = [] := by
    apply evalFacts_readFactWhen_nil repository _ hsites
    exact (Program.eval_readCell _ _ _).trans hnil.1
  have himplementationsNil : implementations = [] := by
    apply evalFacts_readFactWhen_nil repository _ himplementations
    exact (Program.eval_readCell _ _ _).trans hnil.2
  cases hfacts
  subst hsitesNil himplementationsNil
  constructor
  · cases options.referenceSiteLimit with
    | none => rfl
    | some limit => exact List.take_nil
  · rfl

omit repository in
theorem fileContextOf_locations {facts : FileFactValues} {context : FileContext}
    (hcontext : fileContextOf path options facts = .ok context) :
    context.locations =
      facts.referenceSites.take options.symbolPreviewLimit ++
        facts.implementationLocations.take options.symbolPreviewLimit := by
  unfold fileContextOf at hcontext
  obtain ⟨provenance, -, hvalidated⟩ := bind_eq_ok.mp hcontext
  rw [eq_of_validated hvalidated]
  rfl

theorem buildFileContext_locations {context : FileContext}
    (hstructural : options.evidenceTier = .structural)
    (hcontext : ImpactTargetResolver.buildFileContext repository path options = .ok context) :
    context.locations = [] := by
  unfold ImpactTargetResolver.buildFileContext at hcontext
  obtain ⟨facts, hfacts, hcontext⟩ := bind_eq_ok.mp hcontext
  obtain ⟨hsites, himplementations⟩ := readFacts_structural repository hstructural hfacts
  rw [fileContextOf_locations hcontext, hsites, himplementations]
  simp

theorem evalFacts_describeFile (path : String) (options : DescribeOptions) :
    repository.evalFacts (describeFile path options) =
      normalizeRepositoryRelativePath path >>= fun path =>
        ImpactTargetResolver.buildFileContext repository path options := by
  unfold Repository.evalFacts describeFile
  simp only [Program.eval_bind, Program.eval_ask]
  rfl

theorem buildFileContext_withServers (path : String)
    (hstructural : options.evidenceTier = .structural) :
    ImpactTargetResolver.buildFileContext (repository.withServers servers) path options =
      ImpactTargetResolver.buildFileContext repository path options := by
  unfold ImpactTargetResolver.buildFileContext
  rw [Repository.evalFacts_readFacts_withServers _ _ _ hstructural]

theorem describeFiles_withServers (paths : List String)
    (hstructural : options.evidenceTier = .structural) :
    (repository.withServers servers).describeFiles paths options =
      repository.describeFiles paths options := by
  unfold Repository.describeFiles
  simp only [evalFacts_describeFile, buildFileContext_withServers _ _ _ hstructural]

theorem describeFiles_locations {paths : List String} {described : List FileContext}
    (hstructural : options.evidenceTier = .structural)
    (hdescribed : repository.describeFiles paths options = .ok described) :
    described.flatMap FileContext.locations = [] := by
  obtain ⟨-, -, hcontexts⟩ := bind_eq_ok.mp hdescribed
  rw [List.flatMap_eq_nil_iff]
  intro context hcontext
  obtain ⟨path, -, hpath⟩ := exists_input_of_mem hcontexts hcontext
  rw [evalFacts_describeFile] at hpath
  obtain ⟨normalized, -, hbuilt⟩ := bind_eq_ok.mp hpath
  exact buildFileContext_locations repository hstructural hbuilt

end Files

/-! ## Changes -/

namespace ChangeImpactService

variable (repository : Repository) (servers : ServerAnswers)

theorem describeComponents_withServers (componentIds : List String)
    (limits : ComponentPreviewLimits) :
    (repository.withServers servers).describeComponents componentIds limits =
      repository.describeComponents componentIds limits := by
  have hone : (repository.withServers servers).describeComponent limits =
      repository.describeComponent limits := by
    funext componentId
    simp [Repository.describeComponent]
  simp [Repository.describeComponents, hone]

theorem primaryComponentContext_withServers (primaryComponent : Option Component)
    (limits : ChangePreviewLimits) :
    primaryComponentContext (repository.withServers servers) primaryComponent limits =
      primaryComponentContext repository primaryComponent limits := by
  cases primaryComponent with
  | none => rfl
  | some component => simp [primaryComponentContext, describeComponents_withServers]

theorem dependentComponents_withServers (primaryComponent : Option Component) (limit : ℕ) :
    dependentComponents (repository.withServers servers) primaryComponent limit =
      dependentComponents repository primaryComponent limit := by
  cases primaryComponent with
  | none => rfl
  | some component => simp [dependentComponents]

theorem bundleFact_withServers {fact : FileFact} {key : FileSemanticFactsKey}
    (htier : key.evidenceTier = .structural) :
    bundleFact (repository.withServers servers) fact key = bundleFact repository fact key := by
  unfold bundleFact
  rw [htier, Repository.fileFact_withServers]

theorem fileRelationships_withServers
    (htier : ∀ key ∈ resolved.fileSemanticFacts, key.evidenceTier = .structural)
    (evidenceTier : CodeEvidenceTier) (relationshipKind : FileRelationshipKind) :
    fileRelationships (repository.withServers servers) resolved evidenceTier
        relationshipKind =
      fileRelationships repository resolved evidenceTier relationshipKind := by
  unfold fileRelationships factOr
  cases resolved.evidencePath with
  | none => rfl
  | some path =>
      cases hfacts : resolved.fileSemanticFacts with
      | none => simp
      | some key =>
          have hkey := htier key hfacts
          cases relationshipKind with
          | imports => exact bundleFact_withServers repository servers hkey
          | importedBy => exact bundleFact_withServers repository servers hkey

theorem renderEdges_withServers
    (htier : ∀ key ∈ resolved.fileSemanticFacts, key.evidenceTier = .structural)
    (relationshipKind : RenderEdgeKind) :
    renderEdges (repository.withServers servers) resolved relationshipKind =
      renderEdges repository resolved relationshipKind := by
  unfold renderEdges factOr
  cases resolved.evidencePath with
  | none => rfl
  | some path =>
      cases hfacts : resolved.fileSemanticFacts with
      | none => simp
      | some key =>
          have hkey := htier key hfacts
          cases relationshipKind with
          | renders => exact bundleFact_withServers repository servers hkey
          | renderedBy => exact bundleFact_withServers repository servers hkey

theorem relatedRunnersForComponent_withServers (primaryComponent : Option Component)
    (limit : ℕ) :
    relatedRunnersForComponent (repository.withServers servers) primaryComponent limit =
      relatedRunnersForComponent repository primaryComponent limit := by
  cases primaryComponent with
  | none => rfl
  | some component => simp [relatedRunnersForComponent, runnerWithId]

theorem runnersAndGates_withServers
    (htier : ∀ key ∈ resolved.fileSemanticFacts, key.evidenceTier = .structural)
    (primaryComponent : Option Component) (limit : ℕ) :
    runnersAndGates (repository.withServers servers) resolved primaryComponent limit =
      runnersAndGates repository resolved primaryComponent limit := by
  have hids : ∀ path, qualityProviderIds (repository.withServers servers) resolved path =
      qualityProviderIds repository resolved path := by
    intro path
    unfold qualityProviderIds
    cases hfacts : resolved.fileSemanticFacts with
    | none => simp
    | some key => exact bundleFact_withServers repository servers (htier key hfacts)
  simp [runnersAndGates, hids, relatedRunnersForComponent_withServers,
    relatedRunnersForOwner, qualityGatesForOwner, providerIdsForOwner, runnerWithId]

variable {options : ChangeOptions}

theorem itemsOf_withServers
    (htier : ∀ key ∈ resolved.fileSemanticFacts, key.evidenceTier = .structural)
    (primaryComponentId : Option String) (hstructural : options.evidenceTier = .structural) :
    itemsOf ⟨repository.withServers servers⟩ resolved primaryComponentId options =
      itemsOf ⟨repository⟩ resolved primaryComponentId options := by
  have hcomponent : ImpactTargetResolver.resolveComponent ⟨repository.withServers servers⟩
        primaryComponentId =
      ImpactTargetResolver.resolveComponent ⟨repository⟩ primaryComponentId := by
    simp [ImpactTargetResolver.resolveComponent]
  have hlocation : componentOfLocation (repository.withServers servers) =
      componentOfLocation repository := by
    funext location
    simp [componentOfLocation]
  have hlocated : implementationComponents (repository.withServers servers) =
      implementationComponents repository := by
    funext locations
    unfold implementationComponents
    rw [hlocation]
  simp only [itemsOf, hcomponent, hlocated, hstructural, unlessStructural,
    primaryComponentContext_withServers, dependentComponents_withServers,
    fileRelationships_withServers _ _ htier, renderEdges_withServers _ _ htier,
    runnersAndGates_withServers _ _ htier]

theorem analyzeResolvedTarget_withServers
    (htier : ∀ key ∈ resolved.fileSemanticFacts, key.evidenceTier = .structural)
    (primaryComponentId : Option String) (hstructural : options.evidenceTier = .structural) :
    analyzeResolvedTarget ⟨repository.withServers servers⟩ resolved primaryComponentId
        options =
      analyzeResolvedTarget ⟨repository⟩ resolved primaryComponentId options := by
  unfold analyzeResolvedTarget
  rw [itemsOf_withServers repository servers htier primaryComponentId hstructural]
  simp [dependentComponentEdges]

theorem itemsOf_structural {primaryComponentId : Option String} {items : ChangeItems}
    (hstructural : options.evidenceTier = .structural)
    (hitems : itemsOf resolver resolved primaryComponentId options = .ok items) :
    items.implementationLocations = [] ∧
      items.referenceLocations = resolved.referenceLocations ∧
      items.fileContext = resolved.fileContext ∧
      items.symbolContext = resolved.symbolContext := by
  unfold itemsOf at hitems
  simp only [hstructural, unlessStructural, ok_bind, bind_eq_ok] at hitems
  obtain ⟨primary, -, context, -, dependents, -, imports, -, importedBy, -, children, -,
    parents, -, components, -, tests, -, others, -, hitems⟩ := hitems
  cases hitems
  exact ⟨rfl, rfl, rfl, rfl⟩

theorem analyzeResolvedTarget_locations {primaryComponentId : Option String} {impact : ChangeImpact}
    (hstructural : options.evidenceTier = .structural)
    (himpact : analyzeResolvedTarget resolver resolved primaryComponentId options =
      .ok impact) :
    (EvidenceResult.impact impact).locations =
      resolved.referenceLocations ++
        resolved.fileContext.toList.flatMap FileContext.locations ++
        resolved.symbolContext.toList.flatMap SymbolContext.locations := by
  unfold analyzeResolvedTarget at himpact
  obtain ⟨items, hitems, himpact⟩ := bind_eq_ok.mp himpact
  obtain ⟨edges, -, himpact⟩ := bind_eq_ok.mp himpact
  obtain ⟨value, -, himpact⟩ := bind_eq_ok.mp himpact
  obtain ⟨evidence, -, himpact⟩ := bind_eq_ok.mp himpact
  obtain ⟨truthCoverage, -, himpact⟩ := bind_eq_ok.mp himpact
  obtain ⟨provenance, -, himpact⟩ := bind_eq_ok.mp himpact
  obtain ⟨himplementations, hreferences, hfile, hsymbol⟩ :=
    itemsOf_structural hstructural hitems
  rw [eq_of_validated himpact]
  simp [EvidenceResult.locations, himplementations, hreferences, hfile, hsymbol]

end ChangeImpactService

/-! ## Resolved targets -/

namespace ImpactTargetResolver

variable (repository : Repository) (servers : ServerAnswers)

variable {options : ResolveOptions}

theorem tier_of_resolve (hresolve : resolver.resolve target options = .ok resolved) :
    ∀ key ∈ resolved.fileSemanticFacts, key.evidenceTier = options.evidenceTier := by
  intro key hkey
  cases target with
  | symbol symbolId =>
      simp only [resolve, resolveSymbolTarget, bind_eq_ok, pure_eq_ok] at hresolve
      obtain ⟨context, -, ownerId, -, fileId, -, testTarget, -, tests, -, rfl⟩ := hresolve
      cases hkey
  | file repositoryRelPath =>
      simp only [resolve, resolveFileTarget, bind_eq_ok, pure_eq_ok] at hresolve
      obtain ⟨path, -, fileOwner, -, context, -, sites, -, tests, -, ownerId, -, fileId, -,
        rfl⟩ := hresolve
      cases hkey
      rfl
  | owner ownerId =>
      simp only [resolve, resolveOwnerTarget, bind_eq_ok, pure_eq_ok] at hresolve
      obtain ⟨owner, -, references, -, componentId, -, testTarget, -, tests, -, rfl⟩ :=
        hresolve
      cases hkey

theorem bundleReferenceSites_structural (path : String)
    (hstructural : options.evidenceTier = .structural) :
    bundleReferenceSites repository path options = .ok [] := by
  unfold bundleReferenceSites
  cases options.includeReferenceLocations with
  | false => rfl
  | true =>
      rw [hstructural]
      exact (fileFact_structural_nil repository path).1

theorem resolveFileTarget_withServers (repositoryRelPath : String)
    (hstructural : options.evidenceTier = .structural) :
    resolveFileTarget ⟨repository.withServers servers⟩ repositoryRelPath options =
      resolveFileTarget ⟨repository⟩ repositoryRelPath options := by
  have howner : ∀ path, bundleOwner (repository.withServers servers) path .structural =
      bundleOwner repository path .structural :=
    fun path => repository.fileFact_withServers servers path .fileOwner
  have htests : ∀ path, bundleRelatedTests (repository.withServers servers) path .structural =
      bundleRelatedTests repository path .structural :=
    fun path => repository.fileFact_withServers servers path .relatedTests
  have hsites : ∀ path, bundleReferenceSites (repository.withServers servers) path options =
      bundleReferenceSites repository path options := by
    intro path
    rw [bundleReferenceSites_structural _ path hstructural,
      bundleReferenceSites_structural _ path hstructural]
  have hcontext : ∀ path,
      buildFileContext (repository.withServers servers) path
          { symbolPreviewLimit := 20
            testPreviewLimit := options.testPreviewLimit
            includeImplementationLocations := options.includeFileContextImplementationLocations
            evidenceTier := .structural } =
        buildFileContext repository path
          { symbolPreviewLimit := 20
            testPreviewLimit := options.testPreviewLimit
            includeImplementationLocations := options.includeFileContextImplementationLocations
            evidenceTier := .structural } :=
    fun path => buildFileContext_withServers repository servers path rfl
  unfold resolveFileTarget
  simp only [hstructural, howner, htests, hsites, hcontext,
    Repository.primaryComponentIdForOwner_withServers,
    Repository.primaryComponentIdForFile_withServers]

theorem locations_of_resolveFileTarget (hstructural : options.evidenceTier = .structural)
    (hresolve : resolveFileTarget ⟨repository⟩ repositoryRelPath options = .ok resolved) :
    resolved.referenceLocations = [] ∧
      resolved.fileContext.toList.flatMap FileContext.locations = [] ∧
      resolved.symbolContext = none := by
  simp only [resolveFileTarget, bind_eq_ok, pure_eq_ok] at hresolve
  obtain ⟨path, -, fileOwner, -, context, hcontext, sites, hsites, tests, -, ownerId, -,
    fileId, -, rfl⟩ := hresolve
  have hnil : sites = [] := by
    rw [bundleReferenceSites_structural repository path hstructural] at hsites
    exact (Except.ok.inj hsites).symm
  have hlocations := buildFileContext_locations repository hstructural hcontext
  simp [hnil, hlocations]

end ImpactTargetResolver

/-! ## Questions to the servers -/

namespace Repository

variable (repository : Repository) (servers : ServerAnswers)

@[simp] theorem asksAbout_withServers (repositoryRelPath : String) :
    (repository.withServers servers).asksAbout repositoryRelPath =
      repository.asksAbout repositoryRelPath := by
  simp [asksAbout, providersForFileRole_withServers, Function.comp_def,
    Provider.withServers]

@[simp] theorem asksOverFiles_withServers (files : List FileInfo) :
    (repository.withServers servers).asksOverFiles files = repository.asksOverFiles files := by
  simp only [asksOverFiles, asksAbout_withServers]

@[simp] theorem asksForOwner_withServers (ownerId : String) (limit : ℕ) :
    (repository.withServers servers).asksForOwner ownerId limit =
      repository.asksForOwner ownerId limit := by
  simp [asksForOwner]

theorem asksNoServer_withServers (call : EvidenceCall) :
    (repository.withServers servers).asksNoServer call = repository.asksNoServer call := by
  cases call with
  | describeFiles paths options => rfl
  | analyzeChange target options =>
      cases target with
      | symbol symbolId => rfl
      | file path => rfl
      | owner ownerId => simp [asksNoServer]

omit repository servers in
theorem collectAnswers_unasked {providers : List Provider}
    (hunasked : ∀ provider ∈ providers, provider.languageServerFiles path = false) :
    collectAnswers (fun provider => provider.symbolsInFile path) providers = .ok [] := by
  induction providers with
  | nil => rfl
  | cons provider providers ih =>
      have hrest := ih fun other hother => hunasked other (List.mem_cons_of_mem _ hother)
      cases provider.otherFiles_without_symbols path
          (hunasked provider List.mem_cons_self) with
      | inl hnone => simp [collectAnswers, hnone, hrest]
      | inr hraises =>
          obtain ⟨message, hmessage⟩ := hraises
          simp [collectAnswers, hmessage, hrest, raiseValueError]

omit repository servers in
theorem collectAnswers_crashed {providers : List Provider}
    (hasked : ∃ provider ∈ providers, provider.languageServerFiles path = true) :
    collectAnswers (fun provider => (provider.withServers .crashed).symbolsInFile path)
        providers = ServerAnswers.crashed.symbolsInFile path := by
  induction providers with
  | nil => simp at hasked
  | cons provider providers ih =>
      cases hfirst : provider.languageServerFiles path with
      | true =>
          simp [collectAnswers, Provider.withServers, hfirst, ServerAnswers.crashed,
            ServerAnswers.unexpectedEof]
      | false =>
          have hrest : ∃ other ∈ providers, other.languageServerFiles path = true := by
            simpa [hfirst] using hasked
          have hown : (provider.withServers .crashed).symbolsInFile path =
              provider.symbolsInFile path := by
            simp [Provider.withServers, hfirst]
          cases provider.otherFiles_without_symbols path hfirst with
          | inl hnone =>
              simp only [collectAnswers, hown, hnone, ih hrest]
              rfl
          | inr hraises =>
              obtain ⟨message, hmessage⟩ := hraises
              simp only [collectAnswers, hown, hmessage, raiseValueError, ih hrest]

theorem listSymbolsInFile_unasked (hunasked : repository.asksAbout repositoryRelPath = .ok false) :
    repository.listSymbolsInFile repositoryRelPath = .ok [] := by
  unfold asksAbout at hunasked
  obtain ⟨path, hpath, hunasked⟩ := bind_eq_ok.mp hunasked
  obtain ⟨providers, hproviders, hunasked⟩ := bind_eq_ok.mp hunasked
  have hall : ∀ provider ∈ providers, provider.languageServerFiles path = false := by
    simpa using hunasked
  unfold listSymbolsInFile
  rw [hpath, ok_bind, hproviders, ok_bind, collectAnswers_unasked hall]
  rfl

theorem listSymbolsInFile_of_error
    (herror : repository.asksAbout repositoryRelPath = .error exception) :
    repository.listSymbolsInFile repositoryRelPath = .error exception := by
  unfold asksAbout at herror
  unfold listSymbolsInFile
  cases hpath : normalizeRepositoryRelativePath repositoryRelPath with
  | error raised =>
      rw [hpath] at herror
      cases herror
      rfl
  | ok path =>
      rw [hpath, ok_bind] at herror
      rw [ok_bind]
      cases hproviders : repository.providersForFileRole path .code with
      | error raised =>
          rw [hproviders] at herror
          cases herror
          rfl
      | ok providers =>
          rw [hproviders] at herror
          cases herror

theorem listSymbolsInFile_crashed (hasked : repository.asksAbout repositoryRelPath = .ok true) :
    (repository.withServers .crashed).listSymbolsInFile repositoryRelPath =
      ServerAnswers.crashed.symbolsInFile repositoryRelPath := by
  unfold asksAbout at hasked
  obtain ⟨path, hpath, hasked⟩ := bind_eq_ok.mp hasked
  obtain ⟨providers, hproviders, hasked⟩ := bind_eq_ok.mp hasked
  have hexists : ∃ provider ∈ providers, provider.languageServerFiles path = true := by
    simpa using hasked
  unfold listSymbolsInFile
  rw [hpath, ok_bind, providersForFileRole_withServers, hproviders, Except.map_ok, ok_bind,
    collectAnswers_map, collectAnswers_crashed hexists]
  rfl

/-! ### References of an owner -/

theorem referencesForFile_unasked (hlimit : limit ≠ 0)
    (hunasked : repository.asksAbout repositoryRelPath = .ok false) :
    repository.referencesForFile repositoryRelPath (some limit) = .ok [] := by
  unfold referencesForFile
  rw [if_neg (by simp [hlimit]), repository.listSymbolsInFile_unasked hunasked]
  rfl

theorem referencesForFile_of_error (hlimit : limit ≠ 0)
    (herror : repository.asksAbout repositoryRelPath = .error exception) :
    repository.referencesForFile repositoryRelPath (some limit) = .error exception := by
  unfold referencesForFile
  rw [if_neg (by simp [hlimit]), repository.listSymbolsInFile_of_error herror]
  rfl

theorem referencesForFile_crashed (hlimit : limit ≠ 0)
    (hasked : repository.asksAbout repositoryRelPath = .ok true) :
    (repository.withServers .crashed).referencesForFile repositoryRelPath (some limit) =
      .error ServerAnswers.unexpectedEof := by
  unfold referencesForFile
  rw [if_neg (by simp [hlimit]), repository.listSymbolsInFile_crashed hasked]
  rfl

def ownerWalk (limit : ℕ) (files : List FileInfo) : PyResult (List CodeLocation) :=
  walkLocations (some limit)
    (fun file => repository.referencesForFile file.repositoryRelPath (some limit)) [] files

theorem ownerWalk_nil (limit : ℕ) : repository.ownerWalk limit [] = .ok [] := rfl

theorem ownerWalk_of_error {file : FileInfo}
    (herror : repository.referencesForFile file.repositoryRelPath (some limit) =
      .error exception) :
    repository.ownerWalk limit (file :: files) = .error exception := by
  unfold ownerWalk walkLocations
  rw [herror]
  rfl

theorem ownerWalk_of_nil {file : FileInfo}
    (hnil : repository.referencesForFile file.repositoryRelPath (some limit) = .ok []) :
    repository.ownerWalk limit (file :: files) = repository.ownerWalk limit files := by
  unfold ownerWalk
  rw [walkLocations, hnil]
  rfl

theorem ownerWalk_unasked (hlimit : limit ≠ 0) (hunasked : repository.asksOverFiles files = false) :
    (repository.withServers servers).ownerWalk limit files = repository.ownerWalk limit files ∧
      ∀ found, repository.ownerWalk limit files = .ok found → found = [] := by
  induction files with
  | nil =>
      constructor
      · rw [ownerWalk_nil, ownerWalk_nil]
      · intro found hfound
        rw [ownerWalk_nil] at hfound
        exact (Except.ok.inj hfound).symm
  | cons file files ih =>
      have hservers := repository.asksAbout_withServers servers file.repositoryRelPath
      cases hasks : repository.asksAbout file.repositoryRelPath with
      | error exception =>
          have hown := repository.referencesForFile_of_error hlimit hasks
          have hother := (repository.withServers servers).referencesForFile_of_error hlimit
            (hservers.trans hasks)
          rw [repository.ownerWalk_of_error hown, ownerWalk_of_error _ hother]
          constructor
          · rfl
          · intro found hfound
            cases hfound
      | ok asked =>
          cases asked with
          | true => simp [asksOverFiles, comesToServer, hasks] at hunasked
          | false =>
              have hrest : repository.asksOverFiles files = false := by
                simpa [asksOverFiles, comesToServer, hasks] using hunasked
              have hown := repository.referencesForFile_unasked hlimit hasks
              have hother := (repository.withServers servers).referencesForFile_unasked hlimit
                (hservers.trans hasks)
              rw [repository.ownerWalk_of_nil hown, ownerWalk_of_nil _ hother]
              exact ih hrest

theorem ownerWalk_crashed (hlimit : limit ≠ 0) (hasked : repository.asksOverFiles files = true) :
    (repository.withServers .crashed).ownerWalk limit files =
      .error ServerAnswers.unexpectedEof := by
  induction files with
  | nil => simp [asksOverFiles, comesToServer] at hasked
  | cons file files ih =>
      cases hasks : repository.asksAbout file.repositoryRelPath with
      | error exception => simp [asksOverFiles, comesToServer, hasks] at hasked
      | ok asked =>
          cases asked with
          | true =>
              exact ownerWalk_of_error _ (repository.referencesForFile_crashed hlimit hasks)
          | false =>
              have hrest : repository.asksOverFiles files = true := by
                simpa [asksOverFiles, comesToServer, hasks] using hasked
              have hother := (repository.withServers .crashed).referencesForFile_unasked hlimit
                ((repository.asksAbout_withServers .crashed _).trans hasks)
              rw [ownerWalk_of_nil _ hother]
              exact ih hrest

theorem referencesForOwner_eq (ownerId : String) {maxFiles : ℕ} (hlimit : limit ≠ 0)
    (hfiles : maxFiles ≠ 0) :
    repository.referencesForOwner ownerId (some limit) (some maxFiles) =
      repository.listFilesByOwner ownerId >>= fun files =>
        repository.ownerWalk limit (files.take maxFiles) >>= fun kept =>
          .ok (sortedBy locationSortKey kept) := by
  unfold referencesForOwner
  rw [if_neg (by simp [hlimit]), if_neg (by simp [hfiles])]
  rfl

end Repository

namespace ImpactTargetResolver

variable (repository : Repository) (servers : ServerAnswers)

def ownerReferences (ownerId : String) (limit : ℕ) : PyResult (List CodeLocation) :=
  orOnValueError
    (do
      let references ←
        repository.referencesForOwner ownerId (some limit) (some (max 10 limit))
      pure (references.take limit))
    []

theorem ownerReferences_eq (ownerId : String) (hlimit : limit ≠ 0) :
    ownerReferences repository ownerId limit =
      orOnValueError
        (repository.listFilesByOwner ownerId >>= fun files =>
          repository.ownerWalk limit (files.take (max 10 limit)) >>= fun kept =>
            .ok ((sortedBy locationSortKey kept).take limit))
        [] := by
  have hfiles : max 10 limit ≠ 0 := by omega
  unfold ownerReferences
  rw [repository.referencesForOwner_eq ownerId hlimit hfiles]
  simp only [bind_assoc, ok_bind]
  rfl

theorem ownerReferences_zero (ownerId : String) :
    ownerReferences repository ownerId 0 = .ok [] := rfl

theorem ownerReferences_unasked (hunasked : repository.asksForOwner ownerId limit = false) :
    ownerReferences (repository.withServers servers) ownerId limit =
        ownerReferences repository ownerId limit ∧
      ∀ found, ownerReferences repository ownerId limit = .ok found → found = [] := by
  by_cases hlimit : limit = 0
  · subst hlimit
    rw [ownerReferences_zero, ownerReferences_zero]
    exact ⟨rfl, fun found hfound => (Except.ok.inj hfound).symm⟩
  · rw [ownerReferences_eq _ _ hlimit, ownerReferences_eq _ _ hlimit,
      Repository.listFilesByOwner_withServers]
    cases hfiles : repository.listFilesByOwner ownerId with
    | error exception =>
        rw [error_bind, error_bind]
        constructor
        · rfl
        · intro found hfound
          cases orOnValueError_eq_ok hfound with
          | inl hraised => cases hraised
          | inr hnone => exact hnone
    | ok files =>
        have hwalk : repository.asksOverFiles (files.take (max 10 limit)) = false := by
          simpa [Repository.asksForOwner, hlimit, hfiles] using hunasked
        have hboth := repository.ownerWalk_unasked servers hlimit hwalk
        rw [ok_bind, ok_bind, hboth.1]
        constructor
        · rfl
        · intro found hfound
          cases orOnValueError_eq_ok hfound with
          | inl hraised =>
              obtain ⟨kept, hkept, hfound⟩ := bind_eq_ok.mp hraised
              rw [hboth.2 kept hkept] at hfound
              cases hfound
              exact List.take_nil
          | inr hnone => exact hnone

theorem ownerReferences_crashed (hasked : repository.asksForOwner ownerId limit = true) :
    ownerReferences (repository.withServers .crashed) ownerId limit =
      .error ServerAnswers.unexpectedEof := by
  simp only [Repository.asksForOwner, Bool.and_eq_true, decide_eq_true_eq] at hasked
  obtain ⟨hlimit, hwalk⟩ := hasked
  rw [ownerReferences_eq _ _ hlimit, Repository.listFilesByOwner_withServers]
  cases hfiles : repository.listFilesByOwner ownerId with
  | error exception => simp [hfiles] at hwalk
  | ok files =>
      have hasks : repository.asksOverFiles (files.take (max 10 limit)) = true := by
        simpa [hfiles] using hwalk
      rw [ok_bind, repository.ownerWalk_crashed hlimit hasks]
      rfl

variable {options : ResolveOptions}

theorem resolveOwnerTarget_unasked
    (hunasked : repository.asksForOwner ownerId options.referencePreviewLimit = false) :
    resolveOwnerTarget ⟨repository.withServers servers⟩ ownerId options =
      resolveOwnerTarget ⟨repository⟩ ownerId options := by
  have hreferences := (ownerReferences_unasked repository servers hunasked).1
  unfold ownerReferences at hreferences
  unfold resolveOwnerTarget
  simp only [hreferences, Repository.resolveOwner_withServers,
    Repository.primaryComponentIdForOwner_withServers, Repository.getRelatedTests_withServers]

theorem locations_of_resolveOwnerTarget
    (hunasked : repository.asksForOwner ownerId options.referencePreviewLimit = false)
    (hresolve : resolveOwnerTarget ⟨repository⟩ ownerId options = .ok resolved) :
    resolved.referenceLocations = [] ∧ resolved.fileContext = none ∧
      resolved.symbolContext = none := by
  simp only [resolveOwnerTarget, bind_eq_ok, pure_eq_ok] at hresolve
  obtain ⟨owner, -, references, hreferences, componentId, -, testTarget, -, tests, -, rfl⟩ :=
    hresolve
  have hnil := (ownerReferences_unasked repository .silent hunasked).2 references
  exact ⟨hnil hreferences, rfl, rfl⟩

theorem resolveOwnerTarget_crashed
    (hasked : repository.asksForOwner ownerId options.referencePreviewLimit = true) :
    resolveOwnerTarget ⟨repository.withServers .crashed⟩ ownerId options ≠ .ok resolved := by
  intro hresolve
  unfold resolveOwnerTarget at hresolve
  obtain ⟨owner, -, hresolve⟩ := bind_eq_ok.mp hresolve
  obtain ⟨references, hreferences, -⟩ := bind_eq_ok.mp hresolve
  have hraised := ownerReferences_crashed repository hasked
  cases hraised.symm.trans hreferences

end ImpactTargetResolver

/-! ### Symbols -/

namespace Repository

variable (repository : Repository)

theorem asksAbout_of_resolveSymbol {symbol : EntityInfo}
    (hresolved : repository.resolveSymbol symbolId = .ok symbol) :
    ∃ path, symbolIdPath symbolId = .ok path ∧ repository.asksAbout path = .ok true := by
  unfold resolveSymbol at hresolved
  obtain ⟨path, hpath, hresolved⟩ := bind_eq_ok.mp hresolved
  obtain ⟨symbols, hsymbols, hresolved⟩ := bind_eq_ok.mp hresolved
  refine ⟨path, hpath, ?_⟩
  cases hasks : repository.asksAbout path with
  | error exception =>
      rw [repository.listSymbolsInFile_of_error hasks] at hsymbols
      cases hsymbols
  | ok asked =>
      cases asked with
      | true => rfl
      | false =>
          rw [repository.listSymbolsInFile_unasked hasks] at hsymbols
          cases hsymbols
          cases hresolved

theorem resolveSymbol_crashed {symbol : EntityInfo}
    (hresolved : repository.resolveSymbol symbolId = .ok symbol) :
    (repository.withServers .crashed).resolveSymbol symbolId =
      .error ServerAnswers.unexpectedEof := by
  obtain ⟨path, hpath, hasked⟩ := repository.asksAbout_of_resolveSymbol hresolved
  unfold resolveSymbol
  rw [hpath, ok_bind, repository.listSymbolsInFile_crashed hasked]
  rfl

end Repository

theorem ImpactTargetResolver.resolveSymbolTarget_crashed (repository : Repository)
    {options : ResolveOptions} {other : ResolvedImpactTarget}
    (hresolved : resolveSymbolTarget ⟨repository⟩ symbolId options = .ok resolved) :
    resolveSymbolTarget ⟨repository.withServers .crashed⟩ symbolId options ≠ .ok other := by
  intro hother
  unfold resolveSymbolTarget Repository.describeSymbolContext at hresolved hother
  obtain ⟨context, hcontext, -⟩ := bind_eq_ok.mp hresolved
  obtain ⟨symbol, hsymbol, -⟩ := bind_eq_ok.mp hcontext
  obtain ⟨otherContext, hotherContext, -⟩ := bind_eq_ok.mp hother
  obtain ⟨otherSymbol, hotherSymbol, -⟩ := bind_eq_ok.mp hotherContext
  cases (repository.resolveSymbol_crashed hsymbol).symm.trans hotherSymbol

/-! ## Independence -/

namespace Repository

variable (repository : Repository) (servers : ServerAnswers)

theorem resolve_of_analyzeChange {options : ChangeOptions} {impact : ChangeImpact}
    (himpact : repository.analyzeChange target options = .ok impact) :
    ∃ resolved primaryComponentId,
      ImpactTargetResolver.resolve ⟨repository⟩ target
          (ChangeImpactService.resolveOptions options) = .ok resolved ∧
        ChangeImpactService.analyzeResolvedTarget ⟨repository⟩ resolved primaryComponentId
          options = .ok impact := by
  rw [analyzeChange_eq] at himpact
  obtain ⟨index, -, himpact⟩ := bind_eq_ok.mp himpact
  unfold ChangeImpactService.analyzeChange at himpact
  obtain ⟨resolved, hresolved, himpact⟩ := bind_eq_ok.mp himpact
  cases hkind : resolved.targetKind with
  | symbol => exact ⟨resolved, _, hresolved, by simpa [hkind] using himpact⟩
  | file => exact ⟨resolved, _, hresolved, by simpa [hkind] using himpact⟩
  | owner => exact ⟨resolved, _, hresolved, by simpa [hkind] using himpact⟩

theorem analyzeChange_withServers {options : ChangeOptions}
    (hstructural : options.evidenceTier = .structural)
    (hresolve : ImpactTargetResolver.resolve ⟨repository.withServers servers⟩ target
          (ChangeImpactService.resolveOptions options) =
        ImpactTargetResolver.resolve ⟨repository⟩ target
          (ChangeImpactService.resolveOptions options)) :
    (repository.withServers servers).analyzeChange target options =
      repository.analyzeChange target options := by
  have hservice : (⟨⟨repository.withServers servers⟩⟩ : ChangeImpactService).analyzeChange
        target options =
      (⟨⟨repository⟩⟩ : ChangeImpactService).analyzeChange target options := by
    unfold ChangeImpactService.analyzeChange
    dsimp only
    rw [hresolve]
    cases hresolved : ImpactTargetResolver.resolve ⟨repository⟩ target
        (ChangeImpactService.resolveOptions options) with
    | error exception => rw [error_bind, error_bind]
    | ok resolved =>
        have htier : ∀ key ∈ resolved.fileSemanticFacts, key.evidenceTier = .structural := by
          intro key hkey
          rw [ImpactTargetResolver.tier_of_resolve hresolved key hkey]
          exact hstructural
        have hanalysed := fun primaryComponentId =>
          ChangeImpactService.analyzeResolvedTarget_withServers repository servers htier
            primaryComponentId hstructural
        simp only [ok_bind, hanalysed]
  rw [analyzeChange_eq, analyzeChange_eq, buildOwnershipIndex_withServers, hservice]

theorem answerCall_withServers (hunasked : repository.asksNoServer call = true) :
    (repository.withServers servers).answerCall call = repository.answerCall call := by
  cases call with
  | describeFiles paths options =>
      have hdescribed : (repository.withServers servers).describeFiles paths
            options.structural = repository.describeFiles paths options.structural :=
        describeFiles_withServers repository servers paths rfl
      simp only [answerCall, hdescribed]
  | analyzeChange target options =>
      have hresolve : ImpactTargetResolver.resolve ⟨repository.withServers servers⟩ target
            (ChangeImpactService.resolveOptions options.structural) =
          ImpactTargetResolver.resolve ⟨repository⟩ target
            (ChangeImpactService.resolveOptions options.structural) := by
        cases target with
        | symbol symbolId => simp [asksNoServer] at hunasked
        | file path =>
            exact ImpactTargetResolver.resolveFileTarget_withServers repository servers path rfl
        | owner ownerId =>
            have howner : repository.asksForOwner ownerId options.referencePreviewLimit =
                false := by
              simpa [asksNoServer] using hunasked
            exact ImpactTargetResolver.resolveOwnerTarget_unasked repository servers howner
      simp only [answerCall, repository.analyzeChange_withServers servers rfl hresolve]

theorem locations_of_answerCall {result : EvidenceResult}
    (hunasked : repository.asksNoServer call = true)
    (hresult : repository.answerCall call = .ok result) : result.locations = [] := by
  cases call with
  | describeFiles paths options =>
      obtain ⟨described, hdescribed, hresult⟩ := bind_eq_ok.mp hresult
      cases hresult
      exact describeFiles_locations repository rfl hdescribed
  | analyzeChange target options =>
      obtain ⟨impact, himpact, hresult⟩ := bind_eq_ok.mp hresult
      cases hresult
      obtain ⟨resolved, primaryComponentId, hresolved, hanalysed⟩ :=
        repository.resolve_of_analyzeChange himpact
      rw [ChangeImpactService.analyzeResolvedTarget_locations rfl hanalysed]
      cases target with
      | symbol symbolId => simp [asksNoServer] at hunasked
      | file path =>
          obtain ⟨hreferences, hfile, hsymbol⟩ :=
            ImpactTargetResolver.locations_of_resolveFileTarget repository rfl hresolved
          simp [hreferences, hfile, hsymbol]
      | owner ownerId =>
          have howner : repository.asksForOwner ownerId options.referencePreviewLimit =
              false := by
            simpa [asksNoServer] using hunasked
          obtain ⟨hreferences, hfile, hsymbol⟩ :=
            ImpactTargetResolver.locations_of_resolveOwnerTarget repository howner hresolved
          simp [hreferences, hfile, hsymbol]

theorem asksNoServer_of_sameButServers
    {other : Repository} (hsame : repository.SameButServers other) (call : EvidenceCall) :
    other.asksNoServer call = repository.asksNoServer call := by
  rw [← other.asksNoServer_withServers .silent, ← repository.asksNoServer_withServers .silent]
  rw [show repository.withServers .silent = other.withServers .silent from hsame]

theorem answerCall_crashed {result other : EvidenceResult}
    (hresult : repository.answerCall call = .ok result)
    (hasked : repository.asksNoServer call = false) :
    (repository.withServers .crashed).answerCall call ≠ .ok other := by
  intro hother
  cases call with
  | describeFiles paths options => cases hasked
  | analyzeChange target options =>
      obtain ⟨impact, himpact, -⟩ := bind_eq_ok.mp hresult
      obtain ⟨otherImpact, hotherImpact, -⟩ := bind_eq_ok.mp hother
      obtain ⟨resolved, -, hresolved, -⟩ := repository.resolve_of_analyzeChange himpact
      obtain ⟨otherResolved, -, hotherResolved, -⟩ := resolve_of_analyzeChange _ hotherImpact
      cases target with
      | symbol symbolId =>
          exact ImpactTargetResolver.resolveSymbolTarget_crashed repository hresolved
            hotherResolved
      | file path => cases hasked
      | owner ownerId =>
          have howner : repository.asksForOwner ownerId options.referencePreviewLimit =
              true := by
            simpa [asksNoServer] using hasked
          exact ImpactTargetResolver.resolveOwnerTarget_crashed repository howner
            hotherResolved

end Repository

namespace EvidenceSample

def symbol : EntityInfo :=
  { id := "entity:src/app.ts:function:run:3-5"
    name := "run"
    repositoryRelPath := "src/app.ts"
    entityKind := "function"
    lineStart := some 3
    columnStart := some 1
    provenance := [] }

def location : CodeLocation :=
  { repositoryRelPath := "src/app.ts"
    lineStart := 9
    columnStart := 1
    symbolId := none
    provenance := [⟨.authoritative, .lsp, some "typescript-language-server",
      "reference reported by the server", ["src/app.ts"]⟩] }

def provider : Provider :=
  { providerId := "npm"
    components := [ImpactSample.component]
    files := [ImpactSample.file]
    symbolsInFile := fun _ => .ok [symbol]
    references := fun _ _ _ => .ok [location] }

/-- A package whose server knows one symbol and one reference to it. -/
def repository : Repository :=
  ⟨"/w", [provider], fun _ => [.architecture, .code]⟩

end EvidenceSample

end SuitCode
