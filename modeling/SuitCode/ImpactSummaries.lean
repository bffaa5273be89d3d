import SuitCode.ChangeImpactService

/-!
# Totals in impact summaries

An impact summary would report totals if its counts did not depend on the preview
limits.  The service of the summaries constructs its resolver without the file
facts, so that no summary is ever returned; the lists which the resolver hands to a
service are cut at the limits already.
-/

namespace SuitCode

open PosixText KeyedList ExceptList

namespace ImpactPreviewLimits

structure Positive (limits : ImpactPreviewLimits) : Prop where
  reference : 1 ≤ limits.referencePreviewLimit
  dependent : 1 ≤ limits.dependentPreviewLimit
  test : 1 ≤ limits.testPreviewLimit

end ImpactPreviewLimits

theorem defaultLimits_positive : ({} : ImpactPreviewLimits).Positive := by
  constructor <;> decide

namespace Repository

/-- A target which `analyze_change` accepts. -/
def AcceptsChange (repository : Repository) (target : ChangeTarget) : Prop :=
  ∃ options impact, repository.analyzeChange target options = .ok impact

/-- A summary over the full lists of a target, with the owner and the component which
`analyze_change` reports. -/
structure SummaryOver (repository : Repository) (target : ChangeTarget)
    (dependentIds : List String) (references : List CodeLocation)
    (tests : List ResolvedRelatedTest) (limits : ImpactPreviewLimits)
    (summary : ImpactSummary) : Prop where
  dependentCount : summary.dependentComponentCount = dependentIds.length
  dependentsPreview :
    summary.dependentComponentIdsPreview = dependentIds.take limits.dependentPreviewLimit
  referenceCount : summary.referenceCount = references.length
  referencesPreview :
    summary.referencesPreview = references.take limits.referencePreviewLimit
  testCount : summary.relatedTestCount = tests.length
  testsPreview :
    summary.relatedTestIdsPreview =
      (tests.take limits.testPreviewLimit).map ResolvedRelatedTest.testId
  agrees :
    ∀ options impact, repository.analyzeChange target options = .ok impact →
      summary.owner = impact.owner ∧
        summary.primaryComponentId = impact.primaryComponent.map Component.id

/-- For all limits a summary is returned, and all of them are over the same lists. -/
def ReportsTotals (repository : Repository) (target : ChangeTarget) : Prop :=
  ∃ dependentIds references tests, ∀ limits : ImpactPreviewLimits, limits.Positive →
    ∃ summary, repository.analyzeImpact target limits = .ok summary ∧
      repository.SummaryOver target dependentIds references tests limits summary

end Repository

/-! ## The construction of the services -/

def missingFileFacts : PyError :=
  .typeError ("ImpactTargetResolver.__init__() missing 1 required positional argument: " ++
    "'file_semantic_facts_service'")

theorem ImpactTargetResolver.create_without_facts (repository : Repository) :
    ImpactTargetResolver.create repository
      [.repository, .ownershipIndex, .contextService, .componentContextResolver,
        .codeReferenceService] = .error missingFileFacts := by
  unfold ImpactTargetResolver.create
  have hbind : bindArguments "ImpactTargetResolver.__init__" ImpactTargetResolver.parameters
      [.repository, .ownershipIndex, .contextService, .componentContextResolver,
        .codeReferenceService] = .error missingFileFacts := by
    decide +kernel
  rw [hbind]
  rfl

variable {target : ChangeTarget}

namespace Repository

theorem buildImpactService_raises (repository : Repository) :
    repository.buildImpactService =
      repository.buildOwnershipIndex.bind fun _ => .error missingFileFacts := by
  unfold buildImpactService ImpactService.create
  rw [bindArguments_ok rfl, ImpactTargetResolver.create_without_facts]
  rfl

theorem analyzeImpact_eq (repository : Repository) (target : ChangeTarget)
    (limits : ImpactPreviewLimits) :
    repository.analyzeImpact target limits =
      repository.buildOwnershipIndex.bind fun _ => .error missingFileFacts := by
  unfold analyzeImpact
  rw [buildImpactService_raises]
  cases repository.buildOwnershipIndex with
  | error exception => rfl
  | ok index => rfl

theorem analyzeImpact_ne_ok {repository : Repository} {limits : ImpactPreviewLimits}
    {summary : ImpactSummary} :
    repository.analyzeImpact target limits ≠ .ok summary := by
  rw [analyzeImpact_eq]
  intro hsummary
  obtain ⟨index, -, herror⟩ := bind_eq_ok.mp hsummary
  cases herror

/-- No target has its impact reported in totals. -/
theorem reportsTotals_never (repository : Repository) (target : ChangeTarget) :
    ¬ repository.ReportsTotals target := by
  rintro ⟨dependentIds, references, tests, hall⟩
  obtain ⟨summary, hsummary, -⟩ := hall {} defaultLimits_positive
  exact analyzeImpact_ne_ok hsummary

end Repository

/-! ## Lists cut before they are counted -/

namespace ImpactTargetResolver

/-- The references and tests of a resolved target fit the limits of the previews. -/
def CutAt (options : ResolveOptions) (resolved : ResolvedImpactTarget) : Prop :=
  resolved.referenceLocations.length ≤ options.referencePreviewLimit ∧
    resolved.relatedTests.length ≤ options.testPreviewLimit

variable {resolver : ImpactTargetResolver} {options : ResolveOptions}
  {resolved : ResolvedImpactTarget}

theorem cutAt_of_symbol {symbolId : String}
    (hresolved : resolver.resolveSymbolTarget symbolId options = .ok resolved) :
    CutAt options resolved := by
  unfold resolveSymbolTarget at hresolved
  obtain ⟨context, -, hresolved⟩ := bind_eq_ok.mp hresolved
  obtain ⟨ownerComponent, -, hresolved⟩ := bind_eq_ok.mp hresolved
  obtain ⟨fileComponent, -, hresolved⟩ := bind_eq_ok.mp hresolved
  obtain ⟨testTarget, -, hresolved⟩ := bind_eq_ok.mp hresolved
  obtain ⟨tests, -, hresolved⟩ := bind_eq_ok.mp hresolved
  rw [← pure_eq_ok.mp hresolved]
  exact ⟨List.length_take_le _ _, List.length_take_le _ _⟩

theorem cutAt_of_file {repositoryRelPath : String}
    (hresolved : resolver.resolveFileTarget repositoryRelPath options = .ok resolved) :
    CutAt options resolved := by
  unfold resolveFileTarget at hresolved
  obtain ⟨path, -, hresolved⟩ := bind_eq_ok.mp hresolved
  obtain ⟨fileOwner, -, hresolved⟩ := bind_eq_ok.mp hresolved
  obtain ⟨context, -, hresolved⟩ := bind_eq_ok.mp hresolved
  obtain ⟨sites, -, hresolved⟩ := bind_eq_ok.mp hresolved
  obtain ⟨tests, -, hresolved⟩ := bind_eq_ok.mp hresolved
  obtain ⟨ownerComponent, -, hresolved⟩ := bind_eq_ok.mp hresolved
  obtain ⟨fileComponent, -, hresolved⟩ := bind_eq_ok.mp hresolved
  rw [← pure_eq_ok.mp hresolved]
  exact ⟨List.length_take_le _ _, List.length_take_le _ _⟩

theorem cutAt_of_owner {ownerId : String}
    (hresolved : resolver.resolveOwnerTarget ownerId options = .ok resolved) :
    CutAt options resolved := by
  unfold resolveOwnerTarget at hresolved
  obtain ⟨owner, -, hresolved⟩ := bind_eq_ok.mp hresolved
  obtain ⟨references, hreferences, hresolved⟩ := bind_eq_ok.mp hresolved
  obtain ⟨ownerComponent, -, hresolved⟩ := bind_eq_ok.mp hresolved
  obtain ⟨testTarget, -, hresolved⟩ := bind_eq_ok.mp hresolved
  obtain ⟨tests, -, hresolved⟩ := bind_eq_ok.mp hresolved
  have hcut : references.length ≤ options.referencePreviewLimit := by
    cases orOnValueError_eq_ok hreferences with
    | inl hfound =>
        obtain ⟨found, -, heq⟩ := bind_eq_ok.mp hfound
        rw [← pure_eq_ok.mp heq]
        exact List.length_take_le _ _
    | inr hnone =>
        rw [hnone]
        exact Nat.zero_le _
  rw [← pure_eq_ok.mp hresolved]
  exact ⟨hcut, List.length_take_le _ _⟩

theorem cutAt_of_resolve (hresolved : resolver.resolve target options = .ok resolved) :
    CutAt options resolved := by
  cases target with
  | symbol symbolId => exact cutAt_of_symbol hresolved
  | file repositoryRelPath => exact cutAt_of_file hresolved
  | owner ownerId => exact cutAt_of_owner hresolved

end ImpactTargetResolver

/-- Were the service constructed, its counts would still not be totals: they are the lengths
of lists which the resolver has cut at the limits of the previews. -/
theorem ImpactService.counts_le_limits {service : ImpactService} {limits : ImpactPreviewLimits}
    {summary : ImpactSummary} (hsummary : service.analyzeImpact target limits = .ok summary) :
    summary.referenceCount ≤ limits.referencePreviewLimit ∧
      summary.relatedTestCount ≤ limits.testPreviewLimit := by
  unfold analyzeImpact at hsummary
  obtain ⟨resolved, hresolved, hsummary⟩ := bind_eq_ok.mp hsummary
  obtain ⟨dependentIds, -, hsummary⟩ := bind_eq_ok.mp hsummary
  obtain ⟨provenance, -, hsummary⟩ := bind_eq_ok.mp hsummary
  rw [← pure_eq_ok.mp hsummary]
  exact ImpactTargetResolver.cutAt_of_resolve hresolved

namespace ImpactSample

def component : Component :=
  { id := "component:npm:app"
    name := "app"
    componentKind := .package
    language := .typescript
    sourceRoots := ["src"]
    artifactPaths := []
    provenance := [⟨.derived, .manifest, none, "package.json", ["package.json"]⟩] }

def file : FileInfo :=
  { id := "file:src/app.ts"
    name := "app.ts"
    repositoryRelPath := "src/app.ts"
    language := some .typescript
    ownerId := "component:npm:app"
    provenance := [⟨.derived, .manifest, none, "package.json", ["package.json"]⟩] }

def repository : Repository :=
  ⟨"/w", [{ providerId := "npm", components := [component], files := [file] }],
    fun _ => [.architecture, .code]⟩

end ImpactSample

theorem impactSample_accepts :
    ImpactSample.repository.AcceptsChange (.file "src/app.ts") := by
  have haccepts :
      (ImpactSample.repository.analyzeChange (.file "src/app.ts") {}).isOk = true := by
    decide +kernel
  cases hchange : ImpactSample.repository.analyzeChange (.file "src/app.ts") {} with
  | error exception =>
      rw [hchange] at haccepts
      cases haccepts
  | ok impact => exact ⟨{}, impact, hchange⟩

/-- The impact of a file whose change is analysed is not reported. -/
theorem impact_not_always_reported :
    ¬ ∀ (repository : Repository) (target : ChangeTarget),
        repository.AcceptsChange target → repository.ReportsTotals target := by
  intro hall
  obtain ⟨dependentIds, references, tests, hreports⟩ :=
    hall ImpactSample.repository (.file "src/app.ts") impactSample_accepts
  obtain ⟨summary, hsummary, -⟩ := hreports {} defaultLimits_positive
  exact Repository.analyzeImpact_ne_ok hsummary

end SuitCode
