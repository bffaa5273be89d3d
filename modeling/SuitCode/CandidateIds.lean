import SuitCode.ChangeSetFacts

/-!
# Ids of candidates

Test ids and action ids carry different tags from the providers on, so the ids
of planned tests and planned builds never meet.
-/

namespace SuitCode

open PosixText KeyedList ExceptList

/-! ## Tags of tests -/

theorem Repository.indexDiscoveredTests_eq
    {seen : List String} {pairs index : List (DiscoveredTestDefinition × Provider)}
    (hok : Repository.indexDiscoveredTests seen pairs = .ok index) : index = pairs := by
  induction pairs generalizing seen index with
  | nil =>
      simp only [Repository.indexDiscoveredTests, Except.ok.injEq] at hok
      exact hok.symm
  | cons pair pairs ih =>
      rcases pair with ⟨test, provider⟩
      unfold Repository.indexDiscoveredTests at hok
      by_cases hseen : test.testDefinition.id ∈ seen
      · simp [hseen] at hok
      · rw [if_neg hseen] at hok
        rcases bind_eq_ok.mp hok with ⟨rest, hrest, hok⟩
        rw [pure_eq_ok] at hok
        rw [← hok, ih hrest]

variable {repository : Repository} {candidates : ValidationCandidates} {testId : String}

theorem Repository.getDiscoveredTests_tagged {tests : List DiscoveredTestDefinition}
    (hok : repository.getDiscoveredTests = .ok tests) {test : DiscoveredTestDefinition}
    (hmem : test ∈ tests) : startsWith test.testDefinition.id "test:" = true := by
  unfold Repository.getDiscoveredTests Repository.discoveredTestIndex at hok
  rcases bind_eq_ok.mp hok with ⟨index, hindex, hok⟩
  rw [pure_eq_ok] at hok
  subst hok
  rw [Repository.indexDiscoveredTests_eq hindex, mem_sortedBy] at hmem
  rcases List.mem_map.mp hmem with ⟨pair, hpair, hfst⟩
  rcases List.mem_flatMap.mp hpair with ⟨provider, -, hpair⟩
  rcases List.mem_map.mp hpair with ⟨reported, hreported, heq⟩
  subst heq
  subst hfst
  exact provider.testIds_tagged _ hreported

theorem Repository.resolveRelatedTest_mem
    {discovered : List DiscoveredTestDefinition} {relatedMatch : RelatedTestMatch}
    {related : ResolvedRelatedTest}
    (hok : Repository.resolveRelatedTest discovered relatedMatch = .ok related) :
    related.discoveredTest ∈ discovered := by
  unfold Repository.resolveRelatedTest at hok
  split at hok
  · rename_i test hfind
    rw [Except.ok.injEq] at hok
    subst hok
    exact List.mem_of_find?_eq_some hfind
  · simp at hok

theorem Repository.getRelatedTests_tagged {target : RelatedTestTarget}
    {related : List ResolvedRelatedTest} (hok : repository.getRelatedTests target = .ok related)
    {test : ResolvedRelatedTest} (hmem : test ∈ related) :
    startsWith test.testId "test:" = true := by
  unfold Repository.getRelatedTests at hok
  rcases bind_eq_ok.mp hok with ⟨discovered, hdiscovered, hok⟩
  rcases bind_eq_ok.mp hok with ⟨providers, -, hok⟩
  rcases bind_eq_ok.mp hok with ⟨items, hitems, hok⟩
  rw [pure_eq_ok] at hok
  subst hok
  rcases List.mem_flatten.mp (mem_sortedBy.mp hmem) with ⟨group, hgroup, hmem⟩
  rcases exists_input_of_mem hitems hgroup with ⟨provider, -, hprovider⟩
  rcases bind_eq_ok.mp hprovider with ⟨matched, -, hprovider⟩
  rcases exists_input_of_mem hprovider hmem with ⟨relatedMatch, -, hresolved⟩
  have htag := Repository.getDiscoveredTests_tagged hdiscovered
    (Repository.resolveRelatedTest_mem hresolved)
  have hsame : test.testId = test.discoveredTest.testDefinition.id := test.sameTest
  rw [hsame]
  exact htag

theorem relatedTestsFor_tagged {resolved : ResolvedMinimumTarget}
    {related : List ResolvedRelatedTest} (hok : repository.relatedTestsFor resolved = .ok related)
    {test : ResolvedRelatedTest} (hmem : test ∈ related) :
    startsWith test.testId "test:" = true := by
  unfold Repository.relatedTestsFor at hok
  split at hok
  · rcases bind_eq_ok.mp hok with ⟨target, -, hok⟩
    exact Repository.getRelatedTests_tagged hok hmem
  · rcases bind_eq_ok.mp hok with ⟨target, -, hok⟩
    exact Repository.getRelatedTests_tagged hok hmem
  · simp at hok

theorem relatedTestsForDependentComponents_tagged {dependents : List ResolvedDependentComponent}
    {tests : List (ResolvedRelatedTest × List ProvenanceEntry)}
    (hok : repository.relatedTestsForDependentComponents dependents = .ok tests)
    {candidate : ResolvedRelatedTest × List ProvenanceEntry} (hmem : candidate ∈ tests) :
    startsWith candidate.1.testId "test:" = true := by
  unfold Repository.relatedTestsForDependentComponents at hok
  rcases bind_eq_ok.mp hok with ⟨collected, hcollected, hok⟩
  rw [pure_eq_ok] at hok
  subst hok
  rcases List.mem_flatten.mp (mem_of_mem_dedupeBy hmem) with ⟨group, hgroup, hmem⟩
  rcases exists_input_of_mem hcollected hgroup with ⟨dependent, -, hgroupOk⟩
  unfold Repository.relatedTestsOfDependent at hgroupOk
  rcases bind_eq_ok.mp hgroupOk with ⟨target, -, hgroupOk⟩
  rcases bind_eq_ok.mp hgroupOk with ⟨related, hrelated, hgroupOk⟩
  rw [pure_eq_ok] at hgroupOk
  subst hgroupOk
  rcases List.mem_map.mp hmem with ⟨test, htest, heq⟩
  subst heq
  change startsWith test.testId "test:" = true
  exact Repository.getRelatedTests_tagged hrelated htest

/-! ## Candidates of a target -/

structure CandidatesFacts (repository : Repository) (candidates : ValidationCandidates) :
    Prop where
  related_tagged : ∀ testId ∈ relatedTestIds candidates.related,
    startsWith testId "test:" = true
  dependentTests_tagged : ∀ testId ∈ candidates.dependentTestIds,
    startsWith testId "test:" = true
  targets_tagged : ∀ target ∈ candidates.targets,
    startsWith target.actionId "action:" = true
  targets_listed : candidates.targets = [] ∨
    repository.listBuildTargets = .ok candidates.targets
  kept_nil : candidates.dependentTests ≠ [] → keptTestIds candidates.related = []

theorem validationCandidates_facts {target : ChangeTarget}
    (hok : validationCandidates repository target = .ok candidates) :
    CandidatesFacts repository candidates := by
  unfold validationCandidates at hok
  rcases bind_eq_ok.mp hok with ⟨resolved, -, hok⟩
  rcases bind_eq_ok.mp hok with ⟨artifacts, -, hok⟩
  rcases bind_eq_ok.mp hok with ⟨dependents, -, hok⟩
  rcases bind_eq_ok.mp hok with ⟨related, hrelated, hok⟩
  rcases bind_eq_ok.mp hok with ⟨targets, htargets, hok⟩
  rcases bind_eq_ok.mp hok with ⟨dependentTests, hdependentTests, hok⟩
  rcases bind_eq_ok.mp hok with ⟨runnerActions, -, hok⟩
  rcases bind_eq_ok.mp hok with ⟨providerIds, -, hok⟩
  rw [pure_eq_ok] at hok
  subst hok
  unfold relatedTestsUnlessArtifact at hrelated
  unfold buildTargetsUnlessArtifact at htargets
  unfold dependentTestsAsked at hdependentTests
  constructor
  case related_tagged =>
    intro testId hmem
    rcases mem_relatedTestIds.mp hmem with ⟨test, htest, heq⟩
    subst heq
    split at hrelated
    · rw [pure_eq_ok] at hrelated
      subst hrelated
      simp at htest
    · exact relatedTestsFor_tagged hrelated htest
  case dependentTests_tagged =>
    intro testId hmem
    rcases List.mem_map.mp hmem with ⟨candidate, hcandidate, heq⟩
    subst heq
    split at hdependentTests
    · exact relatedTestsForDependentComponents_tagged hdependentTests hcandidate
    · rw [pure_eq_ok] at hdependentTests
      subst hdependentTests
      simp at hcandidate
  case targets_tagged =>
    intro build hmem
    split at htargets
    · rw [pure_eq_ok] at htargets
      subst htargets
      simp at hmem
    · exact Repository.buildTarget_tagged htargets hmem
  case targets_listed =>
    split at htargets
    · rw [pure_eq_ok] at htargets
      exact Or.inl htargets.symm
    · exact Or.inr htargets
  case kept_nil =>
    intro hsome
    split at hdependentTests
    · rename_i hasked
      simp only [Bool.and_eq_true, List.isEmpty_iff] at hasked
      exact hasked.1
    · rw [pure_eq_ok] at hdependentTests
      exact absurd hdependentTests.symm hsome

structure ArtifactFacts (candidates : ValidationCandidates) : Prop where
  owner_kind : candidates.resolved.owner.kind = .component
  related_nil : candidates.related = []
  targets_nil : candidates.targets = []
  qualityProviderIds_nil : candidates.qualityProviderIds = []

theorem artifactMemberForTarget_owner_kind {resolved : ResolvedMinimumTarget}
    (hsome : (repository.artifactMemberForTarget resolved).isSome = true) :
    resolved.owner.kind = .component := by
  unfold Repository.artifactMemberForTarget at hsome
  split at hsome
  · by_cases hkind : resolved.owner.kind = .component
    · exact hkind
    · simp [hkind] at hsome
  · simp at hsome

theorem validationCandidates_artifact {target : ChangeTarget}
    (hok : validationCandidates repository target = .ok candidates)
    (hartifact : candidates.artifactMember.isSome = true) : ArtifactFacts candidates := by
  unfold validationCandidates at hok
  simp only [bind_eq_ok, pure_eq_ok] at hok
  rcases hok with ⟨resolved, -, artifacts, -, dependents, -, related, hrelated, targets,
    htargets, dependentTests, -, runnerActions, -, providerIds, hproviderIds, heq⟩
  subst heq
  have hisNone : (repository.artifactMemberForTarget resolved).isNone = false := by
    simpa [Option.isSome_iff_ne_none] using hartifact
  constructor
  case owner_kind => exact artifactMemberForTarget_owner_kind hartifact
  case related_nil =>
    rw [relatedTestsUnlessArtifact, if_pos hartifact, pure_eq_ok] at hrelated
    exact hrelated.symm
  case targets_nil =>
    rw [buildTargetsUnlessArtifact, if_pos hartifact, pure_eq_ok] at htargets
    exact htargets.symm
  case qualityProviderIds_nil =>
    simp only [qualityProviderIdsFor, hisNone, Bool.and_false, Bool.false_eq_true, if_false,
      pure_eq_ok] at hproviderIds
    exact hproviderIds.symm

theorem validationCandidates_dependents_nil {target : ChangeTarget}
    (hok : validationCandidates repository target = .ok candidates)
    (hartifact : candidates.artifactMember.isSome = true ∨
      candidates.structuredArtifacts ≠ []) :
    candidates.dependents = [] ∧ candidates.dependentTests = [] := by
  unfold validationCandidates at hok
  simp only [bind_eq_ok, pure_eq_ok] at hok
  rcases hok with ⟨resolved, -, artifacts, -, dependents, hdependents, related, -, targets,
    -, dependentTests, hdependentTests, runnerActions, -, providerIds, -, heq⟩
  subst heq
  have hskipped : (!artifacts.isEmpty ||
      (repository.artifactMemberForTarget resolved).isSome) = true := by
    rcases hartifact with hmember | hstructured
    · simp only [hmember, Bool.or_true]
    · have hisEmpty : artifacts.isEmpty = false := by simpa using hstructured
      simp only [hisEmpty, Bool.not_false, Bool.true_or]
  rw [dependentsFor, if_pos hskipped, pure_eq_ok] at hdependents
  subst hdependents
  simp only [dependentTestsAsked, List.isEmpty_nil, Bool.not_true, Bool.and_false,
    Bool.false_eq_true, if_false, pure_eq_ok] at hdependentTests
  exact ⟨rfl, hdependentTests.symm⟩

namespace ValidationCandidates

theorem plannedBuilds_eq_of_ne_nil (hsome : candidates.directBuilds ≠ []) :
    candidates.plannedBuilds = candidates.directBuilds := by
  unfold plannedBuilds
  have hisEmpty : candidates.directBuilds.isEmpty = false := by simpa using hsome
  simp only [hisEmpty, Bool.and_false, Bool.false_and, Bool.false_eq_true, if_false]

theorem directBuilds_eq_narrowBuilds (hnarrow : candidates.narrowBuilds ≠ []) :
    candidates.directBuilds = candidates.narrowBuilds := by
  unfold directBuilds
  have hisEmpty : candidates.narrowBuilds.isEmpty = false := by simpa using hnarrow
  simp only [hisEmpty, Bool.false_eq_true, if_false]

theorem plannedBuilds_subset (candidates : ValidationCandidates) :
    ∀ target ∈ candidates.plannedBuilds, target ∈ candidates.targets := by
  intro target hmem
  unfold plannedBuilds at hmem
  split at hmem
  · exact mem_of_mem_chosenBuildTargets hmem
  · unfold directBuilds at hmem
    split at hmem
    · exact (List.mem_filter.mp hmem).1
    · exact (mem_of_mem_narrowBuildTargets hmem).1

theorem returnsDependentTests_of_kept (hfacts : CandidatesFacts repository candidates)
    (hkept : testId ∈ keptTestIds candidates.related) :
    candidates.returnsDependentTests = false := by
  have hnone : candidates.dependentTests = [] := by
    by_contra hsome
    rw [hfacts.kept_nil hsome] at hkept
    simp at hkept
  simp [returnsDependentTests, hnone]

/-- A test which the minimizer keeps is planned. -/
theorem mem_plannedTestIds_of_kept (hfacts : CandidatesFacts repository candidates)
    (hkept : testId ∈ keptTestIds candidates.related) :
    testId ∈ candidates.plannedTestIds := by
  unfold plannedTestIds
  rw [returnsDependentTests_of_kept hfacts hkept]
  exact hkept

theorem plannedTestIds_tagged (hfacts : CandidatesFacts repository candidates)
    (hmem : testId ∈ candidates.plannedTestIds) : startsWith testId "test:" = true := by
  unfold plannedTestIds at hmem
  split at hmem
  · exact hfacts.dependentTests_tagged testId hmem
  · exact hfacts.related_tagged testId (List.mem_filter.mp hmem).1

theorem plannedBuilds_tagged (hfacts : CandidatesFacts repository candidates)
    {target : BuildTargetDescription} (hmem : target ∈ candidates.plannedBuilds) :
    startsWith target.actionId "action:" = true :=
  hfacts.targets_tagged target (candidates.plannedBuilds_subset target hmem)

end ValidationCandidates

theorem testId_ne_actionId {actionId : String} (htest : startsWith testId "test:" = true)
    (haction : startsWith actionId "action:" = true) : testId ≠ actionId := by
  have htest' : startsWith testId "t" = true := startsWith_trans (by decide) htest
  have haction' : startsWith actionId "a" = true := startsWith_trans (by decide) haction
  exact ne_of_startsWith htest' haction' (by decide) (by decide)

end SuitCode
