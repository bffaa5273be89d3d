import SuitCode.CandidateIds

/-!
# Coherence of one change set

Two properties of the change set of a single target: the replacements an
exclusion names are part of the plan, and a target which is declared to have no
deterministic validation surface is given none.  Both fail for some targets;
each is proved equivalent to a condition on the candidates.
-/

namespace SuitCode

open PosixText KeyedList ExceptList

/-! ## Replacements -/

/-- The ids an exclusion names as replacements are planned, and no test excluded
as a broad fallback is named as the replacement of another one. -/
def MinimumVerifiedChangeSet.Coherent (changeSet : MinimumVerifiedChangeSet) : Prop :=
  (∀ excluded ∈ changeSet.excludedItems, ∀ replacement ∈ excluded.replacedByIds,
    replacement ∈ changeSet.tests.map MinimumVerifiedTestTarget.testId ∨
      replacement ∈ changeSet.buildTargets.map MinimumVerifiedBuildTarget.actionId) ∧
  ∀ excluded ∈ changeSet.excludedItems,
    excluded.reasonCode = .broadTestReplacedBySpecificTests →
      ∀ other ∈ changeSet.excludedItems,
        other.reasonCode = .broadTestReplacedBySpecificTests →
          other.itemId ∉ excluded.replacedByIds

instance (changeSet : MinimumVerifiedChangeSet) : Decidable changeSet.Coherent :=
  inferInstanceAs (Decidable (_ ∧ _))

/-- At most one related test is dropped as broad, and one which was matched more
than once comes back as a test of a dependent component. -/
def ValidationCandidates.ReplacementsSurvive (candidates : ValidationCandidates) : Prop :=
  (droppedTestIds candidates.related).length ≤ 1 ∧
    ∀ testId ∈ droppedTestIds candidates.related,
      2 ≤ (candidatesFor candidates.related testId).length →
        candidates.returnsDependentTests = true ∧ testId ∈ candidates.dependentTestIds

theorem not_mem_keptTestIds_of_dropped
    {related : List ResolvedRelatedTest} {testId : String}
    (hdropped : testId ∈ droppedTestIds related) : testId ∉ keptTestIds related := by
  intro hkept
  have htrue := (List.mem_filter.mp hdropped).2
  have hfalse := (List.mem_filter.mp hkept).2
  simp [htrue] at hfalse

theorem mem_keptTestIds_of_not_dropped
    {related : List ResolvedRelatedTest} {testId : String}
    (hmem : testId ∈ relatedTestIds related) (hnot : testId ∉ droppedTestIds related) :
    testId ∈ keptTestIds related := by
  cases hdropped : droppedAsBroad related testId with
  | true => exact absurd (List.mem_filter.mpr ⟨hmem, hdropped⟩) hnot
  | false => exact List.mem_filter.mpr ⟨hmem, by simp [hdropped]⟩

theorem nodup_droppedTestIds (related : List ResolvedRelatedTest) :
    (droppedTestIds related).Nodup :=
  (nodup_relatedTestIds related).filter _

theorem eq_of_length_le_one
    {items : List String} {left right : String} (hlength : items.length ≤ 1)
    (hleft : left ∈ items) (hright : right ∈ items) : left = right := by
  cases items with
  | nil => simp at hleft
  | cons head tail =>
      cases tail with
      | nil =>
          rw [List.mem_singleton] at hleft hright
          rw [hleft, hright]
      | cons next rest =>
          simp at hlength

theorem exists_ne_of_two_le_length
    {items : List String} (hnodup : items.Nodup) (hlength : 2 ≤ items.length) :
    ∃ left ∈ items, ∃ right ∈ items, left ≠ right := by
  cases items with
  | nil => simp at hlength
  | cons head tail =>
      cases tail with
      | nil => simp at hlength
      | cons next rest =>
          refine ⟨head, by simp, next, by simp, ?_⟩
          intro heq
          rw [List.nodup_cons] at hnodup
          apply hnodup.1
          rw [heq]
          exact List.mem_cons_self

section Coherence

variable {repository : Repository} {candidates : ValidationCandidates}
  {changeSet : MinimumVerifiedChangeSet}

theorem mem_tests_or_builds_iff
    (hcandidates : CandidatesFacts repository candidates)
    (hfacts : ChangeSetFacts repository candidates changeSet) {testId : String}
    (htag : startsWith testId "test:" = true) :
    (testId ∈ changeSet.tests.map MinimumVerifiedTestTarget.testId ∨
        testId ∈ changeSet.buildTargets.map MinimumVerifiedBuildTarget.actionId) ↔
      testId ∈ candidates.plannedTestIds := by
  rw [hfacts.testIds_eq, hfacts.buildIds_eq]
  constructor
  · intro hmem
    rcases hmem with htest | hbuild
    · exact htest
    · rcases List.mem_map.mp hbuild with ⟨build, hbuild, heq⟩
      have hne := testId_ne_actionId htag
        (candidates.plannedBuilds_tagged hcandidates hbuild)
      exact absurd heq.symm hne
  · exact Or.inl

theorem exists_broad_of_reasonCode
    (hfacts : ChangeSetFacts repository candidates changeSet)
    {excluded : ExcludedMinimumVerifiedItem} (hmem : excluded ∈ changeSet.excludedItems)
    (hreason : excluded.reasonCode = .broadTestReplacedBySpecificTests) :
    ∃ testId ∈ droppedTestIds candidates.related,
      IsBroadExclusion candidates.related excluded testId := by
  cases hfacts.exclusion_cases excluded hmem with
  | duplicate testId hmem hlength hexcluded =>
      rw [hexcluded.reasonCode_eq] at hreason
      cases hreason
  | broad testId hmem hexcluded => exact ⟨testId, hmem, hexcluded⟩
  | dependentTest testId hreplaces hmem hexcluded =>
      rw [hexcluded.reasonCode_eq] at hreason
      cases hreason
  | repositoryBuild target hnarrow hmem hexcluded =>
      rw [hexcluded.reasonCode_eq] at hreason
      cases hreason
  | surface hexcluded =>
      have hcode := hexcluded.reasonCode_mem
      rw [hreason] at hcode
      simp at hcode

theorem replacementsSurvive_of_coherent
    (hcandidates : CandidatesFacts repository candidates)
    (hfacts : ChangeSetFacts repository candidates changeSet)
    (hcoherent : changeSet.Coherent) : candidates.ReplacementsSurvive := by
  rcases hcoherent with ⟨hplanned, hbroad⟩
  constructor
  · by_contra hlength
    have htwo : 2 ≤ (droppedTestIds candidates.related).length := by omega
    rcases exists_ne_of_two_le_length (nodup_droppedTestIds _) htwo with
      ⟨left, hleft, right, hright, hne⟩
    rcases hfacts.exists_broad left hleft with ⟨excluded, hexcluded, hleftFacts⟩
    rcases hfacts.exists_broad right hright with ⟨other, hother, hrightFacts⟩
    apply hbroad excluded hexcluded hleftFacts.reasonCode_eq other hother
      hrightFacts.reasonCode_eq
    rw [hrightFacts.itemId_eq, hleftFacts.mem_replacedByIds_iff]
    exact ⟨(List.mem_filter.mp hright).1, hne.symm⟩
  · intro testId hdropped hlength
    have hmem := (List.mem_filter.mp hdropped).1
    rcases hfacts.exists_duplicate testId hmem hlength with
      ⟨excluded, hexcluded, hduplicate⟩
    have hreplacement : testId ∈ excluded.replacedByIds := by
      rw [hduplicate.replacedByIds_eq]
      exact List.mem_singleton_self testId
    have hincluded := hplanned excluded hexcluded testId hreplacement
    rw [mem_tests_or_builds_iff hcandidates hfacts
      (hcandidates.related_tagged testId hmem)] at hincluded
    unfold ValidationCandidates.plannedTestIds at hincluded
    by_cases hreturns : candidates.returnsDependentTests = true
    · rw [if_pos hreturns] at hincluded
      exact ⟨hreturns, hincluded⟩
    · rw [if_neg hreturns] at hincluded
      exact absurd hincluded (not_mem_keptTestIds_of_dropped hdropped)

theorem coherent_of_replacementsSurvive
    (hcandidates : CandidatesFacts repository candidates)
    (hfacts : ChangeSetFacts repository candidates changeSet)
    (hsurvive : candidates.ReplacementsSurvive) : changeSet.Coherent := by
  rcases hsurvive with ⟨hlength, hreturned⟩
  constructor
  · intro excluded hexcluded replacement hreplacement
    cases hfacts.exclusion_cases excluded hexcluded with
    | duplicate testId hmem hmatches hduplicate =>
        rw [hduplicate.replacedByIds_eq, List.mem_singleton] at hreplacement
        subst hreplacement
        rw [mem_tests_or_builds_iff hcandidates hfacts
          (hcandidates.related_tagged _ hmem)]
        by_cases hdropped : replacement ∈ droppedTestIds candidates.related
        · rcases hreturned replacement hdropped hmatches with ⟨hreturns, hids⟩
          unfold ValidationCandidates.plannedTestIds
          rw [if_pos hreturns]
          exact hids
        · exact candidates.mem_plannedTestIds_of_kept hcandidates
            (mem_keptTestIds_of_not_dropped hmem hdropped)
    | broad testId hmem hbroad =>
        rcases (hbroad.mem_replacedByIds_iff replacement).mp hreplacement with
          ⟨hrelated, hne⟩
        rw [mem_tests_or_builds_iff hcandidates hfacts
          (hcandidates.related_tagged _ hrelated)]
        have hkept : replacement ∉ droppedTestIds candidates.related := by
          intro hdropped
          exact hne (eq_of_length_le_one hlength hdropped hmem)
        exact candidates.mem_plannedTestIds_of_kept hcandidates
          (mem_keptTestIds_of_not_dropped hrelated hkept)
    | dependentTest testId hreplaces hmem hdependent =>
        rw [hdependent.replacedByIds_eq] at hreplacement
        right
        have hsome : candidates.directBuilds ≠ [] := by
          intro hnone
          simp [ValidationCandidates.replacesDependentTests, hnone] at hreplaces
        rw [hfacts.buildIds_eq, candidates.plannedBuilds_eq_of_ne_nil hsome]
        exact hreplacement
    | repositoryBuild target hnarrow hmem hbuild =>
        rw [hbuild.replacedByIds_eq] at hreplacement
        right
        have hdirect := candidates.directBuilds_eq_narrowBuilds hnarrow
        have hsome : candidates.directBuilds ≠ [] := by
          rw [hdirect]
          exact hnarrow
        rw [hfacts.buildIds_eq, candidates.plannedBuilds_eq_of_ne_nil hsome, hdirect]
        exact hreplacement
    | surface hsurface =>
        rw [hsurface.replacedByIds_eq] at hreplacement
        simp at hreplacement
  · intro excluded hexcluded hreason other hother hotherReason hmem
    rcases exists_broad_of_reasonCode hfacts hexcluded hreason with
      ⟨testId, htestId, hbroad⟩
    rcases exists_broad_of_reasonCode hfacts hother hotherReason with
      ⟨otherId, hotherId, hotherBroad⟩
    rw [hotherBroad.itemId_eq] at hmem
    have hne := ((hbroad.mem_replacedByIds_iff otherId).mp hmem).2
    exact hne (eq_of_length_le_one hlength hotherId htestId)

end Coherence

/-- The replacements named by a change set are planned exactly when at most one
related test is dropped as broad and a dropped one matched more than once comes
back. -/
theorem changeSet_coherent_iff
    {repository : Repository} {target : ChangeTarget}
    {changeSet : MinimumVerifiedChangeSet}
    (hok : getMinimumVerifiedChangeSet repository target = .ok changeSet) :
    ∃ candidates, validationCandidates repository target = .ok candidates ∧
      (changeSet.Coherent ↔ candidates.ReplacementsSurvive) := by
  rcases getMinimumVerifiedChangeSet_facts hok with ⟨candidates, hcandidates, hfacts⟩
  have hcandidatesFacts := validationCandidates_facts hcandidates
  refine ⟨candidates, hcandidates, ?_, ?_⟩
  · exact replacementsSurvive_of_coherent hcandidatesFacts hfacts
  · exact coherent_of_replacementsSurvive hcandidatesFacts hfacts

/-! ## A small repository -/

namespace Sample

def manifest : List ProvenanceEntry :=
  [⟨.authoritative, .manifest, none, "declared in the manifest", ["pyproject.toml"]⟩]

def collected : List ProvenanceEntry :=
  [⟨.authoritative, .testTool, some "pytest", "collected by pytest", ["tests"]⟩]

def component (id : String) (sourceRoots artifactPaths : List String) : Component :=
  { id := id
    name := id
    componentKind := .package
    language := .python
    sourceRoots := sourceRoots
    artifactPaths := artifactPaths
    provenance := manifest }

def file (ownerId path : String) : FileInfo :=
  { id := "file:" ++ path
    name := path
    repositoryRelPath := path
    language := none
    ownerId := ownerId
    provenance := manifest }

def test (id : String) : TestDefinition :=
  { id := id
    name := id
    framework := .pytest
    testFiles := [] }

def discovered (id : String) : DiscoveredTestDefinition :=
  { testDefinition := test id
    provenance := collected }

def describe (id : String) : PyResult TestTargetDescription :=
  .ok
    { testDefinition := test id
      commandArgv := ["pytest", id]
      commandCwd := none
      isAuthoritative := true
      warning := none
      provenance := collected }

def relatedMatch (id : String) (reason : RelationReason)
    (ownerId path : Option String) : RelatedTestMatch :=
  { testDefinition := test id
    relationReason := reason
    matchedOwnerId := ownerId
    matchedRepositoryRelPath := path }

def buildAction (providerId id targetId : String) (targetKind : ActionTargetKind) :
    RepositoryAction :=
  { id := id
    name := id
    kind := .buildExecution
    providerId := providerId
    targetId := targetId
    targetKind := targetKind
    ownerIds := []
    proofFacets := []
    invocation := ⟨["build", targetId], none⟩
    dryRunSupported := false
    provenance := manifest }

def repository (providers : List Provider) (roles : List ProviderRole) : Repository :=
  { root := "/work/sample"
    providers := providers
    providerRoles := fun _ => roles }

def twoBroadSuites : Repository :=
  repository
    [{ providerId := "python"
       components := [component "component:python:app" ["src"] []]
       files := [file "component:python:app" "src/app.py"]
       discoveredTests :=
        [discovered "test:python:all", discovered "test:python:app",
          discovered "test:python:slow"]
       relatedTests := fun _ => .ok
        [relatedMatch "test:python:all" .repositoryDefaultSuite none none,
          relatedMatch "test:python:app" .sameOwner none (some "src/app.py"),
          relatedMatch "test:python:slow" .repositoryDefaultSuite none none]
       testTargets := describe }]
    [.architecture, .test]

end Sample

theorem twoBroadSuites_incoherent :
    (getMinimumVerifiedChangeSet Sample.twoBroadSuites (.file "src/app.py")).Yields
      fun changeSet => ¬ changeSet.Coherent := by
  decide +kernel

/-- With two fallback suites each is named as a replacement of the other, and
neither is planned. -/
theorem changeSet_not_always_coherent :
    ¬ ∀ (repository : Repository) (target : ChangeTarget)
      (changeSet : MinimumVerifiedChangeSet),
      getMinimumVerifiedChangeSet repository target = .ok changeSet →
        changeSet.Coherent := by
  intro hall
  rcases twoBroadSuites_incoherent.exists_ok with ⟨changeSet, hok, hnot⟩
  exact hnot (hall _ _ _ hok)

/-- The equivalence at a repository where it decides against coherence. -/
theorem changeSet_coherent_iff_twoBroadSuites :
    ∃ changeSet,
      getMinimumVerifiedChangeSet Sample.twoBroadSuites (.file "src/app.py") =
          .ok changeSet ∧
        ∃ candidates,
          validationCandidates Sample.twoBroadSuites (.file "src/app.py") =
              .ok candidates ∧
            (changeSet.Coherent ↔ candidates.ReplacementsSurvive) := by
  rcases twoBroadSuites_incoherent.exists_ok with ⟨changeSet, hok, -⟩
  exact ⟨changeSet, hok, changeSet_coherent_iff hok⟩

/-! ## Targets without a validation surface -/

/-- When an exclusion claims that there is no deterministic validation surface,
no validation is required. -/
def MinimumVerifiedChangeSet.RespectsNoSurfaceClaim
    (changeSet : MinimumVerifiedChangeSet) : Prop :=
  (∃ excluded ∈ changeSet.excludedItems, claimsNoSurface excluded = true) →
    changeSet.tests = [] ∧ changeSet.buildTargets = [] ∧ changeSet.runnerActions = [] ∧
      changeSet.qualityValidationOperations = []

instance (changeSet : MinimumVerifiedChangeSet) :
    Decidable changeSet.RespectsNoSurfaceClaim :=
  inferInstanceAs (Decidable (_ → _))

namespace ValidationCandidates

/-- No test is kept, no build target applies to the target or to the whole
repository, no runner owns it and no quality provider covers its files. -/
def HasNoSurface (candidates : ValidationCandidates) : Prop :=
  keptTestIds candidates.related = [] ∧ candidates.narrowBuilds = [] ∧
    candidates.repositoryBuilds = [] ∧ candidates.resolved.owner.kind ≠ .runner ∧
    candidates.qualityProviderIds = []

/-- The target is an artifact member, or is not structured content, or nothing in
the repository would validate it. -/
def NoSurfaceClaimHolds (candidates : ValidationCandidates) : Prop :=
  candidates.artifactMember.isSome = true ∨ candidates.structuredArtifacts = [] ∨
    candidates.HasNoSurface

theorem directBuilds_eq_nil_iff (candidates : ValidationCandidates) :
    candidates.directBuilds = [] ↔
      candidates.narrowBuilds = [] ∧ candidates.repositoryBuilds = [] := by
  unfold directBuilds
  cases hnarrow : candidates.narrowBuilds with
  | nil => simp
  | cons build builds => simp

theorem hasNoSurface_of_artifact
    (candidates : ValidationCandidates) (hartifact : ArtifactFacts candidates) :
    candidates.HasNoSurface := by
  constructor
  · rw [hartifact.related_nil]
    rfl
  · refine ⟨?_, ?_, ?_, hartifact.qualityProviderIds_nil⟩
    · have hnone : ∀ build ∈ candidates.narrowBuilds, False := by
        intro build hbuild
        have hmem := (mem_of_mem_narrowBuildTargets hbuild).1
        rw [hartifact.targets_nil] at hmem
        simp at hmem
      exact List.eq_nil_iff_forall_not_mem.mpr hnone
    · unfold repositoryBuilds
      rw [hartifact.targets_nil]
      rfl
    · rw [hartifact.owner_kind]
      simp

end ValidationCandidates

section NoSurface

variable {repository : Repository} {candidates : ValidationCandidates}
  {changeSet : MinimumVerifiedChangeSet}

theorem required_nil_iff_hasNoSurface
    (hfacts : ChangeSetFacts repository candidates changeSet)
    (hdependents : candidates.dependents = []) (hnone : candidates.dependentTests = []) :
    (changeSet.tests = [] ∧ changeSet.buildTargets = [] ∧ changeSet.runnerActions = [] ∧
      changeSet.qualityValidationOperations = []) ↔ candidates.HasNoSurface := by
  have htests : changeSet.tests = [] ↔ keptTestIds candidates.related = [] := by
    have hplanned : candidates.plannedTestIds = keptTestIds candidates.related := by
      simp [ValidationCandidates.plannedTestIds,
        ValidationCandidates.returnsDependentTests, hnone]
    rw [← hplanned, ← hfacts.testIds_eq, List.map_eq_nil_iff]
  have hbuilds : changeSet.buildTargets = [] ↔ candidates.directBuilds = [] := by
    have hplanned : candidates.plannedBuilds = candidates.directBuilds := by
      simp [ValidationCandidates.plannedBuilds, hdependents]
    have hids := hfacts.buildIds_eq
    rw [hplanned] at hids
    rw [← List.isEmpty_iff, ← List.isEmpty_iff, isEmpty_eq_of_map_eq hids]
  have hquality : changeSet.qualityValidationOperations = [] ↔
      candidates.qualityProviderIds = [] := by
    rw [← hfacts.validation.providerIds_eq, List.map_eq_nil_iff]
  rw [htests, hbuilds, hfacts.runnerActions.nil_iff, hquality,
    candidates.directBuilds_eq_nil_iff, ValidationCandidates.HasNoSurface, and_assoc]

end NoSurface

/-- A claimed absence of validation surfaces is respected exactly for artifact
members, for files without structured content, and where no surface exists. -/
theorem changeSet_respectsNoSurfaceClaim_iff
    {repository : Repository} {target : ChangeTarget}
    {changeSet : MinimumVerifiedChangeSet}
    (hok : getMinimumVerifiedChangeSet repository target = .ok changeSet) :
    ∃ candidates, validationCandidates repository target = .ok candidates ∧
      (changeSet.RespectsNoSurfaceClaim ↔ candidates.NoSurfaceClaimHolds) := by
  rcases getMinimumVerifiedChangeSet_facts hok with ⟨candidates, hcandidates, hfacts⟩
  refine ⟨candidates, hcandidates, ?_⟩
  unfold MinimumVerifiedChangeSet.RespectsNoSurfaceClaim
  rw [hfacts.claimsNoSurface_iff]
  by_cases hclaimed : candidates.artifactMember.isSome = true ∨
      candidates.structuredArtifacts ≠ []
  · rcases validationCandidates_dependents_nil hcandidates hclaimed with
      ⟨hdependents, hnone⟩
    rw [required_nil_iff_hasNoSurface hfacts hdependents hnone]
    constructor
    · intro hrespected
      exact Or.inr (Or.inr (hrespected hclaimed))
    · intro hholds _
      rcases hholds with hmember | hstructured | hnoSurface
      · exact candidates.hasNoSurface_of_artifact
          (validationCandidates_artifact hcandidates hmember)
      · rcases hclaimed with hmember | hstructured'
        · exact candidates.hasNoSurface_of_artifact
            (validationCandidates_artifact hcandidates hmember)
        · exact absurd hstructured hstructured'
      · exact hnoSurface
  · have hstructured : candidates.structuredArtifacts = [] := by
      by_contra hsome
      exact hclaimed (Or.inr hsome)
    constructor
    · intro _
      exact Or.inr (Or.inl hstructured)
    · intro _ hclaims
      exact absurd hclaims hclaimed

namespace Sample

def readmeInPythonProject : Repository :=
  { root := "/work/sample"
    providers :=
      [{ providerId := "markdown"
         components := [component "component:markdown:documents" ["."] []]
         files := [file "component:markdown:documents" "README.md"]
         structuredArtifact := fun _ => .ok (some ⟨.markdownDocument⟩) },
        { providerId := "python"
          components := [component "component:python:app" ["src"] []]
          files := [file "component:python:app" "src/app.py"]
          actions :=
            [buildAction "python" "action:python:build:repository"
              "repository:python:root" .repository] }]
    providerRoles := fun providerId =>
      if providerId = "markdown" then [.architecture]
      else [.architecture, .code, .test, .quality] }

end Sample

theorem readme_disrespectsNoSurfaceClaim :
    (getMinimumVerifiedChangeSet Sample.readmeInPythonProject (.file "README.md")).Yields
      fun changeSet => ¬ changeSet.RespectsNoSurfaceClaim := by
  decide +kernel

/-- The README is given the build of the Python project and, in the same change
set, the explanation that it has no deterministic validation surface. -/
theorem changeSet_not_always_respectsNoSurfaceClaim :
    ¬ ∀ (repository : Repository) (target : ChangeTarget)
      (changeSet : MinimumVerifiedChangeSet),
      getMinimumVerifiedChangeSet repository target = .ok changeSet →
        changeSet.RespectsNoSurfaceClaim := by
  intro hall
  rcases readme_disrespectsNoSurfaceClaim.exists_ok with ⟨changeSet, hok, hnot⟩
  exact hnot (hall _ _ _ hok)

/-- The equivalence at the README of a Python project. -/
theorem changeSet_respectsNoSurfaceClaim_iff_readme :
    ∃ changeSet,
      getMinimumVerifiedChangeSet Sample.readmeInPythonProject (.file "README.md") =
          .ok changeSet ∧
        ∃ candidates,
          validationCandidates Sample.readmeInPythonProject (.file "README.md") =
              .ok candidates ∧
            (changeSet.RespectsNoSurfaceClaim ↔ candidates.NoSurfaceClaimHolds) := by
  rcases readme_disrespectsNoSurfaceClaim.exists_ok with ⟨changeSet, hok, -⟩
  exact ⟨changeSet, hok, changeSet_respectsNoSurfaceClaim_iff hok⟩

end SuitCode
