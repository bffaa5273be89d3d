import SuitCode.MinimumVerifiedService
import SuitCode.BuildTargetFacts

/-!
# What a change set consists of

The candidates of a target are what the service collects before it decides:
related tests, build targets, dependent components and quality providers.  A
successful run of the service is described by its candidates alone; every
later statement about change sets is derived from this description.
-/

namespace SuitCode

open PosixText KeyedList ExceptList

/-! ## Candidates -/

structure ValidationCandidates where
  resolved : ResolvedMinimumTarget
  artifactMember : Option (String × String)
  structuredArtifacts : List StructuredArtifact
  related : List ResolvedRelatedTest
  targets : List BuildTargetDescription
  dependents : List ResolvedDependentComponent
  dependentTests : List (ResolvedRelatedTest × List ProvenanceEntry)
  runnerActions : List RepositoryAction
  qualityProviderIds : List String
  deriving DecidableEq

/-- The candidates of a target, collected as the service collects them. -/
def validationCandidates (repository : Repository) (target : ChangeTarget) :
    PyResult ValidationCandidates := do
  let resolved ← repository.resolveTarget target
  let artifactMember := repository.artifactMemberForTarget resolved
  let structuredArtifacts ← repository.structuredArtifactsForTarget resolved
  let dependents ← dependentsFor repository resolved artifactMember structuredArtifacts
  let related ← relatedTestsUnlessArtifact repository resolved artifactMember
  let targets ← buildTargetsUnlessArtifact repository artifactMember
  let dependentTests ←
    dependentTestsAsked repository dependents (keptTestIds related).isEmpty
  let runnerActions ← runnerActionsAsked repository resolved
  let qualityProviderIds ← qualityProviderIdsFor repository resolved artifactMember
  pure
    { resolved := resolved
      artifactMember := artifactMember
      structuredArtifacts := structuredArtifacts
      related := related
      targets := targets
      dependents := dependents
      dependentTests := dependentTests
      runnerActions := runnerActions
      qualityProviderIds := qualityProviderIds }

namespace ValidationCandidates

def narrowBuilds (candidates : ValidationCandidates) : List BuildTargetDescription :=
  narrowBuildTargets candidates.resolved.owner candidates.resolved.primaryComponent
    candidates.targets

def repositoryBuilds (candidates : ValidationCandidates) : List BuildTargetDescription :=
  repositoryBuildTargets candidates.targets

def directBuilds (candidates : ValidationCandidates) : List BuildTargetDescription :=
  if candidates.narrowBuilds.isEmpty then candidates.repositoryBuilds
  else candidates.narrowBuilds

def dependentTestIds (candidates : ValidationCandidates) : List String :=
  candidates.dependentTests.map fun candidate => candidate.1.testId

def replacesDependentTests (candidates : ValidationCandidates) : Bool :=
  !candidates.dependentTests.isEmpty && !candidates.directBuilds.isEmpty

def returnsDependentTests (candidates : ValidationCandidates) : Bool :=
  !candidates.dependentTests.isEmpty && candidates.directBuilds.isEmpty

def plannedTestIds (candidates : ValidationCandidates) : List String :=
  if candidates.returnsDependentTests then candidates.dependentTestIds
  else keptTestIds candidates.related

def plannedBuilds (candidates : ValidationCandidates) : List BuildTargetDescription :=
  if candidates.plannedTestIds.isEmpty && candidates.directBuilds.isEmpty &&
      !candidates.dependents.isEmpty then
    chosenBuildTargets candidates.resolved.owner candidates.resolved.primaryComponent
      candidates.targets candidates.dependents
  else
    candidates.directBuilds

end ValidationCandidates

/-! ## Tests of dependent components -/

theorem humanTestReason_asDependentTest
    (dependent : ResolvedDependentComponent) (related : ResolvedRelatedTest) :
    humanTestReason (Repository.asDependentTest dependent related) =
      dependentTestReason := rfl

structure DependentTestsFacts
    (tests : List (ResolvedRelatedTest × List ProvenanceEntry)) : Prop where
  reason_eq : ∀ candidate ∈ tests, humanTestReason candidate.1 = dependentTestReason
  nodup : (tests.map fun candidate => candidate.1.testId).Nodup

theorem relatedTestsForDependentComponents_facts
    {repository : Repository} {dependents : List ResolvedDependentComponent}
    {tests : List (ResolvedRelatedTest × List ProvenanceEntry)}
    (hok : repository.relatedTestsForDependentComponents dependents = .ok tests) :
    DependentTestsFacts tests := by
  unfold Repository.relatedTestsForDependentComponents at hok
  rcases bind_eq_ok.mp hok with ⟨collected, hcollected, hok⟩
  rw [pure_eq_ok] at hok
  subst hok
  refine ⟨?_, nodup_map_dedupeBy _ _⟩
  intro candidate hcandidate
  have hmem := mem_of_mem_dedupeBy hcandidate
  rcases List.mem_flatten.mp hmem with ⟨group, hgroup, hmem⟩
  rcases exists_input_of_mem hcollected hgroup with ⟨dependent, -, hgroupOk⟩
  unfold Repository.relatedTestsOfDependent at hgroupOk
  rcases bind_eq_ok.mp hgroupOk with ⟨target, -, hgroupOk⟩
  rcases bind_eq_ok.mp hgroupOk with ⟨related, -, hgroupOk⟩
  rw [pure_eq_ok] at hgroupOk
  subst hgroupOk
  rcases List.mem_map.mp hmem with ⟨test, -, heq⟩
  subst heq
  exact humanTestReason_asDependentTest dependent test

structure IsDependentTestExclusion (excluded : ExcludedMinimumVerifiedItem)
    (testId : String) (builds : List BuildTargetDescription) : Prop where
  itemKind_eq : excluded.itemKind = .testTarget
  itemId_eq : excluded.itemId = testId
  reasonCode_eq : excluded.reasonCode = .dependentTestReplacedByNarrowerBuild
  replacedByIds_eq :
    excluded.replacedByIds = builds.map BuildTargetDescription.actionId

theorem dependentTestExclusion_facts
    {builds : List BuildTargetDescription} {replacementIds : List String}
    {candidate : ResolvedRelatedTest × List ProvenanceEntry}
    {excluded : ExcludedMinimumVerifiedItem}
    (hids : replacementIds = builds.map BuildTargetDescription.actionId)
    (hok : dependentTestExclusion replacementIds candidate = .ok excluded) :
    IsDependentTestExclusion excluded candidate.1.testId builds := by
  have heq := exclusion_eq hok
  subst heq
  exact ⟨rfl, rfl, rfl, hids⟩

theorem dependentTestFor_facts
    {repository : Repository} {targetAnchorId : String}
    {candidate : ResolvedRelatedTest × List ProvenanceEntry}
    {item : MinimumVerifiedTestTarget}
    (hok : dependentTestFor repository targetAnchorId candidate = .ok item) :
    item.testId = candidate.1.testId ∧
      item.inclusionReason = humanTestReason candidate.1 := by
  unfold dependentTestFor at hok
  rcases bind_eq_ok.mp hok with ⟨description, hdescription, hok⟩
  have hitem := testTargetItem_eq hok
  refine ⟨?_, hitem.2⟩
  unfold MinimumVerifiedTestTarget.testId
  rw [hitem.1]
  exact Repository.describeTestTarget_testId hdescription

/-! ## Planning of dependent tests -/

section DependentPlan

variable {repository : Repository} {targetAnchorId : String}
  {dependents : List ResolvedDependentComponent}
  {tests : List MinimumVerifiedTestTarget} {builds : List MinimumVerifiedBuildTarget}
  {planned : MinimizedTests}

inductive DependentPlanOutcome (repository : Repository) (targetAnchorId : String)
    (tests : List MinimumVerifiedTestTarget) (builds : List MinimumVerifiedBuildTarget)
    (dependentTests : List (ResolvedRelatedTest × List ProvenanceEntry))
    (planned : MinimizedTests) : Prop where
  | unchanged (hnone : dependentTests = []) (heq : planned = ⟨tests, []⟩)
  | replaced (hnone : tests = []) (hsome : dependentTests ≠ []) (hbuilds : builds ≠ [])
      (htests : planned.tests = [])
      (hexclusions : dependentTests.mapM (dependentTestExclusion
        (builds.map MinimumVerifiedBuildTarget.actionId)) = .ok planned.exclusions)
  | returned (hnone : tests = []) (hsome : dependentTests ≠ []) (hbuilds : builds = [])
      (htests : dependentTests.mapM (dependentTestFor repository targetAnchorId) =
        .ok planned.tests)
      (hexclusions : planned.exclusions = [])

theorem planDependentTests_outcome
    (hok : planDependentTests repository targetAnchorId dependents tests builds =
      .ok planned) :
    ∃ dependentTests,
      dependentTestsAsked repository dependents tests.isEmpty = .ok dependentTests ∧
      DependentPlanOutcome repository targetAnchorId tests builds dependentTests planned := by
  unfold planDependentTests at hok
  rcases bind_eq_ok.mp hok with ⟨collected, hcollected, hok⟩
  refine ⟨collected, hcollected, ?_⟩
  by_cases hempty : collected = []
  · simp only [hempty, List.isEmpty_nil, if_true, pure_eq_ok] at hok
    exact .unchanged hempty hok.symm
  · have hisEmpty : collected.isEmpty = false := by simpa using hempty
    have hnone : tests = [] := by
      by_contra hsome
      have hnot : tests.isEmpty = false := by simpa using hsome
      simp only [dependentTestsAsked, hnot, Bool.false_and, Bool.false_eq_true, if_false,
        pure_eq_ok] at hcollected
      exact hempty hcollected.symm
    simp only [hisEmpty, Bool.false_eq_true, if_false] at hok
    cases hbuilds : builds.isEmpty with
    | false =>
        simp only [hbuilds, Bool.not_false, if_true] at hok
        rcases bind_eq_ok.mp hok with ⟨exclusions, hexclusions, hok⟩
        rw [pure_eq_ok] at hok
        subst hok
        exact .replaced hnone hempty (by simpa using hbuilds) hnone hexclusions
    | true =>
        simp only [hbuilds, Bool.not_true, Bool.false_eq_true, if_false] at hok
        rcases bind_eq_ok.mp hok with ⟨returned, hreturned, hok⟩
        rw [pure_eq_ok] at hok
        subst hok
        exact .returned hnone hempty (by simpa using hbuilds) hreturned rfl

end DependentPlan

/-! ## Exclusions which explain what is missing -/

structure IsSurfaceExclusion (excluded : ExcludedMinimumVerifiedItem) : Prop where
  replacedByIds_eq : excluded.replacedByIds = []
  itemId_tagged : startsWith excluded.itemId "validation_surface:" = true ∨
    startsWith excluded.itemId "test_surface:" = true
  reasonCode_mem : excluded.reasonCode ∈
    [MinimumVerifiedExclusionReason.noDeterministicTestTargetsAvailable,
      .noNarrowerDirectValidationSurfaceForFileTarget,
      .noDeterministicValidationSurfaceForArtifactMember,
      .noDeterministicValidationSurfacesForProviderOwnedArtifact]

def claimsNoSurface (excluded : ExcludedMinimumVerifiedItem) : Bool :=
  excluded.reasonCode = .noDeterministicValidationSurfacesForProviderOwnedArtifact ||
    excluded.reasonCode = .noDeterministicValidationSurfaceForArtifactMember

theorem startsWith_append (start rest : String) :
    startsWith (start ++ rest) start = true := by
  simp [startsWith]

variable {resolved : ResolvedMinimumTarget} {surfaces : PlannedSurfaces}
  {artifactMember : Option (String × String)} {changeSet : MinimumVerifiedChangeSet}

theorem sharedFileSurfaceExplanations_facts {exclusions : List ExcludedMinimumVerifiedItem}
    (hok : sharedFileSurfaceExplanations resolved surfaces = .ok exclusions) :
    ∀ excluded ∈ exclusions,
      IsSurfaceExclusion excluded ∧ claimsNoSurface excluded = false := by
  unfold sharedFileSurfaceExplanations at hok
  split at hok
  · rcases bind_eq_ok.mp hok with ⟨entry, -, hok⟩
    rcases bind_eq_ok.mp hok with ⟨built, hbuilt, hok⟩
    rw [pure_eq_ok] at hok
    subst hok
    have heq := exclusion_eq hbuilt
    subst heq
    intro excluded hexcluded
    rw [List.mem_singleton] at hexcluded
    subst hexcluded
    refine ⟨⟨rfl, Or.inl ?_, by simp⟩, rfl⟩
    have htag : "validation_surface:breadth:" = "validation_surface:" ++ "breadth:" := by
      decide
    dsimp only
    rw [htag, String.append_assoc]
    exact startsWith_append _ _
  · rw [pure_eq_ok] at hok
    subst hok
    simp

theorem availabilityExclusions_facts {repository : Repository} {artifacts : List StructuredArtifact}
    {exclusions : List ExcludedMinimumVerifiedItem}
    (hartifacts : repository.structuredArtifactsForTarget resolved = .ok artifacts)
    (hok : availabilityExclusions repository resolved artifactMember surfaces =
      .ok exclusions) :
    (∀ excluded ∈ exclusions, IsSurfaceExclusion excluded) ∧
      ((∃ excluded ∈ exclusions, claimsNoSurface excluded = true) ↔
        artifactMember.isSome = true ∨ artifacts ≠ []) := by
  unfold availabilityExclusions at hok
  cases artifactMember with
  | some member =>
      rcases bind_eq_ok.mp hok with ⟨built, hbuilt, hok⟩
      rw [pure_eq_ok] at hok
      subst hok
      unfold artifactMemberExclusion at hbuilt
      rcases bind_eq_ok.mp hbuilt with ⟨entry, -, hbuilt⟩
      have heq := exclusion_eq hbuilt
      subst heq
      refine ⟨?_, by simp [claimsNoSurface]⟩
      intro excluded hexcluded
      rw [List.mem_singleton] at hexcluded
      subst hexcluded
      refine ⟨rfl, Or.inl ?_, by simp⟩
      have htag : "validation_surface:artifact:" = "validation_surface:" ++ "artifact:" := by
        decide
      dsimp only
      rw [htag, String.append_assoc]
      exact startsWith_append _ _
  | none =>
      dsimp only at hok
      rw [hartifacts] at hok
      rcases bind_eq_ok.mp hok with ⟨found, hfound, hok⟩
      rw [Except.ok.injEq] at hfound
      subst hfound
      by_cases hempty : artifacts = []
      · simp only [hempty, List.isEmpty_nil, Bool.not_true, Bool.false_eq_true,
          if_false] at hok
        split at hok
        · rw [pure_eq_ok] at hok
          subst hok
          simp [hempty]
        · rcases bind_eq_ok.mp hok with ⟨entry, -, hok⟩
          rcases bind_eq_ok.mp hok with ⟨built, hbuilt, hok⟩
          rw [pure_eq_ok] at hok
          subst hok
          have heq := exclusion_eq hbuilt
          subst heq
          refine ⟨?_, by simp [claimsNoSurface, hempty]⟩
          intro excluded hexcluded
          rw [List.mem_singleton] at hexcluded
          subst hexcluded
          exact ⟨rfl, Or.inr (startsWith_append _ _), by simp⟩
      · have hisEmpty : artifacts.isEmpty = false := by simpa using hempty
        simp only [hisEmpty, Bool.not_false, if_true] at hok
        rcases bind_eq_ok.mp hok with ⟨built, hbuilt, hok⟩
        rw [pure_eq_ok] at hok
        subst hok
        unfold structuredArtifactExclusion at hbuilt
        rcases bind_eq_ok.mp hbuilt with ⟨entry, -, hbuilt⟩
        have heq := exclusion_eq hbuilt
        subst heq
        refine ⟨?_, by simp [claimsNoSurface, hempty]⟩
        intro excluded hexcluded
        rw [List.mem_singleton] at hexcluded
        subst hexcluded
        exact ⟨rfl, Or.inl (startsWith_append _ _), by simp⟩

/-! ## Quality operations -/

def qualityScope : QualityOperationKind → QualityOperationScope
  | .lint => .validation
  | .format => .hygiene

structure IsQualityOperation (operation : MinimumVerifiedQualityOperation)
    (kind : QualityOperationKind) (relevantFiles : List String) : Prop where
  id_eq : operation.id = qualityOperationId operation.providerId kind
  operation_eq : operation.operation = kind
  scope_eq : operation.scope = qualityScope kind
  paths_ok : validateOperationPaths relevantFiles = .ok operation.repositoryRelPaths

theorem qualityOperation_create_eq
    {operation built : MinimumVerifiedQualityOperation}
    (hok : operation.create = .ok built) :
    ∃ paths, validateOperationPaths operation.repositoryRelPaths = .ok paths ∧
      built = { operation with repositoryRelPaths := paths } := by
  unfold MinimumVerifiedQualityOperation.create at hok
  rcases bind_eq_ok.mp hok with ⟨paths, hpaths, hok⟩
  exact ⟨paths, hpaths, eq_of_validated hok⟩

theorem providerOperations_facts
    {targetAnchorId providerId : String} {relevantFiles : List String}
    {operations : MinimumVerifiedQualityOperation × MinimumVerifiedQualityOperation}
    (hok : providerOperations targetAnchorId relevantFiles providerId = .ok operations) :
    (operations.1.providerId = providerId ∧
        IsQualityOperation operations.1 .lint relevantFiles) ∧
      operations.2.providerId = providerId ∧
        IsQualityOperation operations.2 .format relevantFiles := by
  unfold providerOperations at hok
  rcases bind_eq_ok.mp hok with ⟨lintProvenance, -, hok⟩
  rcases bind_eq_ok.mp hok with ⟨formatProvenance, -, hok⟩
  rcases bind_eq_ok.mp hok with ⟨lint, hlint, hok⟩
  rcases bind_eq_ok.mp hok with ⟨format, hformat, hok⟩
  rw [pure_eq_ok] at hok
  subst hok
  constructor
  · unfold lintOperation at hlint
    rcases bind_eq_ok.mp hlint with ⟨mode, -, hlint⟩
    rcases bind_eq_ok.mp hlint with ⟨edge, -, hlint⟩
    rcases qualityOperation_create_eq hlint with ⟨paths, hpaths, heq⟩
    subst heq
    exact ⟨rfl, rfl, rfl, rfl, hpaths⟩
  · unfold formatOperation at hformat
    rcases bind_eq_ok.mp hformat with ⟨mode, -, hformat⟩
    rcases bind_eq_ok.mp hformat with ⟨edge, -, hformat⟩
    rcases qualityOperation_create_eq hformat with ⟨paths, hpaths, heq⟩
    subst heq
    exact ⟨rfl, rfl, rfl, rfl, hpaths⟩

structure QualityOperationsFacts (operations : List MinimumVerifiedQualityOperation)
    (kind : QualityOperationKind) (providerIds relevantFiles : List String) : Prop where
  providerIds_eq :
    operations.map MinimumVerifiedQualityOperation.providerId = providerIds
  operation : ∀ operation ∈ operations, IsQualityOperation operation kind relevantFiles

theorem buildOperations_facts
    {targetAnchorId : String} {providerIds relevantFiles : List String}
    {operations : List (MinimumVerifiedQualityOperation × MinimumVerifiedQualityOperation)}
    (hok : buildOperations targetAnchorId providerIds relevantFiles = .ok operations) :
    QualityOperationsFacts (operations.map Prod.fst) .lint providerIds relevantFiles ∧
      QualityOperationsFacts (operations.map Prod.snd) .format providerIds
        relevantFiles := by
  unfold buildOperations at hok
  refine ⟨⟨?_, ?_⟩, ?_, ?_⟩
  · have hmap := map_outputs_eq (MinimumVerifiedQualityOperation.providerId ∘ Prod.fst) id
      hok fun providerId _ pair hpair => (providerOperations_facts hpair).1.1
    rw [List.map_map, hmap, List.map_id]
  · intro operation hoperation
    rcases List.mem_map.mp hoperation with ⟨pair, hpair, heq⟩
    subst heq
    rcases exists_input_of_mem hok hpair with ⟨providerId, -, hpairOk⟩
    exact (providerOperations_facts hpairOk).1.2
  · have hmap := map_outputs_eq (MinimumVerifiedQualityOperation.providerId ∘ Prod.snd) id
      hok fun providerId _ pair hpair => (providerOperations_facts hpair).2.1
    rw [List.map_map, hmap, List.map_id]
  · intro operation hoperation
    rcases List.mem_map.mp hoperation with ⟨pair, hpair, heq⟩
    subst heq
    rcases exists_input_of_mem hok hpair with ⟨providerId, -, hpairOk⟩
    exact (providerOperations_facts hpairOk).2.2

theorem planQualityOperations_facts {repository : Repository}
    {operations : List (MinimumVerifiedQualityOperation × MinimumVerifiedQualityOperation)}
    (hok : planQualityOperations repository resolved artifactMember = .ok operations) :
    ∃ providerIds,
      qualityProviderIdsFor repository resolved artifactMember = .ok providerIds ∧
      QualityOperationsFacts (operations.map Prod.fst) .lint providerIds
        resolved.relevantFiles ∧
      QualityOperationsFacts (operations.map Prod.snd) .format providerIds
        resolved.relevantFiles := by
  unfold planQualityOperations at hok
  rcases bind_eq_ok.mp hok with ⟨providerIds, hproviderIds, hok⟩
  exact ⟨providerIds, hproviderIds, buildOperations_facts hok⟩

/-! ## Runner actions -/

structure RunnerActionsFacts (repository : Repository) (owner : OwnedNodeInfo)
    (actions : List RepositoryAction) (runnerActions : List MinimumVerifiedRunnerAction) :
    Prop where
  actions_eq : runnerActions.map MinimumVerifiedRunnerAction.action = actions
  nil_iff : runnerActions = [] ↔ owner.kind ≠ .runner
  exists_action : ∀ item ∈ runnerActions, ∃ actions,
    repository.allActions = .ok actions ∧ item.action ∈ actions ∧
      item.action.kind = .runnerExecution

theorem planRunnerActions_facts {repository : Repository}
    {runnerActions : List MinimumVerifiedRunnerAction}
    (hok : planRunnerActions repository resolved = .ok runnerActions) :
    ∃ actions, runnerActionsAsked repository resolved = .ok actions ∧
      RunnerActionsFacts repository resolved.owner actions runnerActions := by
  unfold planRunnerActions at hok
  rcases bind_eq_ok.mp hok with ⟨actions, hasked, hok⟩
  refine ⟨actions, hasked, ?_⟩
  unfold runnerActionsAsked at hasked
  by_cases hrunner : resolved.owner.kind = .runner
  · rw [if_pos hrunner] at hok hasked
    have hlisted := Repository.listActions_facts hasked
    unfold runnerItems at hok
    split at hok
    · rename_i action
      rcases bind_eq_ok.mp hok with ⟨item, hitem, hok⟩
      rw [pure_eq_ok] at hok
      subst hok
      unfold runnerItem at hitem
      rcases bind_eq_ok.mp hitem with ⟨edge, -, hitem⟩
      rcases bind_eq_ok.mp hitem with ⟨mode, -, hitem⟩
      unfold MinimumVerifiedRunnerAction.create at hitem
      have heq := eq_of_validated hitem
      subst heq
      refine ⟨rfl, by simp [hrunner], ?_⟩
      intro item hmem
      rw [List.mem_singleton] at hmem
      subst hmem
      rcases hlisted.mem_all action (by simp) with ⟨all, hall, hmemAll⟩
      have hkind := hlisted.kind_mem (by simp) action (by simp)
      exact ⟨all, hall, hmemAll, by simpa using hkind⟩
    · simp at hok
  · rw [if_neg hrunner, pure_eq_ok] at hok hasked
    subst hok
    subst hasked
    exact ⟨rfl, by simp [hrunner], by simp⟩

/-! ## The description -/

inductive ExclusionCase (candidates : ValidationCandidates)
    (excluded : ExcludedMinimumVerifiedItem) : Prop where
  | duplicate (testId : String) (hmem : testId ∈ relatedTestIds candidates.related)
      (hlength : 2 ≤ (candidatesFor candidates.related testId).length)
      (hexcluded : IsDuplicateExclusion excluded testId)
  | broad (testId : String) (hmem : testId ∈ droppedTestIds candidates.related)
      (hexcluded : IsBroadExclusion candidates.related excluded testId)
  | dependentTest (testId : String) (hreplaces : candidates.replacesDependentTests = true)
      (hmem : testId ∈ candidates.dependentTestIds)
      (hexcluded : IsDependentTestExclusion excluded testId candidates.directBuilds)
  | repositoryBuild (target : BuildTargetDescription)
      (hnarrow : candidates.narrowBuilds ≠ [])
      (hmem : target ∈ candidates.repositoryBuilds)
      (hexcluded : IsRepositoryBuildExclusion excluded target candidates.narrowBuilds)
  | surface (hexcluded : IsSurfaceExclusion excluded)

structure ChangeSetFacts (repository : Repository) (candidates : ValidationCandidates)
    (changeSet : MinimumVerifiedChangeSet) : Prop where
  owner_eq : changeSet.owner = candidates.resolved.owner
  testIds_eq : changeSet.tests.map MinimumVerifiedTestTarget.testId =
    candidates.plannedTestIds
  returned_reason : candidates.returnsDependentTests = true →
    ∀ item ∈ changeSet.tests, item.inclusionReason = dependentTestReason
  direct_reason : candidates.returnsDependentTests = false →
    ∀ item ∈ changeSet.tests, ∃ selected,
      selectedMatch candidates.related item.testId = some selected ∧
        item.inclusionReason = humanTestReason selected
  builds_eq : changeSet.buildTargets.map MinimumVerifiedBuildTarget.target =
    candidates.plannedBuilds
  runnerActions : RunnerActionsFacts repository candidates.resolved.owner
    candidates.runnerActions changeSet.runnerActions
  validation : QualityOperationsFacts changeSet.qualityValidationOperations .lint
    candidates.qualityProviderIds candidates.resolved.relevantFiles
  hygiene : QualityOperationsFacts changeSet.qualityHygieneOperations .format
    candidates.qualityProviderIds candidates.resolved.relevantFiles
  exclusion_cases : ∀ excluded ∈ changeSet.excludedItems, ExclusionCase candidates excluded
  exists_duplicate : ∀ testId ∈ relatedTestIds candidates.related,
    2 ≤ (candidatesFor candidates.related testId).length →
      ∃ excluded ∈ changeSet.excludedItems, IsDuplicateExclusion excluded testId
  exists_broad : ∀ testId ∈ droppedTestIds candidates.related,
    ∃ excluded ∈ changeSet.excludedItems,
      IsBroadExclusion candidates.related excluded testId
  exists_dependentTest : candidates.replacesDependentTests = true →
    ∀ testId ∈ candidates.dependentTestIds, ∃ excluded ∈ changeSet.excludedItems,
      IsDependentTestExclusion excluded testId candidates.directBuilds
  exists_repositoryBuild : candidates.narrowBuilds ≠ [] →
    ∀ target ∈ candidates.repositoryBuilds, ∃ excluded ∈ changeSet.excludedItems,
      IsRepositoryBuildExclusion excluded target candidates.narrowBuilds
  claimsNoSurface_iff : (∃ excluded ∈ changeSet.excludedItems,
      claimsNoSurface excluded = true) ↔
    candidates.artifactMember.isSome = true ∨ candidates.structuredArtifacts ≠ []

/-- The builds of a change set are the planned ones. -/
theorem ChangeSetFacts.buildIds_eq {repository : Repository} {candidates : ValidationCandidates}
    (hfacts : ChangeSetFacts repository candidates changeSet) :
    changeSet.buildTargets.map MinimumVerifiedBuildTarget.actionId =
      candidates.plannedBuilds.map BuildTargetDescription.actionId := by
  rw [← hfacts.builds_eq, List.map_map]
  rfl

/-! ## The passes of one run -/

structure PlannedTestsFacts (tests : List MinimumVerifiedTestTarget)
    (dependentTests : List (ResolvedRelatedTest × List ProvenanceEntry))
    (direct : List BuildTargetDescription) (planned : MinimizedTests) : Prop where
  returned_ids : (!dependentTests.isEmpty && direct.isEmpty) = true →
    planned.tests.map MinimumVerifiedTestTarget.testId =
      dependentTests.map fun candidate => candidate.1.testId
  returned_reason : (!dependentTests.isEmpty && direct.isEmpty) = true →
    ∀ item ∈ planned.tests, item.inclusionReason = dependentTestReason
  direct_tests : (!dependentTests.isEmpty && direct.isEmpty) = false →
    planned.tests = tests
  exclusion_cases : ∀ excluded ∈ planned.exclusions,
    (!dependentTests.isEmpty && !direct.isEmpty) = true ∧
      ∃ testId ∈ dependentTests.map fun candidate => candidate.1.testId,
        IsDependentTestExclusion excluded testId direct
  exists_exclusion : (!dependentTests.isEmpty && !direct.isEmpty) = true →
    ∀ testId ∈ dependentTests.map fun candidate => candidate.1.testId,
      ∃ excluded ∈ planned.exclusions, IsDependentTestExclusion excluded testId direct

theorem isEmpty_eq_of_map_eq
    {α β γ : Type} {f : α → γ} {g : β → γ} {left : List α} {right : List β}
    (hmap : left.map f = right.map g) : left.isEmpty = right.isEmpty := by
  have hlength := congrArg List.length hmap
  rw [List.length_map, List.length_map] at hlength
  rw [Bool.eq_iff_iff, List.isEmpty_iff_length_eq_zero, List.isEmpty_iff_length_eq_zero,
    hlength]

theorem DependentPlanOutcome.facts
    {repository : Repository} {targetAnchorId : String}
    {tests : List MinimumVerifiedTestTarget} {builds : List MinimumVerifiedBuildTarget}
    {dependentTests : List (ResolvedRelatedTest × List ProvenanceEntry)}
    {planned : MinimizedTests} {direct : List BuildTargetDescription}
    (houtcome : DependentPlanOutcome repository targetAnchorId tests builds dependentTests
      planned)
    (hdependent : DependentTestsFacts dependentTests)
    (hids : builds.map MinimumVerifiedBuildTarget.actionId =
      direct.map BuildTargetDescription.actionId) :
    PlannedTestsFacts tests dependentTests direct planned := by
  have hempty := isEmpty_eq_of_map_eq hids
  cases houtcome with
  | unchanged hnone heq =>
      subst hnone
      subst heq
      exact ⟨by simp, by simp, fun _ => rfl, by simp, by simp⟩
  | replaced hnone hsome hbuilds htests hexclusions =>
      have hdirect : direct.isEmpty = false := by
        rw [← hempty]
        simpa using hbuilds
      have hdependentTests : dependentTests.isEmpty = false := by simpa using hsome
      refine ⟨by simp [hdirect], by simp [hdirect], fun _ => by rw [htests, hnone], ?_, ?_⟩
      · intro excluded hexcluded
        rcases exists_input_of_mem hexclusions hexcluded with ⟨candidate, hcandidate, hok⟩
        refine ⟨by simp [hdirect, hdependentTests], candidate.1.testId, ?_, ?_⟩
        · exact List.mem_map_of_mem hcandidate
        · exact dependentTestExclusion_facts hids hok
      · intro _ testId htestId
        rcases List.mem_map.mp htestId with ⟨candidate, hcandidate, heq⟩
        subst heq
        rcases exists_output_of_mem hexclusions hcandidate with ⟨excluded, hexcluded, hok⟩
        exact ⟨excluded, hexcluded, dependentTestExclusion_facts hids hok⟩
  | returned hnone hsome hbuilds htests hexclusions =>
      have hdirect : direct.isEmpty = true := by
        rw [← hempty]
        simpa using hbuilds
      have hdependentTests : dependentTests.isEmpty = false := by simpa using hsome
      refine ⟨fun _ => ?_, fun _ => ?_, by simp [hdirect, hdependentTests],
        by simp [hexclusions], by simp [hdirect]⟩
      · apply map_outputs_eq _ _ htests
        intro candidate _ item hitem
        exact (dependentTestFor_facts hitem).1
      · intro item hitem
        rcases exists_input_of_mem htests hitem with ⟨candidate, hcandidate, hok⟩
        rw [(dependentTestFor_facts hok).2]
        exact hdependent.reason_eq candidate hcandidate

theorem dependentTestsAsked_facts
    {repository : Repository} {dependents : List ResolvedDependentComponent}
    {noTests : Bool} {dependentTests : List (ResolvedRelatedTest × List ProvenanceEntry)}
    (hok : dependentTestsAsked repository dependents noTests = .ok dependentTests) :
    DependentTestsFacts dependentTests := by
  unfold dependentTestsAsked at hok
  split at hok
  · exact relatedTestsForDependentComponents_facts hok
  · rw [pure_eq_ok] at hok
    subst hok
    exact ⟨by simp, by simp⟩

theorem planDirectBuilds_facts {repository : Repository} {builds : MinimizedBuildTargets}
    (hok : planDirectBuilds repository resolved artifactMember = .ok builds) :
    ∃ targets, buildTargetsUnlessArtifact repository artifactMember = .ok targets ∧
      MinimizedBuildsFacts resolved.owner resolved.primaryComponent targets [] builds := by
  unfold planDirectBuilds at hok
  unfold buildTargetsUnlessArtifact
  cases hartifact : artifactMember.isSome with
  | true =>
      simp only [hartifact, if_true, pure_eq_ok] at hok
      subst hok
      refine ⟨[], rfl, ⟨?_, by simp, ?_⟩⟩
      · simp [chosenBuildTargets_nil, narrowBuildTargets, componentBuildTargets,
          narrowOwnerBuildTargets, ownerBuildTargets, dedupeBy, dedupeFrom, sortedBy,
          repositoryBuildTargets]
      · simp [repositoryBuildTargets]
  | false =>
      simp only [hartifact, Bool.false_eq_true, if_false] at hok
      rcases bind_eq_ok.mp hok with ⟨targets, htargets, hok⟩
      exact ⟨targets, by simpa using htargets, minimizeBuildTargets_facts hok⟩

/-- Dependents are asked for builds where the target has neither tests nor builds of its own. -/
theorem planDependentBuilds_facts {repository : Repository}
    {dependents : List ResolvedDependentComponent} {tests : List MinimumVerifiedTestTarget}
    {builds final : MinimizedBuildTargets} {targets : List BuildTargetDescription}
    (hskipped : artifactMember.isSome = true → dependents = [])
    (htargets : buildTargetsUnlessArtifact repository artifactMember = .ok targets)
    (hbuilds : MinimizedBuildsFacts resolved.owner resolved.primaryComponent targets []
      builds)
    (hok : planDependentBuilds repository resolved artifactMember dependents tests builds =
      .ok final) :
    MinimizedBuildsFacts resolved.owner resolved.primaryComponent targets
      (if tests.isEmpty && builds.buildTargets.isEmpty && !dependents.isEmpty then dependents
      else []) final := by
  unfold planDependentBuilds at hok
  cases hartifact : artifactMember.isSome with
  | true =>
      have hnone := hskipped hartifact
      have hisNone : artifactMember.isNone = false := by
        cases artifactMember with
        | none => simp at hartifact
        | some member => rfl
      simp only [hisNone, Bool.false_and, Bool.false_eq_true, if_false, pure_eq_ok] at hok
      subst hok
      simpa [hnone] using hbuilds
  | false =>
      have hisNone : artifactMember.isNone = true := by
        cases artifactMember with
        | none => rfl
        | some member => simp at hartifact
      simp only [hisNone, Bool.true_and] at hok
      split at hok
      · rename_i hasked
        rcases bind_eq_ok.mp hok with ⟨listed, hlisted, hok⟩
        simp only [buildTargetsUnlessArtifact, hartifact, Bool.false_eq_true,
          if_false] at htargets
        have heq : listed = targets := by
          rw [htargets] at hlisted
          exact (Except.ok.inj hlisted).symm
        subst heq
        rw [if_pos hasked]
        exact minimizeBuildTargets_facts hok
      · rename_i hasked
        rw [pure_eq_ok] at hok
        subst hok
        rw [if_neg hasked]
        exact hbuilds

theorem assembleChangeSet_eq {repository : Repository}
    {planningExclusions : List ExcludedMinimumVerifiedItem}
    (hok : assembleChangeSet repository resolved artifactMember surfaces
      planningExclusions = .ok changeSet) :
    ∃ availability breadth provenance,
      availabilityExclusions repository resolved artifactMember surfaces =
        .ok availability ∧
      sharedFileSurfaceExplanations resolved surfaces = .ok breadth ∧
      changeSet =
        { targetKind := resolved.targetKind
          owner := resolved.owner
          primaryComponent := resolved.primaryComponent
          tests := surfaces.tests
          buildTargets := surfaces.buildTargets
          runnerActions := surfaces.runnerActions
          qualityValidationOperations := surfaces.qualityValidationOperations
          qualityHygieneOperations := surfaces.qualityHygieneOperations
          excludedItems := planningExclusions ++ breadth ++ availability
          provenance := provenance } := by
  unfold assembleChangeSet at hok
  rcases bind_eq_ok.mp hok with ⟨availability, havailability, hok⟩
  rcases bind_eq_ok.mp hok with ⟨breadth, hbreadth, hok⟩
  rcases bind_eq_ok.mp hok with ⟨provenance, -, hok⟩
  rcases bind_eq_ok.mp hok with ⟨-, -, hok⟩
  unfold MinimumVerifiedChangeSet.create at hok
  exact ⟨availability, breadth, provenance, havailability, hbreadth, eq_of_validated hok⟩

/-! ## The run -/

theorem getMinimumVerifiedChangeSet_facts {repository : Repository} {target : ChangeTarget}
    (hok : getMinimumVerifiedChangeSet repository target = .ok changeSet) :
    ∃ candidates, validationCandidates repository target = .ok candidates ∧
      ChangeSetFacts repository candidates changeSet := by
  unfold getMinimumVerifiedChangeSet at hok
  rcases bind_eq_ok.mp hok with ⟨resolved, hresolved, hok⟩
  rcases bind_eq_ok.mp hok with ⟨artifacts, hartifacts, hok⟩
  rcases bind_eq_ok.mp hok with ⟨dependents, hdependents, hok⟩
  rcases bind_eq_ok.mp hok with ⟨related, hrelated, hok⟩
  rcases bind_eq_ok.mp hok with ⟨minimized, hminimized, hok⟩
  rcases bind_eq_ok.mp hok with ⟨builds, hbuilds, hok⟩
  rcases bind_eq_ok.mp hok with ⟨planned, hplanned, hok⟩
  rcases bind_eq_ok.mp hok with ⟨final, hfinal, hok⟩
  rcases bind_eq_ok.mp hok with ⟨runnerActions, hrunnerActions, hok⟩
  rcases bind_eq_ok.mp hok with ⟨operations, hoperations, hok⟩
  have htests := minimizeTests_facts hminimized
  rcases planDirectBuilds_facts hbuilds with ⟨targets, htargets, hdirect⟩
  rcases planDependentTests_outcome hplanned with ⟨dependentTests, hasked, houtcome⟩
  have hdependentTests := dependentTestsAsked_facts hasked
  rcases planRunnerActions_facts hrunnerActions with ⟨actions, hactions, hrunnerFacts⟩
  rcases planQualityOperations_facts hoperations with
    ⟨providerIds, hproviderIds, hvalidation, hhygiene⟩
  rcases assembleChangeSet_eq hok with
    ⟨availability, breadth, provenance, havailability, hbreadth, hchangeSet⟩
  have hskipped : (repository.artifactMemberForTarget resolved).isSome = true →
      dependents = [] := by
    intro hsome
    simp only [dependentsFor, hsome, Bool.or_true, if_true, pure_eq_ok] at hdependents
    exact hdependents.symm
  have hnoTests : minimized.tests.isEmpty = (keptTestIds related).isEmpty := by
    have hids : minimized.tests.map MinimumVerifiedTestTarget.testId =
        (keptTestIds related).map id := by
      rw [htests.testIds_eq, List.map_id]
    exact isEmpty_eq_of_map_eq hids
  let candidates : ValidationCandidates :=
    { resolved := resolved
      artifactMember := repository.artifactMemberForTarget resolved
      structuredArtifacts := artifacts
      related := related
      targets := targets
      dependents := dependents
      dependentTests := dependentTests
      runnerActions := actions
      qualityProviderIds := providerIds }
  have hcandidates : validationCandidates repository target = .ok candidates := by
    unfold validationCandidates
    rw [hnoTests] at hasked
    rw [bind_eq_ok]
    refine ⟨resolved, hresolved, ?_⟩
    rw [bind_eq_ok]
    refine ⟨artifacts, hartifacts, ?_⟩
    rw [bind_eq_ok]
    refine ⟨dependents, hdependents, ?_⟩
    rw [bind_eq_ok]
    refine ⟨related, hrelated, ?_⟩
    rw [bind_eq_ok]
    refine ⟨targets, htargets, ?_⟩
    rw [bind_eq_ok]
    refine ⟨dependentTests, hasked, ?_⟩
    rw [bind_eq_ok]
    refine ⟨actions, hactions, ?_⟩
    rw [bind_eq_ok]
    exact ⟨providerIds, hproviderIds, rfl⟩
  have hchosen : chosenBuildTargets resolved.owner resolved.primaryComponent targets [] =
      candidates.directBuilds := by
    rw [chosenBuildTargets_nil]
    rfl
  have hdirectIds : builds.buildTargets.map MinimumVerifiedBuildTarget.actionId =
      candidates.directBuilds.map BuildTargetDescription.actionId := by
    rw [hdirect.actionIds_eq, hchosen]
  have hplan := houtcome.facts hdependentTests hdirectIds
  have hplannedIds : planned.tests.map MinimumVerifiedTestTarget.testId =
      candidates.plannedTestIds := by
    unfold ValidationCandidates.plannedTestIds
    by_cases hreturns : candidates.returnsDependentTests = true
    · rw [if_pos hreturns]
      exact hplan.returned_ids hreturns
    · have hdirectTests : candidates.returnsDependentTests = false := by
        simpa using hreturns
      rw [if_neg hreturns, hplan.direct_tests hdirectTests]
      exact htests.testIds_eq
  have hplannedEmpty : planned.tests.isEmpty = candidates.plannedTestIds.isEmpty := by
    have hids : planned.tests.map MinimumVerifiedTestTarget.testId =
        candidates.plannedTestIds.map id := by
      rw [hplannedIds, List.map_id]
    exact isEmpty_eq_of_map_eq hids
  have hfinalFacts := planDependentBuilds_facts hskipped htargets hdirect hfinal
  rw [hplannedEmpty, isEmpty_eq_of_map_eq hdirectIds] at hfinalFacts
  have hfinalBuilds : final.buildTargets.map MinimumVerifiedBuildTarget.target =
      candidates.plannedBuilds := by
    rw [hfinalFacts.targets_eq]
    unfold ValidationCandidates.plannedBuilds
    split
    · rfl
    · rw [hchosen]
  have havailabilityFacts := availabilityExclusions_facts hartifacts havailability
  have hbreadthFacts := sharedFileSurfaceExplanations_facts hbreadth
  have hmemMinimized : ∀ excluded ∈ minimized.exclusions,
      excluded ∈ changeSet.excludedItems := by
    intro excluded hexcluded
    rw [hchangeSet]
    simp [hexcluded]
  have hmemPlanned : ∀ excluded ∈ planned.exclusions,
      excluded ∈ changeSet.excludedItems := by
    intro excluded hexcluded
    rw [hchangeSet]
    simp [hexcluded]
  have hmemFinal : ∀ excluded ∈ final.exclusions, excluded ∈ changeSet.excludedItems := by
    intro excluded hexcluded
    rw [hchangeSet]
    simp [hexcluded]
  have hcases : ∀ excluded ∈ changeSet.excludedItems, ExclusionCase candidates excluded ∧
      (claimsNoSurface excluded = true → excluded ∈ availability) := by
    intro excluded hexcluded
    rw [hchangeSet] at hexcluded
    simp only [List.mem_append] at hexcluded
    rcases hexcluded with (((hexcluded | hexcluded) | hexcluded) | hexcluded) | hexcluded
    · rcases htests.exclusion_cases excluded hexcluded with hduplicate | hbroad
      · rcases hduplicate with ⟨testId, hmem, hlength, hduplicate⟩
        refine ⟨.duplicate testId hmem hlength hduplicate, ?_⟩
        simp [claimsNoSurface, hduplicate.reasonCode_eq]
      · rcases hbroad with ⟨testId, hmem, hbroad⟩
        refine ⟨.broad testId hmem hbroad, ?_⟩
        simp [claimsNoSurface, hbroad.reasonCode_eq]
    · rcases hplan.exclusion_cases excluded hexcluded with
        ⟨hreplaces, testId, hmem, hdependent⟩
      refine ⟨.dependentTest testId hreplaces hmem hdependent, ?_⟩
      simp [claimsNoSurface, hdependent.reasonCode_eq]
    · rcases hfinalFacts.exclusion_cases excluded hexcluded with
        ⟨hnarrow, build, hmem, hbuild⟩
      refine ⟨.repositoryBuild build hnarrow hmem hbuild, ?_⟩
      simp [claimsNoSurface, hbuild.reasonCode_eq]
    · rcases hbreadthFacts excluded hexcluded with ⟨hsurface, hclaims⟩
      exact ⟨.surface hsurface, by simp [hclaims]⟩
    · exact ⟨.surface (havailabilityFacts.1 excluded hexcluded), fun _ => hexcluded⟩
  have hmemAvailability : ∀ excluded ∈ availability,
      excluded ∈ changeSet.excludedItems := by
    intro excluded hexcluded
    rw [hchangeSet]
    simp [hexcluded]
  refine ⟨candidates, hcandidates, ?_⟩
  constructor
  case owner_eq => rw [hchangeSet]
  case testIds_eq =>
    rw [hchangeSet]
    exact hplannedIds
  case returned_reason =>
    intro hreturns
    rw [hchangeSet]
    exact hplan.returned_reason hreturns
  case direct_reason =>
    intro hreturns
    have heq := hplan.direct_tests hreturns
    rw [hchangeSet]
    dsimp only
    rw [heq]
    exact htests.reason_eq
  case builds_eq =>
    rw [hchangeSet]
    exact hfinalBuilds
  case runnerActions =>
    rw [hchangeSet]
    exact hrunnerFacts
  case validation =>
    rw [hchangeSet]
    exact hvalidation
  case hygiene =>
    rw [hchangeSet]
    exact hhygiene
  case exclusion_cases =>
    intro excluded hexcluded
    exact (hcases excluded hexcluded).1
  case exists_duplicate =>
    intro testId hmem hlength
    rcases htests.exists_duplicate testId hmem hlength with ⟨excluded, hexcluded, hfacts⟩
    exact ⟨excluded, hmemMinimized excluded hexcluded, hfacts⟩
  case exists_broad =>
    intro testId hmem
    rcases htests.exists_broad testId hmem with ⟨excluded, hexcluded, hfacts⟩
    exact ⟨excluded, hmemMinimized excluded hexcluded, hfacts⟩
  case exists_dependentTest =>
    intro hreplaces testId hmem
    rcases hplan.exists_exclusion hreplaces testId hmem with ⟨excluded, hexcluded, hfacts⟩
    exact ⟨excluded, hmemPlanned excluded hexcluded, hfacts⟩
  case exists_repositoryBuild =>
    intro hnarrow build hmem
    rcases hfinalFacts.exists_exclusion hnarrow build hmem with
      ⟨excluded, hexcluded, hfacts⟩
    exact ⟨excluded, hmemFinal excluded hexcluded, hfacts⟩
  case claimsNoSurface_iff =>
    rw [← havailabilityFacts.2]
    constructor
    · intro hexists
      rcases hexists with ⟨excluded, hexcluded, hclaims⟩
      exact ⟨excluded, (hcases excluded hexcluded).2 hclaims, hclaims⟩
    · intro hexists
      rcases hexists with ⟨excluded, hexcluded, hclaims⟩
      exact ⟨excluded, hmemAvailability excluded hexcluded, hclaims⟩

end SuitCode
