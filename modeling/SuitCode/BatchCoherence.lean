import SuitCode.BatchFacts
import SuitCode.ChangeSetCoherence

/-!
# Coherence of a batch

A batch should not exclude what it plans, and its summary should name its own
items, each once, and count them.  The first half fails when one target builds
the whole repository and another one replaces that build; the second half fails
when a target reserves an item which the batch has dropped.
-/

namespace SuitCode

open PosixText KeyedList ExceptList

variable {actionId : String} {items : PlannedItemViews}

/-! ## Keys of required items -/

namespace PlannedItemViews

def surfaceIds (items : PlannedItemViews) : List String :=
  items.tests.map MinimumVerifiedTestTargetView.testId ++
    items.buildTargets.map MinimumVerifiedBuildTargetView.actionId ++
    items.runnerActions.map MinimumVerifiedRunnerActionView.actionId

def surfaceKeys (items : PlannedItemViews) : List (String × String) :=
  items.tests.map (fun item => ("test_target", item.testId)) ++
    items.buildTargets.map (fun item => ("build_target", item.actionId)) ++
    items.runnerActions.map (fun item => ("runner_action", item.actionId))

def operationKeys (items : PlannedItemViews) : List (String × String) :=
  items.qualityValidationOperations.map fun item => ("quality_operation", item.id)

def requiredKeys (items : PlannedItemViews) : List (String × String) :=
  items.surfaceKeys ++
    (items.qualityValidationOperations.filter (isEmphasized items.buildTargets)).map
      fun item => ("quality_operation", item.id)

theorem compactSummary_keys (items : PlannedItemViews) :
    (minimumVerifiedCompactSummaryView items).requiredValidation.map
      MinimumVerifiedCompactItemView.key = items.requiredKeys := by
  simp only [minimumVerifiedCompactSummaryView, requiredKeys, surfaceKeys, List.map_append,
    List.map_map]
  rfl

theorem test_mem_requiredKeys_iff {testId : String} :
    ("test_target", testId) ∈ items.requiredKeys ↔
      testId ∈ items.tests.map MinimumVerifiedTestTargetView.testId := by
  simp [requiredKeys, surfaceKeys]

theorem build_mem_requiredKeys_iff :
    ("build_target", actionId) ∈ items.requiredKeys ↔
      actionId ∈ items.buildTargets.map MinimumVerifiedBuildTargetView.actionId := by
  simp [requiredKeys, surfaceKeys]

theorem runner_mem_requiredKeys_iff :
    ("runner_action", actionId) ∈ items.requiredKeys ↔
      actionId ∈ items.runnerActions.map MinimumVerifiedRunnerActionView.actionId := by
  simp [requiredKeys, surfaceKeys]

theorem operation_mem_requiredKeys_iff {operationId : String} :
    ("quality_operation", operationId) ∈ items.requiredKeys ↔
      ∃ operation ∈ items.qualityValidationOperations,
        isEmphasized items.buildTargets operation = true ∧ operation.id = operationId := by
  simp [requiredKeys, surfaceKeys, and_assoc]

theorem nodup_requiredKeys (htests : (items.tests.map MinimumVerifiedTestTargetView.testId).Nodup)
    (hbuilds : (items.buildTargets.map MinimumVerifiedBuildTargetView.actionId).Nodup)
    (hrunners : (items.runnerActions.map MinimumVerifiedRunnerActionView.actionId).Nodup)
    (hoperations : (items.qualityValidationOperations.map
      MinimumVerifiedQualityOperationView.id).Nodup) :
    items.requiredKeys.Nodup := by
  have hemphasized : ((items.qualityValidationOperations.filter
      (isEmphasized items.buildTargets)).map MinimumVerifiedQualityOperationView.id).Nodup :=
    hoperations.sublist (List.filter_sublist.map _)
  have htests' := htests.map (Prod.mk_right_injective "test_target")
  have hbuilds' := hbuilds.map (Prod.mk_right_injective "build_target")
  have hrunners' := hrunners.map (Prod.mk_right_injective "runner_action")
  have hoperations' := hemphasized.map (Prod.mk_right_injective "quality_operation")
  rw [List.map_map] at htests' hbuilds' hrunners' hoperations'
  unfold requiredKeys surfaceKeys
  rw [List.nodup_append', List.nodup_append', List.nodup_append']
  refine ⟨⟨⟨htests', hbuilds', ?_⟩, hrunners', ?_⟩, hoperations', ?_⟩
  · simp [List.disjoint_left]
  · intro key hkey hrunner
    obtain ⟨runner, -, heq⟩ := List.mem_map.mp hrunner
    subst heq
    simp at hkey
  · intro key hkey hoperation
    obtain ⟨operation, -, heq⟩ := List.mem_map.mp hoperation
    subst heq
    simp at hkey

end PlannedItemViews

namespace ValidationCandidates

def BuildsWithNpm (candidates : ValidationCandidates) : Prop :=
  "npm" ∈ candidates.plannedBuilds.map BuildTargetDescription.providerId

instance (candidates : ValidationCandidates) : Decidable candidates.BuildsWithNpm :=
  inferInstanceAs (Decidable (_ ∈ _))

def requiredKeys (candidates : ValidationCandidates) : List (String × String) :=
  candidates.plannedTestIds.map (Prod.mk "test_target") ++
    candidates.plannedBuildIds.map (Prod.mk "build_target") ++
    candidates.runnerActionIds.map (Prod.mk "runner_action") ++
    (candidates.qualityProviderIds.filter fun providerId =>
      ¬ (providerId = "npm" ∧ candidates.BuildsWithNpm)).map
        fun providerId => ("quality_operation", qualityOperationId providerId .lint)

end ValidationCandidates

/-! ## The conditions -/

/-- No target plans the repository-wide builds which another target replaces. -/
def RepositoryBuildsAgree (candidates : List ValidationCandidates) : Prop :=
  ∀ left ∈ candidates, ∀ right ∈ candidates,
    left.narrowBuilds ≠ [] → right.narrowBuilds = [] → right.repositoryBuilds = []

def reservedKeys (candidates : List ValidationCandidates) : List (String × String) :=
  representatives id (candidates.map ValidationCandidates.requiredKeys)

/-- No reserved item is a test which another target replaces, or the lint of npm
next to an npm build. -/
def ReservedItemsStay (candidates : List ValidationCandidates) : Prop :=
  ∀ key ∈ reservedKeys candidates, ∀ other ∈ candidates,
    (∀ testId, other.Replaces testId → key ≠ ("test_target", testId)) ∧
      (other.BuildsWithNpm →
        key ≠ ("quality_operation", qualityOperationId "npm" .lint))

namespace BatchMinimumVerifiedChangeSetView

def ExcludesNoPlannedItem (batch : BatchMinimumVerifiedChangeSetView) : Prop :=
  ∀ plannedId ∈ batch.surfaceIds, ∀ excluded ∈ batch.excludedItems,
    excluded.itemId ≠ plannedId

/-- The summary requires only items of the batch, each once, among them every
test, build and runner, and counts what it requires. -/
def SummaryMatchesItems (batch : BatchMinimumVerifiedChangeSetView) : Prop :=
  (∀ item ∈ batch.compactSummary.requiredValidation,
      item.key ∈ batch.surfaceKeys ++ batch.operationKeys) ∧
    (batch.compactSummary.requiredValidation.map
      MinimumVerifiedCompactItemView.key).Nodup ∧
    (∀ key ∈ batch.surfaceKeys, key ∈ batch.compactSummary.requiredValidation.map
      MinimumVerifiedCompactItemView.key) ∧
    batch.compactSummary.requiredValidationCount =
      batch.compactSummary.requiredValidation.length

def CoherentView (batch : BatchMinimumVerifiedChangeSetView) : Prop :=
  batch.ExcludesNoPlannedItem ∧ batch.SummaryMatchesItems

instance (batch : BatchMinimumVerifiedChangeSetView) :
    Decidable batch.ExcludesNoPlannedItem :=
  inferInstanceAs (Decidable (∀ plannedId ∈ batch.surfaceIds, _))

end BatchMinimumVerifiedChangeSetView

/-! ## Required items of a target -/

namespace PlannedTarget

variable {repository : Repository} (target : PlannedTarget repository)

theorem view_buildProviderIds :
    target.view.changeSet.buildTargets.map MinimumVerifiedBuildTargetView.providerId =
      target.candidates.plannedBuilds.map BuildTargetDescription.providerId := by
  rw [← target.facts.builds_eq, List.map_map]
  exact List.map_map

theorem isEmphasized_iff {target : PlannedTarget repository}
    {buildTargets : List MinimumVerifiedBuildTargetView}
    {operation : MinimumVerifiedQualityOperationView}
    (hmem : operation ∈ target.view.changeSet.operations .lint) :
    isEmphasized buildTargets operation = true ↔
      ¬ (operation.providerId = "npm" ∧
        "npm" ∈ buildTargets.map MinimumVerifiedBuildTargetView.providerId) := by
  rcases target.exists_path hmem with ⟨path, hpath⟩
  have hoperation : operation.operation = "lint" := (target.isOperationView hmem).operation_eq
  simp only [isEmphasized, hpath, hoperation, List.length_singleton, decide_true,
    Bool.and_true, Bool.not_eq_true', Bool.and_eq_false_iff, decide_eq_false_iff_not]
  by_cases hnpm : operation.providerId = "npm"
  · simp [hnpm]
  · simp [hnpm]

theorem view_requiredKeys :
    target.view.changeSet.requiredKeys = target.candidates.requiredKeys := by
  have htests : target.view.changeSet.tests.map (fun item => ("test_target", item.testId)) =
      target.candidates.plannedTestIds.map (Prod.mk "test_target") := by
    rw [← target.view_testIds, List.map_map]
    rfl
  have hbuilds : target.view.changeSet.buildTargets.map
      (fun item => ("build_target", item.actionId)) =
        target.candidates.plannedBuildIds.map (Prod.mk "build_target") := by
    rw [← target.view_buildIds, List.map_map]
    rfl
  have hrunners : target.view.changeSet.runnerActions.map
      (fun item => ("runner_action", item.actionId)) =
        target.candidates.runnerActionIds.map (Prod.mk "runner_action") := by
    rw [← target.view_runnerIds, List.map_map]
    rfl
  have hproviders : target.candidates.qualityProviderIds =
      target.view.changeSet.qualityValidationOperations.map
        MinimumVerifiedQualityOperationView.providerId := by
    have hviews : target.view.changeSet.qualityValidationOperations =
        target.changeSet.qualityValidationOperations.map
          minimumVerifiedQualityOperationView := rfl
    rw [← target.facts.validation.providerIds_eq, hviews, List.map_map]
    rfl
  unfold PlannedItemViews.requiredKeys PlannedItemViews.surfaceKeys
    ValidationCandidates.requiredKeys
  rw [htests, hbuilds, hrunners, hproviders, List.filter_map, List.map_map]
  congr 1
  have hfilter : target.view.changeSet.qualityValidationOperations.filter
      (isEmphasized target.view.changeSet.buildTargets) =
        target.view.changeSet.qualityValidationOperations.filter
          ((fun providerId => decide
            ¬ (providerId = "npm" ∧ target.candidates.BuildsWithNpm)) ∘
              MinimumVerifiedQualityOperationView.providerId) := by
    apply List.filter_congr
    intro operation hoperation
    rw [Bool.eq_iff_iff, isEmphasized_iff hoperation,
      target.view_buildProviderIds]
    exact decide_eq_true_iff.symm
  rw [hfilter]
  apply List.map_congr_left
  intro operation hoperation
  have hview : IsOperationView target.candidates .lint operation :=
    isOperationView (List.mem_filter.mp hoperation).1
  rw [hview.id_eq]
  rfl

end PlannedTarget

/-! ## Excluded and planned items -/

section Excluded

variable {repository : Repository} {planned : List (PlannedTarget repository)}

theorem runnerActionId_facts {target : PlannedTarget repository}
    (hmem : actionId ∈ target.candidates.runnerActionIds) :
    ∃ actions, repository.allActions = .ok actions ∧
      ∃ action ∈ actions, action.id = actionId ∧ action.kind = .runnerExecution := by
  unfold ValidationCandidates.runnerActionIds at hmem
  rw [← target.facts.runnerActions.actions_eq] at hmem
  rcases List.mem_map.mp hmem with ⟨action, haction, hid⟩
  rcases List.mem_map.mp haction with ⟨item, hitem, heq⟩
  subst heq
  rcases target.facts.runnerActions.exists_action item hitem with
    ⟨actions, hactions, hlisted, hkind⟩
  exact ⟨actions, hactions, item.action, hlisted, hid, hkind⟩

theorem runnerActionId_ne_buildId {target other : PlannedTarget repository}
    (hmem : actionId ∈ target.candidates.runnerActionIds) {build : BuildTargetDescription}
    (hbuild : build ∈ other.candidates.targets) :
    build.actionId ≠ actionId := by
  intro heq
  rcases runnerActionId_facts hmem with ⟨actions, hactions, action, haction, hid, hkind⟩
  rcases repositoryBuilds_listed other hbuild with ⟨targets, hlisted, htargets⟩
  rw [htargets] at hbuild
  rcases (Repository.listBuildTargets_facts hlisted).exists_action build hbuild with
    ⟨others, hothers, source, hsource, hsourceId, hsourceKind⟩
  rw [hactions] at hothers
  rw [← Except.ok.inj hothers] at hsource
  have hsame := List.inj_on_of_nodup_map (Repository.nodup_allActions hactions) haction
    hsource (by rw [hid, hsourceId, heq])
  rw [hsame, hsourceKind] at hkind
  cases hkind

theorem surfaceId_cases {plannedId : String} (hmem : plannedId ∈ (batchOf planned).surfaceIds) :
    (plannedId ∈ (batchOf planned).tests.map MinimumVerifiedTestTargetView.testId ∧
        startsWith plannedId "test:" = true) ∨
      ((∃ target ∈ planned, plannedId ∈ target.candidates.plannedBuildIds ∨
          plannedId ∈ target.candidates.runnerActionIds) ∧
        startsWith plannedId "action:" = true) := by
  unfold PlannedItemViews.surfaceIds at hmem
  rw [List.mem_append, List.mem_append] at hmem
  rcases hmem with (htest | hbuild) | hrunner
  · left
    refine ⟨htest, ?_⟩
    rcases (mem_batch_testIds_iff.mp htest).1 with ⟨target, -, htest⟩
    exact target.candidates.plannedTestIds_tagged target.candidatesFacts htest
  · right
    rcases (mem_batch_buildIds_iff planned).mp hbuild with ⟨target, htarget, hbuild⟩
    refine ⟨⟨target, htarget, Or.inl hbuild⟩, ?_⟩
    rcases List.mem_map.mp hbuild with ⟨build, hbuild, heq⟩
    rw [← heq]
    exact target.candidates.plannedBuilds_tagged target.candidatesFacts hbuild
  · right
    rcases (mem_batch_runnerIds_iff planned).mp hrunner with ⟨target, htarget, hrunner⟩
    refine ⟨⟨target, htarget, Or.inr hrunner⟩, ?_⟩
    rcases runnerActionId_facts hrunner with ⟨actions, hactions, action, haction, hid, -⟩
    rw [← hid]
    exact Repository.allActions_tagged hactions haction

theorem surfaceTag_ne
    {itemId plannedId : String}
    (htagged : startsWith itemId "validation_surface:" = true ∨
      startsWith itemId "test_surface:" = true)
    (hplanned : startsWith plannedId "test:" = true ∨
      startsWith plannedId "action:" = true) : itemId ≠ plannedId := by
  have hitem : startsWith itemId "valid" = true ∨ startsWith itemId "test_" = true := by
    rcases htagged with hvalidation | htest
    · exact Or.inl (startsWith_trans (by decide) hvalidation)
    · exact Or.inr (startsWith_trans (by decide) htest)
  have hother : startsWith plannedId "test:" = true ∨
      startsWith plannedId "actio" = true := by
    rcases hplanned with htest | haction
    · exact Or.inl htest
    · exact Or.inr (startsWith_trans (by decide) haction)
  rcases hitem with hitem | hitem <;> rcases hother with hother | hother
  · exact ne_of_startsWith hitem hother (by decide) (by decide)
  · exact ne_of_startsWith hitem hother (by decide) (by decide)
  · exact ne_of_startsWith hitem hother (by decide) (by decide)
  · exact ne_of_startsWith hitem hother (by decide) (by decide)

theorem repositoryBuildsAgree_of_excludesNoPlannedItem
    (hexcludes : (batchOf planned).ExcludesNoPlannedItem) :
    RepositoryBuildsAgree (planned.map PlannedTarget.candidates) := by
  intro left hleft right hright hnarrow hnone
  rcases List.mem_map.mp hleft with ⟨leftTarget, hleftTarget, heq⟩
  subst heq
  rcases List.mem_map.mp hright with ⟨rightTarget, hrightTarget, heq⟩
  subst heq
  by_contra hsome
  have hdirect : rightTarget.candidates.directBuilds =
      rightTarget.candidates.repositoryBuilds := by
    simp [ValidationCandidates.directBuilds, hnone]
  have hplanned := ValidationCandidates.plannedBuilds_eq_of_ne_nil (hdirect ▸ hsome)
  rcases List.exists_mem_of_ne_nil _ hsome with ⟨build, hbuild⟩
  rcases List.exists_mem_of_ne_nil _ hnarrow with ⟨narrow, hnarrowMem⟩
  have htargets := targets_eq_of_mem (mem_of_mem_narrowBuildTargets hnarrowMem).1
    (List.mem_filter.mp hbuild).1
  have hreplaced : build ∈ leftTarget.candidates.repositoryBuilds := by
    unfold ValidationCandidates.repositoryBuilds
    rw [htargets]
    exact hbuild
  rcases leftTarget.exists_repositoryBuild hnarrow hreplaced with ⟨item, hitem, hkey⟩
  have hallowed : item.reasonCode ∈ allowedReasonCodes := by
    have hreason := congrArg (fun key => key.2.2) hkey
    change item.reasonCode = _ at hreason
    rw [hreason]
    simp [allowedReasonCodes, MinimumVerifiedExclusionReason.value]
  rcases exists_excludedItem hleftTarget hitem hallowed with ⟨kept, hkept, hkeptKey⟩
  rw [hkey] at hkeptKey
  have hid : kept.itemId = build.actionId := congrArg (fun key => key.2.1) hkeptKey
  have hplannedId : build.actionId ∈ (batchOf planned).buildTargets.map
      MinimumVerifiedBuildTargetView.actionId := by
    rw [mem_batch_buildIds_iff]
    refine ⟨rightTarget, hrightTarget, ?_⟩
    unfold ValidationCandidates.plannedBuildIds
    rw [hplanned, hdirect]
    exact List.mem_map_of_mem hbuild
  apply hexcludes build.actionId ?_ kept hkept hid
  exact List.mem_append_left _ (List.mem_append_right _ hplannedId)

theorem narrowBuilds_nil_of_planned
    {target : PlannedTarget repository} {build : BuildTargetDescription}
    (hmem : build ∈ target.candidates.plannedBuilds) (hkind : build.targetKind = .repository) :
    target.candidates.narrowBuilds = [] := by
  by_contra hnarrow
  have hdirect := ValidationCandidates.directBuilds_eq_narrowBuilds hnarrow
  rw [ValidationCandidates.plannedBuilds_eq_of_ne_nil (hdirect ▸ hnarrow), hdirect] at hmem
  have hcomponent := (mem_of_mem_narrowBuildTargets hmem).2
  rw [hkind] at hcomponent
  cases hcomponent

theorem excludesNoPlannedItem_of_repositoryBuildsAgree
    (hagree : RepositoryBuildsAgree (planned.map PlannedTarget.candidates)) :
    (batchOf planned).ExcludesNoPlannedItem := by
  intro plannedId hplanned excluded hexcluded heq
  rcases exists_target_of_mem_batch hexcluded with ⟨target, htarget, -, hcase⟩
  have hcases := surfaceId_cases hplanned
  cases hcase with
  | dependentTest hreplaces hkind hreason hreplaced =>
      rw [heq] at hreplaces
      rcases hcases with ⟨htest, -⟩ | ⟨-, haction⟩
      · exact (mem_batch_testIds_iff.mp htest).2 ⟨target, htarget, hreplaces⟩
      · have htest := target.candidatesFacts.dependentTests_tagged plannedId hreplaces.2
        exact testId_ne_actionId htest haction rfl
  | repositoryBuild build hnarrow hbuild hid hkind hreason hreplaced =>
      have hlisted : build ∈ target.candidates.targets := (List.mem_filter.mp hbuild).1
      have hrepository : build.targetKind = .repository := by
        simpa using (List.mem_filter.mp hbuild).2
      have hbuildId : build.actionId = plannedId := by rw [← hid, heq]
      rcases hcases with ⟨-, htest⟩ | ⟨⟨other, hother, hbuildOrRunner⟩, -⟩
      · have haction := target.candidatesFacts.targets_tagged build hlisted
        rw [hbuildId] at haction
        exact testId_ne_actionId htest haction rfl
      · rcases hbuildOrRunner with hplannedBuild | hrunner
        · rcases List.mem_map.mp hplannedBuild with ⟨same, hsame, hsameId⟩
          have hsameListed := other.candidates.plannedBuilds_subset same hsame
          have hbuildEq := build_eq_of_actionId_eq hlisted hsameListed
            (hbuildId.trans hsameId.symm)
          subst hbuildEq
          have hnone := narrowBuilds_nil_of_planned hsame hrepository
          have hnil := hagree target.candidates (List.mem_map_of_mem htarget)
            other.candidates (List.mem_map_of_mem hother) hnarrow hnone
          have hmem : build ∈ other.candidates.repositoryBuilds :=
            List.mem_filter.mpr ⟨hsameListed, by simpa using hrepository⟩
          rw [hnil] at hmem
          simp at hmem
        · exact runnerActionId_ne_buildId hrunner hlisted hbuildId
  | surface hreplaced hdependent hrepository htagged =>
      apply surfaceTag_ne htagged ?_ heq
      rcases hcases with ⟨-, htest⟩ | ⟨-, haction⟩
      · exact Or.inl htest
      · exact Or.inr haction

end Excluded

/-! ## The summary of a batch -/

section Summary

variable {repository : Repository} {planned : List (PlannedTarget repository)}

theorem batch_requiredValidation (planned : List (PlannedTarget repository)) :
    (batchOf planned).compactSummary.requiredValidation =
      placedFirst MinimumVerifiedCompactItemView.key
        (reservedItems (planned.map PlannedTarget.view))
        (minimumVerifiedCompactSummaryView
          (batchOf planned).toPlannedItemViews).requiredValidation := by
  change _ ++ List.filter _ _ = _ ++ List.filter _ _
  congr 1
  apply List.filter_congr
  intro item _
  rw [decide_eq_decide]

theorem batch_requiredValidationCount (planned : List (PlannedTarget repository)) :
    (batchOf planned).compactSummary.requiredValidationCount =
      (minimumVerifiedCompactSummaryView
        (batchOf planned).toPlannedItemViews).requiredValidation.length := rfl

theorem reservedItems_keys (planned : List (PlannedTarget repository)) :
    (reservedItems (planned.map PlannedTarget.view)).map
        MinimumVerifiedCompactItemView.key =
      reservedKeys (planned.map PlannedTarget.candidates) := by
  unfold reservedItems reservedKeys
  rw [map_representatives, List.map_map, List.map_map, List.map_map]
  congr 1
  apply List.map_congr_left
  intro target _
  change (minimumVerifiedCompactSummaryView
    target.view.changeSet.toPlannedItemViews).requiredValidation.map _ = _
  rw [PlannedItemViews.compactSummary_keys]
  exact target.view_requiredKeys

theorem nodup_reservedKeys (candidates : List ValidationCandidates) :
    (reservedKeys candidates).Nodup := by
  have hnodup := nodup_map_representatives id (candidates.map ValidationCandidates.requiredKeys)
  rwa [List.map_id] at hnodup

theorem nodup_batch_requiredKeys (planned : List (PlannedTarget repository)) :
    (batchOf planned).requiredKeys.Nodup := by
  have htests : ((batchOf planned).tests.map
      MinimumVerifiedTestTargetView.testId).Nodup :=
    (nodup_map_dedupeBy MinimumVerifiedTestTargetView.testId _).sublist
      (List.filter_sublist.map _)
  exact PlannedItemViews.nodup_requiredKeys htests (nodup_map_dedupeBy _ _)
    (nodup_map_dedupeBy _ _) (nodup_map_dedupeBy _ _)

theorem npm_mem_batch_providers_iff :
    "npm" ∈ (batchOf planned).buildTargets.map MinimumVerifiedBuildTargetView.providerId ↔
      ∃ target ∈ planned, target.candidates.BuildsWithNpm := by
  constructor
  · intro hmem
    rcases List.mem_map.mp hmem with ⟨item, hitem, heq⟩
    rcases exists_source_of_mem_dedupeBy hitem with ⟨view, hview, hsource⟩
    rcases List.mem_map.mp hview with ⟨target, htarget, hviewEq⟩
    subst hviewEq
    refine ⟨target, htarget, ?_⟩
    unfold ValidationCandidates.BuildsWithNpm
    rw [← target.view_buildProviderIds, ← heq]
    exact List.mem_map_of_mem hsource
  · intro hexists
    rcases hexists with ⟨target, htarget, hnpm⟩
    rcases List.mem_map.mp hnpm with ⟨build, hbuild, hprovider⟩
    have hid : build.actionId ∈ (batchOf planned).buildTargets.map
        MinimumVerifiedBuildTargetView.actionId :=
      (mem_batch_buildIds_iff planned).mpr
        ⟨target, htarget, List.mem_map_of_mem hbuild⟩
    rcases List.mem_map.mp hid with ⟨item, hitem, hitemId⟩
    rcases exists_source_of_mem_dedupeBy hitem with ⟨view, hview, hsource⟩
    rcases List.mem_map.mp hview with ⟨other, hother, hviewEq⟩
    subst hviewEq
    rcases List.mem_map.mp hsource with ⟨included, hincluded, hincludedEq⟩
    subst hincludedEq
    have hplanned : included.target ∈ other.candidates.plannedBuilds := by
      rw [← other.facts.builds_eq]
      exact List.mem_map_of_mem hincluded
    have hsame := build_eq_of_actionId_eq
      (target.candidates.plannedBuilds_subset build hbuild)
      (other.candidates.plannedBuilds_subset included.target hplanned) hitemId.symm
    refine List.mem_map.mpr ⟨_, hitem, ?_⟩
    change included.target.providerId = "npm"
    rw [← hsame, hprovider]

theorem key_mem_batch_requiredKeys_iff
    {target : PlannedTarget repository} (htarget : target ∈ planned)
    {key : String × String} (hkey : key ∈ target.candidates.requiredKeys) :
    key ∈ (batchOf planned).requiredKeys ↔
      ∀ other ∈ planned.map PlannedTarget.candidates,
        (∀ testId, other.Replaces testId → key ≠ ("test_target", testId)) ∧
          (other.BuildsWithNpm →
            key ≠ ("quality_operation", qualityOperationId "npm" .lint)) := by
  simp only [ValidationCandidates.requiredKeys, List.mem_append, List.mem_map] at hkey
  rcases hkey with ((⟨testId, htest, heq⟩ | ⟨actionId, hbuild, heq⟩) |
    ⟨actionId, hrunner, heq⟩) | ⟨providerId, hprovider, heq⟩
  · subst heq
    rw [PlannedItemViews.test_mem_requiredKeys_iff, mem_batch_testIds_iff]
    simp only [ne_eq, Prod.mk.injEq, true_and, List.forall_mem_map]
    constructor
    · intro hmem other hother
      refine ⟨?_, by simp⟩
      intro replaced hreplaces hsame
      subst hsame
      exact hmem.2 ⟨other, hother, hreplaces⟩
    · intro hstays
      refine ⟨⟨target, htarget, htest⟩, ?_⟩
      intro hexists
      rcases hexists with ⟨other, hother, hreplaces⟩
      exact (hstays other hother).1 testId hreplaces rfl
  · subst heq
    rw [PlannedItemViews.build_mem_requiredKeys_iff, mem_batch_buildIds_iff]
    constructor
    · simp
    · intro _
      exact ⟨target, htarget, hbuild⟩
  · subst heq
    rw [PlannedItemViews.runner_mem_requiredKeys_iff, mem_batch_runnerIds_iff]
    constructor
    · simp
    · intro _
      exact ⟨target, htarget, hrunner⟩
  · subst heq
    rw [PlannedItemViews.operation_mem_requiredKeys_iff]
    have hcovered := (List.mem_filter.mp hprovider).1
    rcases PlannedTarget.exists_operation .lint hcovered with
      ⟨operation, hoperation, hoperationProvider⟩
    rcases exists_batch_operation htarget hoperation with ⟨kept, hkept, hkeptProvider⟩
    rw [hoperationProvider] at hkeptProvider
    rcases exists_target_of_mem_operations hkept with ⟨source, hsource, hsourceMem⟩
    have hkeptView := PlannedTarget.isOperationView hsourceMem
    constructor
    · intro hexists other hother
      refine ⟨by simp, ?_⟩
      intro hnpm heq
      rcases List.mem_map.mp hother with ⟨otherTarget, hotherTarget, hotherEq⟩
      subst hotherEq
      rcases hexists with ⟨emphasized, hmem, hemphasized, hid⟩
      have hlint : emphasized ∈ (batchOf planned).operations .lint := hmem
      rcases exists_target_of_mem_operations hlint with ⟨owner, -, hownerMem⟩
      rw [PlannedTarget.isEmphasized_iff hownerMem, npm_mem_batch_providers_iff]
        at hemphasized
      apply hemphasized
      refine ⟨?_, otherTarget, hotherTarget, hnpm⟩
      rw [(PlannedTarget.isOperationView hownerMem).id_eq] at hid
      rw [qualityOperationId_injective hid]
      exact qualityOperationId_injective (Prod.mk.inj heq).2
    · intro hstays
      refine ⟨kept, hkept, ?_, by rw [hkeptView.id_eq, hkeptProvider]⟩
      rw [PlannedTarget.isEmphasized_iff hsourceMem, npm_mem_batch_providers_iff]
      rintro ⟨hnpm, other, hother, hbuilds⟩
      apply (hstays other.candidates (List.mem_map_of_mem hother)).2 hbuilds
      rw [← hkeptProvider, hnpm]

theorem reservedItemsStay_iff :
    ReservedItemsStay (planned.map PlannedTarget.candidates) ↔
      ∀ key ∈ reservedKeys (planned.map PlannedTarget.candidates),
        key ∈ (batchOf planned).requiredKeys := by
  have htarget : ∀ key ∈ reservedKeys (planned.map PlannedTarget.candidates),
      ∃ target ∈ planned, key ∈ target.candidates.requiredKeys := by
    intro key hkey
    rcases exists_group_of_mem_representatives hkey with ⟨group, hgroup, hmem⟩
    rcases List.mem_map.mp hgroup with ⟨candidates, hcandidates, heq⟩
    subst heq
    rcases List.mem_map.mp hcandidates with ⟨target, htarget, heq⟩
    subst heq
    exact ⟨target, htarget, hmem⟩
  constructor
  · intro hstay key hkey
    rcases htarget key hkey with ⟨target, htarget, hmem⟩
    exact (key_mem_batch_requiredKeys_iff htarget hmem).mpr (hstay key hkey)
  · intro hrequired key hkey
    rcases htarget key hkey with ⟨target, htarget, hmem⟩
    exact (key_mem_batch_requiredKeys_iff htarget hmem).mp (hrequired key hkey)

theorem requiredKeys_subset (items : PlannedItemViews) :
    ∀ key ∈ items.requiredKeys, key ∈ items.surfaceKeys ++ items.operationKeys := by
  intro key hkey
  rw [List.mem_append]
  rcases List.mem_append.mp hkey with hsurface | hoperation
  · exact Or.inl hsurface
  · rcases List.mem_map.mp hoperation with ⟨operation, hmem, heq⟩
    exact Or.inr (List.mem_map.mpr ⟨operation, (List.mem_filter.mp hmem).1, heq⟩)

theorem summaryMatchesItems_iff :
    (batchOf planned).SummaryMatchesItems ↔
      ReservedItemsStay (planned.map PlannedTarget.candidates) := by
  have hreserved : ((reservedItems (planned.map PlannedTarget.view)).map
      MinimumVerifiedCompactItemView.key).Nodup := by
    rw [reservedItems_keys]
    exact nodup_reservedKeys _
  have hbase : ((minimumVerifiedCompactSummaryView
      (batchOf planned).toPlannedItemViews).requiredValidation.map
        MinimumVerifiedCompactItemView.key).Nodup := by
    rw [PlannedItemViews.compactSummary_keys]
    exact nodup_batch_requiredKeys planned
  have hlength := length_placedFirst_eq_iff hreserved hbase
  rw [← batch_requiredValidation, ← batch_requiredValidationCount, reservedItems_keys,
    PlannedItemViews.compactSummary_keys, ← reservedItemsStay_iff] at hlength
  constructor
  · intro hmatches
    exact hlength.mp hmatches.2.2.2.symm
  · intro hstay
    have hkeys : ∀ key, key ∈ (batchOf planned).compactSummary.requiredValidation.map
        MinimumVerifiedCompactItemView.key ↔ key ∈ (batchOf planned).requiredKeys := by
      intro key
      rw [batch_requiredValidation, mem_map_placedFirst_iff, reservedItems_keys,
        PlannedItemViews.compactSummary_keys]
      exact ⟨fun hmem => hmem.elim (reservedItemsStay_iff.mp hstay key) id, Or.inr⟩
    refine ⟨?_, ?_, ?_, (hlength.mpr hstay).symm⟩
    · intro item hitem
      exact requiredKeys_subset _ _ ((hkeys item.key).mp (List.mem_map_of_mem hitem))
    · rw [batch_requiredValidation]
      exact nodup_map_placedFirst hreserved hbase
    · intro key hkey
      exact (hkeys key).mpr (List.mem_append_left _ hkey)

end Summary

/-- A batch is coherent exactly when its targets agree on the repository-wide
builds and every reserved item stays in the batch. -/
theorem batch_coherentView_iff
    {tree : FileTree} {repository : Repository} {paths : List String}
    {batch : BatchMinimumVerifiedChangeSetView}
    (hok : whatShouldIRun tree repository paths = .ok batch) :
    ∃ candidates, batchCandidates repository paths = .ok candidates ∧
      (batch.CoherentView ↔
        RepositoryBuildsAgree candidates ∧ ReservedItemsStay candidates) := by
  rcases whatShouldIRun_eq_ok_iff.mp hok with ⟨planned, hvalidated, -, hbatch⟩
  subst hbatch
  refine ⟨_, batchCandidates_planned hvalidated, ?_⟩
  unfold BatchMinimumVerifiedChangeSetView.CoherentView
  rw [summaryMatchesItems_iff]
  constructor
  · intro hcoherent
    exact ⟨repositoryBuildsAgree_of_excludesNoPlannedItem hcoherent.1, hcoherent.2⟩
  · intro hconditions
    exact ⟨excludesNoPlannedItem_of_repositoryBuildsAgree hconditions.1, hconditions.2⟩

namespace Sample

def narrowAndRepositoryBuild : Repository :=
  { root := "/work"
    providers :=
      [{ providerId := "py"
         components :=
          [component "c:py:core" ["core.py"] [], component "c:py:utils" ["utils.py"] []]
         files := [file "c:py:core" "core.py", file "c:py:utils" "utils.py"]
         actions :=
          [buildAction "py" "action:py:core" "c:py:core" .component,
            buildAction "py" "action:py:all" "repository:py" .repository] }]
    providerRoles := fun _ => [.architecture, .test] }

end Sample

theorem narrowAndRepositoryBuild_excludes_planned :
    (whatShouldIRun (Sample.workTree ["core.py", "utils.py"])
      Sample.narrowAndRepositoryBuild ["core.py", "utils.py"]).Yields
        fun batch => ¬ batch.ExcludesNoPlannedItem := by
  decide +kernel

/-- The build of the repository is both planned and excluded. -/
theorem batch_not_always_coherentView :
    ¬ ∀ (tree : FileTree) (repository : Repository) (paths : List String)
      (batch : BatchMinimumVerifiedChangeSetView),
      whatShouldIRun tree repository paths = .ok batch → batch.CoherentView := by
  intro hall
  rcases narrowAndRepositoryBuild_excludes_planned.exists_ok with ⟨batch, hok, hnot⟩
  exact hnot (hall _ _ _ _ hok).1

/-- The equivalence for a component with and a component without a build. -/
theorem batch_coherentView_iff_narrowAndRepositoryBuild :
    ∃ batch,
      whatShouldIRun (Sample.workTree ["core.py", "utils.py"])
          Sample.narrowAndRepositoryBuild ["core.py", "utils.py"] = .ok batch ∧
        ∃ candidates,
          batchCandidates Sample.narrowAndRepositoryBuild ["core.py", "utils.py"] =
              .ok candidates ∧
            (batch.CoherentView ↔
              RepositoryBuildsAgree candidates ∧ ReservedItemsStay candidates) := by
  rcases narrowAndRepositoryBuild_excludes_planned.exists_ok with ⟨batch, hok, -⟩
  exact ⟨batch, hok, batch_coherentView_iff hok⟩

end SuitCode
