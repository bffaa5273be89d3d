import SuitCode.BatchPlan
import SuitCode.CandidateIds

/-!
# What a batch consists of

A batch is determined by the change sets planned for its targets.  The merged
lists are described without reference to the order of the targets wherever the
merge does not depend on it: by the ids which some target plans and the tests
which some target replaces.
-/

namespace SuitCode

open PosixText KeyedList ExceptList

/-! ## Planned targets -/

def batchCandidates (repository : Repository) (repositoryRelPaths : List String) :
    PyResult (List ValidationCandidates) := do
  let normalizedPaths ← validateRepositoryRelPaths repositoryRelPaths "repository_rel_paths"
  normalizedPaths.mapM fun path => validationCandidates repository (.file path)

structure PlannedTarget (repository : Repository) where
  path : String
  candidates : ValidationCandidates
  changeSet : MinimumVerifiedChangeSet
  collected : validationCandidates repository (.file path) = .ok candidates
  planned : fileChangeSet repository path = .ok changeSet
  facts : ChangeSetFacts repository candidates changeSet

namespace PlannedTarget

variable {repository : Repository}

def view (target : PlannedTarget repository) : BatchMinimumVerifiedChangeSetTargetView :=
  { repositoryRelPath := target.path
    changeSet := minimumVerifiedChangeSetView target.changeSet }

theorem candidatesFacts (target : PlannedTarget repository) :
    CandidatesFacts repository target.candidates :=
  validationCandidates_facts target.collected

end PlannedTarget

def batchOf {repository : Repository} (planned : List (PlannedTarget repository)) :
    BatchMinimumVerifiedChangeSetView :=
  batchMinimumVerifiedChangeSetView (planned.map PlannedTarget.view)

variable {path testId : String} {paths : List String} {candidates : ValidationCandidates}
  {build : BuildTargetDescription} {operation : MinimumVerifiedQualityOperationView}
  {item : ExcludedMinimumVerifiedItemView}

theorem exists_plannedTarget {tree : FileTree} {repository : Repository}
    {view : BatchMinimumVerifiedChangeSetTargetView}
    (hok : minimumVerifiedBatchTargetView tree repository path = .ok view) :
    ∃ target : PlannedTarget repository, target.path = path ∧ target.view = view := by
  unfold minimumVerifiedBatchTargetView at hok
  rcases bind_eq_ok.mp hok with ⟨changeSet, hchangeSet, hok⟩
  rw [explainingFileTarget_eq_ok] at hchangeSet
  rw [pure_eq_ok] at hok
  have hfile := hchangeSet
  unfold fileChangeSet at hfile
  rcases bind_eq_ok.mp hfile with ⟨target, htarget, hfile⟩
  have heq := eq_of_validated htarget
  subst heq
  rcases getMinimumVerifiedChangeSet_facts hfile with ⟨candidates, hcandidates, hfacts⟩
  exact ⟨⟨path, candidates, changeSet, hcandidates, hchangeSet, hfacts⟩, rfl, hok⟩

theorem PlannedTarget.view_ok
    {repository : Repository} (tree : FileTree) (target : PlannedTarget repository) :
    minimumVerifiedBatchTargetView tree repository target.path = .ok target.view := by
  unfold minimumVerifiedBatchTargetView
  rw [bind_eq_ok]
  exact ⟨target.changeSet, explainingFileTarget_eq_ok.mpr target.planned, rfl⟩

/-- A batch is answered exactly where each of its paths is planned on its own. -/
theorem whatShouldIRun_eq_ok_iff {tree : FileTree} {repository : Repository}
    {batch : BatchMinimumVerifiedChangeSetView} :
    whatShouldIRun tree repository paths = .ok batch ↔
      ∃ planned : List (PlannedTarget repository),
        validateRepositoryRelPaths paths "repository_rel_paths" =
            .ok (planned.map PlannedTarget.path) ∧
          (∀ target ∈ planned,
            prevalidateExistingRepositoryFileTargetFromRoot tree (rootSegments repository)
              "what_should_i_run" .mcpValidationError target.path = .ok ()) ∧
          batch = batchOf planned := by
  unfold whatShouldIRun
  simp only [bind_eq_ok, pure_eq_ok, prevalidateExistingRepositoryFileTargets_eq_ok]
  constructor
  · intro hok
    rcases hok with ⟨normalizedPaths, ⟨hvalidated, hexisting⟩, targets, htargets, hbatch⟩
    rcases exists_records PlannedTarget.path PlannedTarget.view htargets
        (fun path _ view hview => exists_plannedTarget hview) with
      ⟨planned, hpaths, hviews⟩
    subst hpaths
    subst hviews
    refine ⟨planned, hvalidated, ?_, hbatch.symm⟩
    intro target htarget
    exact hexisting target.path (List.mem_map_of_mem htarget)
  · intro hexists
    rcases hexists with ⟨planned, hvalidated, hexisting, hbatch⟩
    refine ⟨_, ⟨hvalidated, List.forall_mem_map.mpr hexisting⟩,
      planned.map PlannedTarget.view, ?_, hbatch.symm⟩
    exact mapM_records _ _ _ _ fun target _ => target.view_ok tree

theorem batchCandidates_planned {repository : Repository}
    {planned : List (PlannedTarget repository)}
    (hvalidated : validateRepositoryRelPaths paths "repository_rel_paths" =
      .ok (planned.map PlannedTarget.path)) :
    batchCandidates repository paths = .ok (planned.map PlannedTarget.candidates) := by
  unfold batchCandidates
  rw [bind_eq_ok]
  exact ⟨_, hvalidated, mapM_records _ _ _ _ fun target _ => target.collected⟩

/-! ## Planned ids -/

namespace ValidationCandidates

def plannedBuildIds (candidates : ValidationCandidates) : List String :=
  candidates.plannedBuilds.map BuildTargetDescription.actionId

def runnerActionIds (candidates : ValidationCandidates) : List String :=
  candidates.runnerActions.map RepositoryAction.id

def Replaces (candidates : ValidationCandidates) (testId : String) : Prop :=
  candidates.replacesDependentTests = true ∧ testId ∈ candidates.dependentTestIds

instance (candidates : ValidationCandidates) (testId : String) :
    Decidable (candidates.Replaces testId) :=
  inferInstanceAs (Decidable (_ ∧ _))

theorem directBuilds_ne_nil (hreplaces : candidates.Replaces testId) :
    candidates.directBuilds ≠ [] := by
  intro hnone
  have hboth := hreplaces.1
  simp [replacesDependentTests, hnone] at hboth

end ValidationCandidates

namespace PlannedTarget

variable {repository : Repository} (target : PlannedTarget repository)

theorem view_testIds :
    target.view.changeSet.tests.map MinimumVerifiedTestTargetView.testId =
      target.candidates.plannedTestIds := by
  rw [← target.facts.testIds_eq]
  exact List.map_map

theorem view_buildIds :
    target.view.changeSet.buildTargets.map MinimumVerifiedBuildTargetView.actionId =
      target.candidates.plannedBuildIds := by
  unfold ValidationCandidates.plannedBuildIds
  rw [← target.facts.buildIds_eq]
  exact List.map_map

theorem view_runnerIds :
    target.view.changeSet.runnerActions.map MinimumVerifiedRunnerActionView.actionId =
      target.candidates.runnerActionIds := by
  unfold ValidationCandidates.runnerActionIds
  rw [← target.facts.runnerActions.actions_eq, List.map_map]
  exact List.map_map

end PlannedTarget

/-! ## Listed builds -/

section Listed

variable {repository : Repository}

theorem repositoryBuilds_listed (target : PlannedTarget repository)
    (hmem : build ∈ target.candidates.targets) :
    ∃ targets, repository.listBuildTargets = .ok targets ∧
      target.candidates.targets = targets := by
  rcases target.candidatesFacts.targets_listed with hnil | hlisted
  · rw [hnil] at hmem
    simp at hmem
  · exact ⟨_, hlisted, rfl⟩

theorem targets_eq_of_mem {left right : PlannedTarget repository} {other : BuildTargetDescription}
    (hleft : build ∈ left.candidates.targets) (hright : other ∈ right.candidates.targets) :
    left.candidates.targets = right.candidates.targets := by
  rcases repositoryBuilds_listed left hleft with ⟨targets, hlisted, hleftEq⟩
  rcases repositoryBuilds_listed right hright with ⟨others, hothers, hrightEq⟩
  rw [hlisted] at hothers
  rw [hleftEq, hrightEq, Except.ok.inj hothers]

theorem build_eq_of_actionId_eq {left right : PlannedTarget repository}
    {other : BuildTargetDescription} (hleft : build ∈ left.candidates.targets)
    (hright : other ∈ right.candidates.targets) (hid : build.actionId = other.actionId) :
    build = other := by
  rcases repositoryBuilds_listed left hleft with ⟨targets, hlisted, hleftEq⟩
  have hnodup := (Repository.listBuildTargets_facts hlisted).nodup
  have hmem : other ∈ targets := by
    rw [← hleftEq, targets_eq_of_mem hleft hright]
    exact hright
  rw [hleftEq] at hleft
  exact List.inj_on_of_nodup_map hnodup hleft hmem hid

end Listed

/-! ## Quality operations -/

def PlannedItemViews.operations (items : PlannedItemViews) :
    QualityOperationKind → List MinimumVerifiedQualityOperationView
  | .lint => items.qualityValidationOperations
  | .format => items.qualityHygieneOperations

theorem qualityOperationId_injective
    {left right : String} {kind : QualityOperationKind}
    (heq : qualityOperationId left kind = qualityOperationId right kind) : left = right := by
  unfold qualityOperationId at heq
  have hlists := congrArg String.toList heq
  simp only [String.toList_append, List.append_assoc] at hlists
  have hrest := List.append_cancel_left hlists
  exact String.toList_injective (List.append_cancel_right hrest)

structure IsOperationView (candidates : ValidationCandidates) (kind : QualityOperationKind)
    (operation : MinimumVerifiedQualityOperationView) : Prop where
  provider_mem : operation.providerId ∈ candidates.qualityProviderIds
  id_eq : operation.id = qualityOperationId operation.providerId kind
  operation_eq : operation.operation = kind.value
  scope_eq : operation.scope = (qualityScope kind).value
  paths_ok : validateOperationPaths candidates.resolved.relevantFiles =
    .ok operation.repositoryRelPaths

namespace PlannedTarget

variable {repository : Repository} {target : PlannedTarget repository}
  {kind : QualityOperationKind}

theorem operation_facts (target : PlannedTarget repository) (kind : QualityOperationKind) :
    ∃ operations : List MinimumVerifiedQualityOperation,
      target.view.changeSet.operations kind =
          operations.map minimumVerifiedQualityOperationView ∧
        QualityOperationsFacts operations kind target.candidates.qualityProviderIds
          target.candidates.resolved.relevantFiles := by
  cases kind with
  | lint => exact ⟨_, rfl, target.facts.validation⟩
  | format => exact ⟨_, rfl, target.facts.hygiene⟩

theorem isOperationView (hmem : operation ∈ target.view.changeSet.operations kind) :
    IsOperationView target.candidates kind operation := by
  rcases target.operation_facts kind with ⟨operations, hviews, hfacts⟩
  rw [hviews] at hmem
  rcases List.mem_map.mp hmem with ⟨item, hitem, heq⟩
  subst heq
  have hoperation := hfacts.operation item hitem
  constructor
  · rw [← hfacts.providerIds_eq]
    exact List.mem_map_of_mem hitem
  · exact hoperation.id_eq
  · exact congrArg QualityOperationKind.value hoperation.operation_eq
  · exact congrArg QualityOperationScope.value hoperation.scope_eq
  · exact hoperation.paths_ok

theorem exists_operation (kind : QualityOperationKind) {providerId : String}
    (hprovider : providerId ∈ target.candidates.qualityProviderIds) :
    ∃ operation ∈ target.view.changeSet.operations kind,
      operation.providerId = providerId := by
  rcases target.operation_facts kind with ⟨operations, hviews, hfacts⟩
  rw [← hfacts.providerIds_eq] at hprovider
  rcases List.mem_map.mp hprovider with ⟨item, hitem, heq⟩
  refine ⟨minimumVerifiedQualityOperationView item, ?_, heq⟩
  rw [hviews]
  exact List.mem_map_of_mem hitem

end PlannedTarget

theorem resolveTarget_relevantFiles {repository : Repository} {resolved : ResolvedMinimumTarget}
    (hok : repository.resolveTarget (.file path) = .ok resolved) :
    ∃ evidencePath, resolved.relevantFiles = [evidencePath] := by
  unfold Repository.resolveTarget at hok
  simp only [bind_eq_ok, pure_eq_ok] at hok
  rcases hok with ⟨fileOwner, -, component, -, ownerFiles, -, heq⟩
  subst heq
  exact ⟨_, rfl⟩

theorem validationCandidates_relevantFiles {repository : Repository}
    (hok : validationCandidates repository (.file path) = .ok candidates) :
    ∃ evidencePath, candidates.resolved.relevantFiles = [evidencePath] := by
  unfold validationCandidates at hok
  rcases bind_eq_ok.mp hok with ⟨resolved, hresolved, hok⟩
  simp only [bind_eq_ok, pure_eq_ok] at hok
  rcases hok with ⟨artifacts, -, dependents, -, related, -, targets, -, tests, -, actions, -,
    providerIds, -, heq⟩
  subst heq
  exact resolveTarget_relevantFiles hresolved

theorem validateOperationPaths_singleton (hok : validateOperationPaths [path] = .ok paths) :
    ∃ normalized, paths = [normalized] := by
  unfold validateOperationPaths at hok
  simp only [List.isEmpty_cons, Bool.false_eq_true, if_false, normalizeOperationPaths,
    bind_eq_ok, List.not_mem_nil, List.nil_append] at hok
  rcases hok with ⟨normalized, -, hok⟩
  exact ⟨normalized, (Except.ok.inj hok).symm⟩

theorem PlannedTarget.exists_path {repository : Repository} (target : PlannedTarget repository)
    {kind : QualityOperationKind} (hmem : operation ∈ target.view.changeSet.operations kind) :
    ∃ path, operation.repositoryRelPaths = [path] := by
  rcases validationCandidates_relevantFiles target.collected with ⟨evidencePath, heq⟩
  have hpaths := (target.isOperationView hmem).paths_ok
  rw [heq] at hpaths
  exact validateOperationPaths_singleton hpaths

/-! ## Exclusions -/

theorem exclusionReason_value_injective
    {left right : MinimumVerifiedExclusionReason} (heq : left.value = right.value) :
    left = right := by
  revert heq
  cases left <;> cases right <;> decide

/-- An exclusion which a batch reports, seen from the target it comes from. -/
inductive BatchExclusion (candidates : ValidationCandidates)
    (item : ExcludedMinimumVerifiedItemView) : Prop where
  | dependentTest (hreplaces : candidates.Replaces item.itemId)
      (hkind : item.itemKind = MinimumVerifiedItemKind.testTarget.value)
      (hreason : item.reasonCode =
        MinimumVerifiedExclusionReason.dependentTestReplacedByNarrowerBuild.value)
      (hreplaced : item.replacedByIds =
        candidates.directBuilds.map BuildTargetDescription.actionId)
  | repositoryBuild (build : BuildTargetDescription)
      (hnarrow : candidates.narrowBuilds ≠ []) (hmem : build ∈ candidates.repositoryBuilds)
      (hid : item.itemId = build.actionId)
      (hkind : item.itemKind = MinimumVerifiedItemKind.buildTarget.value)
      (hreason : item.reasonCode =
        MinimumVerifiedExclusionReason.repositoryBuildReplacedByNarrowerBuild.value)
      (hreplaced : item.replacedByIds =
        candidates.narrowBuilds.map BuildTargetDescription.actionId)
  | surface (hreplaced : item.replacedByIds = [])
      (hdependent : item.reasonCode ≠
        MinimumVerifiedExclusionReason.dependentTestReplacedByNarrowerBuild.value)
      (hrepository : item.reasonCode ≠
        MinimumVerifiedExclusionReason.repositoryBuildReplacedByNarrowerBuild.value)
      (htagged : startsWith item.itemId "validation_surface:" = true ∨
        startsWith item.itemId "test_surface:" = true)

theorem BatchExclusion.replacedByIds_of_dependentTest (hcase : BatchExclusion candidates item)
    (hreason : item.reasonCode =
      MinimumVerifiedExclusionReason.dependentTestReplacedByNarrowerBuild.value) :
    item.replacedByIds = candidates.directBuilds.map BuildTargetDescription.actionId := by
  cases hcase with
  | dependentTest hreplaces hkind hcode hreplaced => exact hreplaced
  | repositoryBuild build hnarrow hbuild hid hkind hcode hreplaced =>
      rw [hreason] at hcode
      cases exclusionReason_value_injective hcode
  | surface hreplaced hdependent hrepository htagged => exact absurd hreason hdependent

theorem BatchExclusion.replacedByIds_of_repositoryBuild (hcase : BatchExclusion candidates item)
    (hreason : item.reasonCode =
      MinimumVerifiedExclusionReason.repositoryBuildReplacedByNarrowerBuild.value) :
    item.replacedByIds = candidates.narrowBuilds.map BuildTargetDescription.actionId := by
  cases hcase with
  | dependentTest hreplaces hkind hcode hreplaced =>
      rw [hreason] at hcode
      cases exclusionReason_value_injective hcode
  | repositoryBuild build hnarrow hbuild hid hkind hcode hreplaced => exact hreplaced
  | surface hreplaced hdependent hrepository htagged => exact absurd hreason hrepository

theorem PlannedTarget.batchExclusion {repository : Repository} {target : PlannedTarget repository}
    (hmem : item ∈ target.view.changeSet.excludedItems)
    (hallowed : item.reasonCode ∈ allowedReasonCodes) :
    BatchExclusion target.candidates item := by
  rcases List.mem_map.mp hmem with ⟨excluded, hexcluded, heq⟩
  subst heq
  have hcode : (excludedMinimumVerifiedItemView excluded).reasonCode =
      excluded.reasonCode.value := rfl
  cases target.facts.exclusion_cases excluded hexcluded with
  | duplicate testId hrelated hlength hduplicate =>
      rw [hcode, hduplicate.reasonCode_eq] at hallowed
      simp [allowedReasonCodes, MinimumVerifiedExclusionReason.value] at hallowed
  | broad testId hdropped hbroad =>
      rw [hcode, hbroad.reasonCode_eq] at hallowed
      simp [allowedReasonCodes, MinimumVerifiedExclusionReason.value] at hallowed
  | dependentTest testId hreplaces hdependent htest =>
      have hid : (excludedMinimumVerifiedItemView excluded).itemId = testId :=
        htest.itemId_eq
      refine .dependentTest ⟨hreplaces, by rwa [hid]⟩ ?_ ?_ htest.replacedByIds_eq
      · exact congrArg MinimumVerifiedItemKind.value htest.itemKind_eq
      · exact congrArg MinimumVerifiedExclusionReason.value htest.reasonCode_eq
  | repositoryBuild build hnarrow hbuild hfacts =>
      refine .repositoryBuild build hnarrow hbuild hfacts.itemId_eq ?_ ?_
        hfacts.replacedByIds_eq
      · exact congrArg MinimumVerifiedItemKind.value hfacts.itemKind_eq
      · exact congrArg MinimumVerifiedExclusionReason.value hfacts.reasonCode_eq
  | surface hsurface =>
      have hmem := hsurface.reasonCode_mem
      refine .surface hsurface.replacedByIds_eq ?_ ?_ hsurface.itemId_tagged
      · rw [hcode]
        intro heq
        rw [exclusionReason_value_injective heq] at hmem
        simp at hmem
      · rw [hcode]
        intro heq
        rw [exclusionReason_value_injective heq] at hmem
        simp at hmem

theorem PlannedTarget.exists_dependentTest {repository : Repository}
    {target : PlannedTarget repository} (hreplaces : target.candidates.Replaces testId) :
    ∃ item ∈ target.view.changeSet.excludedItems,
      exclusionKey item =
        (MinimumVerifiedItemKind.testTarget.value, testId,
          MinimumVerifiedExclusionReason.dependentTestReplacedByNarrowerBuild.value) := by
  rcases target.facts.exists_dependentTest hreplaces.1 testId hreplaces.2 with
    ⟨excluded, hexcluded, htest⟩
  refine ⟨excludedMinimumVerifiedItemView excluded, List.mem_map_of_mem hexcluded, ?_⟩
  simp [exclusionKey, excludedMinimumVerifiedItemView, htest.itemKind_eq, htest.itemId_eq,
    htest.reasonCode_eq]

theorem PlannedTarget.exists_repositoryBuild {repository : Repository}
    {target : PlannedTarget repository} (hnarrow : target.candidates.narrowBuilds ≠ [])
    (hbuild : build ∈ target.candidates.repositoryBuilds) :
    ∃ item ∈ target.view.changeSet.excludedItems,
      exclusionKey item =
        (MinimumVerifiedItemKind.buildTarget.value, build.actionId,
          MinimumVerifiedExclusionReason.repositoryBuildReplacedByNarrowerBuild.value) := by
  rcases target.facts.exists_repositoryBuild hnarrow build hbuild with
    ⟨excluded, hexcluded, hfacts⟩
  refine ⟨excludedMinimumVerifiedItemView excluded, List.mem_map_of_mem hexcluded, ?_⟩
  simp [exclusionKey, excludedMinimumVerifiedItemView, hfacts.itemKind_eq,
    hfacts.itemId_eq, hfacts.reasonCode_eq]

/-! ## The merged lists -/

section Batch

variable {repository : Repository} (planned : List (PlannedTarget repository))

theorem mem_mergedIds_iff
    {α : Type} {key : α → String}
    {items : BatchMinimumVerifiedChangeSetTargetView → List α}
    (ids : PlannedTarget repository → List String)
    (hids : ∀ target : PlannedTarget repository, (items target.view).map key = ids target)
    {wanted : String} :
    wanted ∈ (dedupeBy key ((planned.map PlannedTarget.view).flatMap items)).map key ↔
      ∃ target ∈ planned, wanted ∈ ids target := by
  rw [mem_map_dedupeBy_flatMap_iff]
  constructor
  · intro hexists
    rcases hexists with ⟨view, hview, hwanted⟩
    rcases List.mem_map.mp hview with ⟨target, htarget, heq⟩
    subst heq
    rw [hids] at hwanted
    exact ⟨target, htarget, hwanted⟩
  · intro hexists
    rcases hexists with ⟨target, htarget, hwanted⟩
    rw [← hids] at hwanted
    exact ⟨target.view, List.mem_map_of_mem htarget, hwanted⟩

theorem mem_merged_testIds_iff :
    testId ∈ (mergedItems (planned.map PlannedTarget.view)).tests.map
        MinimumVerifiedTestTargetView.testId ↔
      ∃ target ∈ planned, testId ∈ target.candidates.plannedTestIds :=
  mem_mergedIds_iff planned _ PlannedTarget.view_testIds

theorem mem_batch_buildIds_iff {actionId : String} :
    actionId ∈ (batchOf planned).buildTargets.map MinimumVerifiedBuildTargetView.actionId ↔
      ∃ target ∈ planned, actionId ∈ target.candidates.plannedBuildIds :=
  mem_mergedIds_iff planned _ PlannedTarget.view_buildIds

theorem mem_batch_runnerIds_iff {actionId : String} :
    actionId ∈ (batchOf planned).runnerActions.map MinimumVerifiedRunnerActionView.actionId ↔
      ∃ target ∈ planned, actionId ∈ target.candidates.runnerActionIds :=
  mem_mergedIds_iff planned _ PlannedTarget.view_runnerIds

theorem batch_operations (kind : QualityOperationKind) :
    (batchOf planned).operations kind =
      dedupeBy MinimumVerifiedQualityOperationView.id
        ((planned.map PlannedTarget.view).flatMap fun target =>
          target.changeSet.operations kind) := by
  cases kind <;> rfl

variable {planned}

theorem exists_target_of_mem_operations {kind : QualityOperationKind}
    (hmem : operation ∈ (batchOf planned).operations kind) :
    ∃ target ∈ planned, operation ∈ target.view.changeSet.operations kind := by
  rw [batch_operations] at hmem
  rcases exists_source_of_mem_dedupeBy hmem with ⟨view, hview, hoperation⟩
  rcases List.mem_map.mp hview with ⟨target, htarget, heq⟩
  subst heq
  exact ⟨target, htarget, hoperation⟩

theorem exists_batch_operation {target : PlannedTarget repository} (htarget : target ∈ planned)
    {kind : QualityOperationKind} (hmem : operation ∈ target.view.changeSet.operations kind) :
    ∃ kept ∈ (batchOf planned).operations kind, kept.providerId = operation.providerId := by
  rcases exists_mem_dedupeBy MinimumVerifiedQualityOperationView.id
      (fun view : BatchMinimumVerifiedChangeSetTargetView => view.changeSet.operations kind)
      (List.mem_map_of_mem htarget) hmem with
    ⟨kept, hkept, hid⟩
  rw [← batch_operations] at hkept
  refine ⟨kept, hkept, ?_⟩
  rcases exists_target_of_mem_operations hkept with ⟨source, -, hsource⟩
  rw [(source.isOperationView hsource).id_eq, (target.isOperationView hmem).id_eq] at hid
  exact qualityOperationId_injective hid

theorem batch_operation_unique
    {kind : QualityOperationKind} {left right : MinimumVerifiedQualityOperationView}
    (hleft : left ∈ (batchOf planned).operations kind)
    (hright : right ∈ (batchOf planned).operations kind)
    (hprovider : left.providerId = right.providerId) : left = right := by
  rcases exists_target_of_mem_operations hleft with ⟨source, -, hsource⟩
  rcases exists_target_of_mem_operations hright with ⟨other, -, hother⟩
  have hid : left.id = right.id := by
    rw [(source.isOperationView hsource).id_eq, (other.isOperationView hother).id_eq,
      hprovider]
  rw [batch_operations] at hleft hright
  exact eq_of_mem_dedupeBy hleft hright hid

variable (planned)

theorem mem_batch_excludedItems_iff :
    item ∈ (batchOf planned).excludedItems ↔
      item ∈ (mergedItems (planned.map PlannedTarget.view)).excludedItems ∧
        item.reasonCode ∈ allowedReasonCodes := by
  change item ∈ List.filter _ _ ↔ _
  simp

variable {planned}

theorem exists_target_of_mem_excludedItems
    (hmem : item ∈ (mergedItems (planned.map PlannedTarget.view)).excludedItems) :
    ∃ target ∈ planned, item ∈ target.view.changeSet.excludedItems := by
  rcases exists_source_of_mem_dedupeBy hmem with ⟨view, hview, hitem⟩
  rcases List.mem_map.mp hview with ⟨target, htarget, heq⟩
  subst heq
  exact ⟨target, htarget, hitem⟩

theorem exists_excludedItem {target : PlannedTarget repository} (htarget : target ∈ planned)
    (hmem : item ∈ target.view.changeSet.excludedItems)
    (hallowed : item.reasonCode ∈ allowedReasonCodes) :
    ∃ kept ∈ (batchOf planned).excludedItems, exclusionKey kept = exclusionKey item := by
  rcases exists_mem_dedupeBy exclusionKey
      (fun view : BatchMinimumVerifiedChangeSetTargetView => view.changeSet.excludedItems)
      (List.mem_map_of_mem htarget) hmem with
    ⟨kept, hkept, hkey⟩
  refine ⟨kept, (mem_batch_excludedItems_iff planned).mpr ⟨hkept, ?_⟩, hkey⟩
  have hreason := congrArg (fun key => key.2.2) hkey
  change kept.reasonCode = item.reasonCode at hreason
  rwa [hreason]

theorem exists_target_of_mem_batch (hmem : item ∈ (batchOf planned).excludedItems) :
    ∃ target ∈ planned, item ∈ target.view.changeSet.excludedItems ∧
      BatchExclusion target.candidates item := by
  rcases (mem_batch_excludedItems_iff planned).mp hmem with ⟨hmerged, hallowed⟩
  rcases exists_target_of_mem_excludedItems hmerged with ⟨target, htarget, hitem⟩
  exact ⟨target, htarget, hitem, target.batchExclusion hitem hallowed⟩

theorem exists_replaced_of_reason
    (hmem : item ∈ (mergedItems (planned.map PlannedTarget.view)).excludedItems)
    (hreason : item.reasonCode =
      MinimumVerifiedExclusionReason.dependentTestReplacedByNarrowerBuild.value) :
    ∃ target ∈ planned, target.candidates.Replaces item.itemId ∧
      item.replacedByIds = target.candidates.directBuilds.map BuildTargetDescription.actionId := by
  rcases exists_target_of_mem_excludedItems hmem with ⟨target, htarget, hitem⟩
  have hallowed : item.reasonCode ∈ allowedReasonCodes := by
    rw [hreason]
    simp [allowedReasonCodes, MinimumVerifiedExclusionReason.value]
  cases target.batchExclusion hitem hallowed with
  | dependentTest hreplaces hkind hcode hreplaced => exact ⟨target, htarget, hreplaces, hreplaced⟩
  | repositoryBuild build hnarrow hbuild hid hkind hcode hreplaced =>
      rw [hreason] at hcode
      cases exclusionReason_value_injective hcode
  | surface hreplaced hdependent hrepository htagged => exact absurd hreason hdependent

theorem replacesTest_iff
    (hmem : item ∈ (mergedItems (planned.map PlannedTarget.view)).excludedItems) :
    replacesTest (mergedItems (planned.map PlannedTarget.view)).buildTargets item = true ↔
      item.reasonCode =
        MinimumVerifiedExclusionReason.dependentTestReplacedByNarrowerBuild.value := by
  constructor
  · intro hreplaces
    simp only [replacesTest, Bool.and_eq_true, decide_eq_true_eq] at hreplaces
    exact hreplaces.1.1
  · intro hreason
    rcases exists_replaced_of_reason hmem hreason with ⟨target, htarget, hreplaces, hreplaced⟩
    have hsome := ValidationCandidates.directBuilds_ne_nil hreplaces
    have hplanned := ValidationCandidates.plannedBuilds_eq_of_ne_nil hsome
    simp only [replacesTest, hreason, Bool.and_eq_true, decide_eq_true_eq,
      MinimumVerifiedExclusionReason.value, hreplaced, List.all_eq_true, List.contains_iff_mem]
    refine ⟨⟨trivial, by simpa using hsome⟩, ?_⟩
    intro replacement hreplacement
    apply (mem_batch_buildIds_iff planned).mpr
    refine ⟨target, htarget, ?_⟩
    unfold ValidationCandidates.plannedBuildIds
    rwa [hplanned]

theorem exists_replacesTest_iff :
    testId ∈ ((mergedItems (planned.map PlannedTarget.view)).excludedItems.filter
        (replacesTest (mergedItems (planned.map PlannedTarget.view)).buildTargets)).map
          ExcludedMinimumVerifiedItemView.itemId ↔
      ∃ target ∈ planned, target.candidates.Replaces testId := by
  constructor
  · intro hmem
    rcases List.mem_map.mp hmem with ⟨item, hitem, heq⟩
    subst heq
    rcases List.mem_filter.mp hitem with ⟨hitem, hreplaces⟩
    have hreason := (replacesTest_iff hitem).mp hreplaces
    rcases exists_replaced_of_reason hitem hreason with ⟨target, htarget, hreplaced, -⟩
    exact ⟨target, htarget, hreplaced⟩
  · intro hexists
    rcases hexists with ⟨target, htarget, hreplaces⟩
    rcases target.exists_dependentTest hreplaces with ⟨item, hitem, hkey⟩
    rcases exists_mem_dedupeBy exclusionKey
        (fun view : BatchMinimumVerifiedChangeSetTargetView => view.changeSet.excludedItems)
        (List.mem_map_of_mem htarget) hitem with
      ⟨kept, hkept, hkeptKey⟩
    rw [hkey] at hkeptKey
    simp only [exclusionKey, Prod.mk.injEq] at hkeptKey
    refine List.mem_map.mpr ⟨kept, List.mem_filter.mpr ⟨hkept, ?_⟩, hkeptKey.2.1⟩
    exact (replacesTest_iff hkept).mpr hkeptKey.2.2

theorem mem_batch_testIds_iff :
    testId ∈ (batchOf planned).tests.map MinimumVerifiedTestTargetView.testId ↔
      (∃ target ∈ planned, testId ∈ target.candidates.plannedTestIds) ∧
        ¬ ∃ target ∈ planned, target.candidates.Replaces testId := by
  rw [← mem_merged_testIds_iff, ← exists_replacesTest_iff]
  change testId ∈ List.map _ (List.filter _ _) ↔ _
  constructor
  · intro hmem
    rcases List.mem_map.mp hmem with ⟨item, hitem, heq⟩
    subst heq
    rcases List.mem_filter.mp hitem with ⟨hitem, hkept⟩
    exact ⟨List.mem_map_of_mem hitem, by simpa using hkept⟩
  · intro hmem
    rcases List.mem_map.mp hmem.1 with ⟨item, hitem, heq⟩
    subst heq
    have hkept := hmem.2
    exact List.mem_map_of_mem (List.mem_filter.mpr ⟨hitem, by simpa using hkept⟩)

end Batch

namespace Sample

def workTree (names : List String) : FileTree :=
  { entries := (["work"], .directory) :: names.map fun name => (["work", name], .file)
    linkLimit := 40 }

end Sample

end SuitCode
