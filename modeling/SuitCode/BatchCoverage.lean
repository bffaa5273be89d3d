import SuitCode.BatchFacts
import SuitCode.ChangeSetCoherence

/-!
# Coverage of a batch

Two properties a batch should have for every target in it: no quality check of
the target is lost in the merge, and no test which the target requires
directly is dropped.  Each fails for some batches, and is proved equivalent to
a condition on the candidates of the targets.
-/

namespace SuitCode

open PosixText KeyedList ExceptList

/-! ## Quality checks -/

/-- Every quality operation of every target is part of the batch, with every
file it applies to. -/
def BatchMinimumVerifiedChangeSetView.KeepsQualityChecks
    (batch : BatchMinimumVerifiedChangeSetView) : Prop :=
  ∀ target ∈ batch.targets,
    ∀ operation ∈ target.changeSet.qualityValidationOperations ++
        target.changeSet.qualityHygieneOperations,
      ∀ path ∈ operation.repositoryRelPaths,
        ∃ kept ∈ batch.qualityValidationOperations ++ batch.qualityHygieneOperations,
          kept.providerId = operation.providerId ∧ kept.operation = operation.operation ∧
            kept.scope = operation.scope ∧ path ∈ kept.repositoryRelPaths

instance (batch : BatchMinimumVerifiedChangeSetView) : Decidable batch.KeepsQualityChecks :=
  inferInstanceAs (Decidable (∀ target ∈ batch.targets, _))

/-- Targets checked by one quality provider are the same file. -/
def SharedProvidersShareFiles (candidates : List ValidationCandidates) : Prop :=
  ∀ left ∈ candidates, ∀ right ∈ candidates,
    ∀ providerId ∈ left.qualityProviderIds, providerId ∈ right.qualityProviderIds →
      validateOperationPaths left.resolved.relevantFiles =
        validateOperationPaths right.resolved.relevantFiles

theorem mem_operations_append_iff
    {items : PlannedItemViews} {operation : MinimumVerifiedQualityOperationView} :
    operation ∈ items.qualityValidationOperations ++ items.qualityHygieneOperations ↔
      ∃ kind, operation ∈ items.operations kind := by
  rw [List.mem_append]
  constructor
  · intro hmem
    rcases hmem with hlint | hformat
    · exact ⟨.lint, hlint⟩
    · exact ⟨.format, hformat⟩
  · intro hexists
    rcases hexists with ⟨kind, hmem⟩
    cases kind with
    | lint => exact Or.inl hmem
    | format => exact Or.inr hmem

theorem qualityOperationKind_value_injective
    {left right : QualityOperationKind} (heq : left.value = right.value) : left = right := by
  revert heq
  cases left <;> cases right <;> decide

section QualityChecks

variable {repository : Repository} {planned : List (PlannedTarget repository)}

theorem kept_operation_covers
    (hkeeps : (batchOf planned).KeepsQualityChecks) {target : PlannedTarget repository}
    (htarget : target ∈ planned) {kind : QualityOperationKind}
    {operation : MinimumVerifiedQualityOperationView}
    (hmem : operation ∈ target.view.changeSet.operations kind) :
    ∃ kept ∈ (batchOf planned).operations kind, kept.providerId = operation.providerId ∧
      ∀ path ∈ operation.repositoryRelPaths, path ∈ kept.repositoryRelPaths := by
  rcases exists_batch_operation htarget hmem with ⟨kept, hkept, hprovider⟩
  refine ⟨kept, hkept, hprovider, ?_⟩
  intro path hpath
  rcases hkeeps target.view (List.mem_map_of_mem htarget) operation
      (mem_operations_append_iff.mpr ⟨kind, hmem⟩) path hpath with
    ⟨covering, hcovering, hsame, hoperation, -, hcovers⟩
  rcases mem_operations_append_iff.mp hcovering with ⟨other, hother⟩
  rcases exists_target_of_mem_operations hother with ⟨source, -, hsource⟩
  have hkind : other = kind := by
    rw [(source.isOperationView hsource).operation_eq,
      (target.isOperationView hmem).operation_eq] at hoperation
    exact qualityOperationKind_value_injective hoperation
  subst hkind
  have heq := batch_operation_unique hkept hother (hprovider.trans hsame.symm)
  rw [heq]
  exact hcovers

theorem sharedProvidersShareFiles_of_keepsQualityChecks
    (hkeeps : (batchOf planned).KeepsQualityChecks) :
    SharedProvidersShareFiles (planned.map PlannedTarget.candidates) := by
  intro left hleft right hright providerId hproviderLeft hproviderRight
  rcases List.mem_map.mp hleft with ⟨leftTarget, hleftTarget, heq⟩
  subst heq
  rcases List.mem_map.mp hright with ⟨rightTarget, hrightTarget, heq⟩
  subst heq
  rcases leftTarget.exists_operation .lint hproviderLeft with
    ⟨leftOperation, hleftOperation, hleftProvider⟩
  rcases rightTarget.exists_operation .lint hproviderRight with
    ⟨rightOperation, hrightOperation, hrightProvider⟩
  rcases kept_operation_covers hkeeps hleftTarget hleftOperation with
    ⟨kept, hkept, hkeptProvider, hleftCovered⟩
  rcases kept_operation_covers hkeeps hrightTarget hrightOperation with
    ⟨other, hother, hotherProvider, hrightCovered⟩
  have hsame : kept = other := by
    apply batch_operation_unique hkept hother
    rw [hkeptProvider, hotherProvider, hleftProvider, hrightProvider]
  subst hsame
  rcases exists_target_of_mem_operations hkept with ⟨source, -, hsource⟩
  rcases source.exists_path hsource with ⟨path, hpath⟩
  rcases leftTarget.exists_path hleftOperation with ⟨leftPath, hleftPath⟩
  rcases rightTarget.exists_path hrightOperation with ⟨rightPath, hrightPath⟩
  simp only [hpath, hleftPath, List.mem_singleton, forall_eq] at hleftCovered
  simp only [hpath, hrightPath, List.mem_singleton, forall_eq] at hrightCovered
  rw [(leftTarget.isOperationView hleftOperation).paths_ok,
    (rightTarget.isOperationView hrightOperation).paths_ok, hleftPath, hrightPath,
    hleftCovered, hrightCovered]

theorem keepsQualityChecks_of_sharedProvidersShareFiles
    (hshared : SharedProvidersShareFiles (planned.map PlannedTarget.candidates)) :
    (batchOf planned).KeepsQualityChecks := by
  intro view hview operation hoperation path hpath
  rcases List.mem_map.mp hview with ⟨target, htarget, heq⟩
  subst heq
  rcases mem_operations_append_iff.mp hoperation with ⟨kind, hmem⟩
  rcases exists_batch_operation htarget hmem with ⟨kept, hkept, hprovider⟩
  rcases exists_target_of_mem_operations hkept with ⟨source, hsource, hsourceMem⟩
  have hkeptView := source.isOperationView hsourceMem
  have hview := target.isOperationView hmem
  refine ⟨kept, mem_operations_append_iff.mpr ⟨kind, hkept⟩, hprovider, ?_, ?_, ?_⟩
  · rw [hkeptView.operation_eq, hview.operation_eq]
  · rw [hkeptView.scope_eq, hview.scope_eq]
  · have hpaths := hshared source.candidates (List.mem_map_of_mem hsource)
      target.candidates (List.mem_map_of_mem htarget) kept.providerId
      hkeptView.provider_mem (by rw [hprovider]; exact hview.provider_mem)
    rw [hkeptView.paths_ok, hview.paths_ok] at hpaths
    rw [Except.ok.inj hpaths]
    exact hpath

end QualityChecks

/-- A batch keeps every quality check exactly when no two of its files share a
quality provider. -/
theorem batch_keepsQualityChecks_iff
    {tree : FileTree} {repository : Repository} {paths : List String}
    {batch : BatchMinimumVerifiedChangeSetView}
    (hok : whatShouldIRun tree repository paths = .ok batch) :
    ∃ candidates, batchCandidates repository paths = .ok candidates ∧
      (batch.KeepsQualityChecks ↔ SharedProvidersShareFiles candidates) := by
  rcases whatShouldIRun_eq_ok_iff.mp hok with ⟨planned, hvalidated, -, hbatch⟩
  subst hbatch
  refine ⟨_, batchCandidates_planned hvalidated, ?_, ?_⟩
  · exact sharedProvidersShareFiles_of_keepsQualityChecks
  · exact keepsQualityChecks_of_sharedProvidersShareFiles

namespace Sample

def twoLintedFiles : Repository :=
  { root := "/work"
    providers :=
      [{ providerId := "py"
         components := [component "c:py:app" [] []]
         files := [file "c:py:app" "a.py", file "c:py:app" "b.py"] }]
    providerRoles := fun _ => [.architecture, .quality] }

end Sample

theorem twoLintedFiles_loses_check :
    (whatShouldIRun (Sample.workTree ["a.py", "b.py"]) Sample.twoLintedFiles
      ["a.py", "b.py"]).Yields fun batch => ¬ batch.KeepsQualityChecks := by
  decide +kernel

/-- The lint and the format of the second file are lost. -/
theorem batch_not_always_keepsQualityChecks :
    ¬ ∀ (tree : FileTree) (repository : Repository) (paths : List String)
      (batch : BatchMinimumVerifiedChangeSetView),
      whatShouldIRun tree repository paths = .ok batch → batch.KeepsQualityChecks := by
  intro hall
  rcases twoLintedFiles_loses_check.exists_ok with ⟨batch, hok, hnot⟩
  exact hnot (hall _ _ _ _ hok)

/-- The equivalence for the two files. -/
theorem batch_keepsQualityChecks_iff_twoLintedFiles :
    ∃ batch,
      whatShouldIRun (Sample.workTree ["a.py", "b.py"]) Sample.twoLintedFiles
          ["a.py", "b.py"] = .ok batch ∧
        ∃ candidates,
          batchCandidates Sample.twoLintedFiles ["a.py", "b.py"] = .ok candidates ∧
            (batch.KeepsQualityChecks ↔ SharedProvidersShareFiles candidates) := by
  rcases twoLintedFiles_loses_check.exists_ok with ⟨batch, hok, -⟩
  exact ⟨batch, hok, batch_keepsQualityChecks_iff hok⟩

/-! ## Directly required tests -/

def directReasons : List String := [exactFileReason, sameOwnerReason]

/-- Every test which some target includes as its own is a test of the batch. -/
def BatchMinimumVerifiedChangeSetView.KeepsDirectTests
    (batch : BatchMinimumVerifiedChangeSetView) : Prop :=
  ∀ target ∈ batch.targets, ∀ test ∈ target.changeSet.tests,
    test.inclusionReason ∈ directReasons →
      test.testId ∈ batch.tests.map MinimumVerifiedTestTargetView.testId

instance (batch : BatchMinimumVerifiedChangeSetView) : Decidable batch.KeepsDirectTests :=
  inferInstanceAs (Decidable (∀ target ∈ batch.targets, _))

def ValidationCandidates.RequiresDirectly (candidates : ValidationCandidates)
    (testId : String) : Prop :=
  testId ∈ keptTestIds candidates.related ∧
    ∃ selected ∈ selectedMatch candidates.related testId,
      humanTestReason selected ∈ directReasons

/-- No test which one target requires directly is replaced by builds of another. -/
def DirectTestsUnreplaced (candidates : List ValidationCandidates) : Prop :=
  ∀ left ∈ candidates, ∀ right ∈ candidates, ∀ testId,
    left.RequiresDirectly testId → ¬ right.Replaces testId

section DirectTests

variable {repository : Repository}

theorem dependentTestReason_not_direct : dependentTestReason ∉ directReasons := by
  decide

theorem PlannedTarget.requiresDirectly_iff
    (target : PlannedTarget repository) {testId : String} :
    target.candidates.RequiresDirectly testId ↔
      ∃ test ∈ target.view.changeSet.tests,
        test.testId = testId ∧ test.inclusionReason ∈ directReasons := by
  constructor
  · intro hdirect
    rcases hdirect with ⟨hkept, selected, hselected, hreason⟩
    have hreturns := ValidationCandidates.returnsDependentTests_of_kept
      target.candidatesFacts hkept
    have hplanned := ValidationCandidates.mem_plannedTestIds_of_kept
      target.candidatesFacts hkept
    rw [← target.facts.testIds_eq] at hplanned
    rcases List.mem_map.mp hplanned with ⟨item, hitem, heq⟩
    rcases target.facts.direct_reason hreturns item hitem with
      ⟨other, hother, hotherReason⟩
    rw [heq, Option.mem_def.mp hselected] at hother
    rw [← Option.some.inj hother] at hotherReason
    refine ⟨minimumVerifiedTestTargetView item, List.mem_map_of_mem hitem, heq, ?_⟩
    change item.inclusionReason ∈ directReasons
    rw [hotherReason]
    exact hreason
  · intro hexists
    rcases hexists with ⟨view, hview, heq, hreason⟩
    rcases List.mem_map.mp hview with ⟨item, hitem, hviewEq⟩
    subst hviewEq
    subst heq
    have hplanned : item.testId ∈ target.candidates.plannedTestIds := by
      rw [← target.facts.testIds_eq]
      exact List.mem_map_of_mem hitem
    change item.inclusionReason ∈ directReasons at hreason
    unfold ValidationCandidates.plannedTestIds at hplanned
    cases hreturns : target.candidates.returnsDependentTests with
    | true =>
        rw [target.facts.returned_reason hreturns item hitem] at hreason
        exact absurd hreason dependentTestReason_not_direct
    | false =>
        rw [hreturns] at hplanned
        rcases target.facts.direct_reason hreturns item hitem with
          ⟨selected, hselected, hselectedReason⟩
        rw [hselectedReason] at hreason
        exact ⟨hplanned, selected, hselected, hreason⟩

theorem mem_plannedTestIds_of_requiresDirectly
    {target : PlannedTarget repository} {testId : String}
    (hdirect : target.candidates.RequiresDirectly testId) :
    testId ∈ target.candidates.plannedTestIds :=
  ValidationCandidates.mem_plannedTestIds_of_kept target.candidatesFacts hdirect.1

end DirectTests

/-- A batch keeps the directly required tests exactly when none of them is
replaced, for another target, by a narrower build. -/
theorem batch_keepsDirectTests_iff
    {tree : FileTree} {repository : Repository} {paths : List String}
    {batch : BatchMinimumVerifiedChangeSetView}
    (hok : whatShouldIRun tree repository paths = .ok batch) :
    ∃ candidates, batchCandidates repository paths = .ok candidates ∧
      (batch.KeepsDirectTests ↔ DirectTestsUnreplaced candidates) := by
  rcases whatShouldIRun_eq_ok_iff.mp hok with ⟨planned, hvalidated, -, hbatch⟩
  subst hbatch
  refine ⟨_, batchCandidates_planned hvalidated, ?_⟩
  constructor
  · intro hkeeps left hleft right hright testId hdirect hreplaces
    rcases List.mem_map.mp hleft with ⟨leftTarget, hleftTarget, heq⟩
    subst heq
    rcases List.mem_map.mp hright with ⟨rightTarget, hrightTarget, heq⟩
    subst heq
    rcases leftTarget.requiresDirectly_iff.mp hdirect with ⟨test, htest, hid, hreason⟩
    have hmem := hkeeps leftTarget.view (List.mem_map_of_mem hleftTarget) test htest hreason
    rw [mem_batch_testIds_iff, hid] at hmem
    exact hmem.2 ⟨rightTarget, hrightTarget, hreplaces⟩
  · intro hunreplaced view hview test htest hreason
    rcases List.mem_map.mp hview with ⟨target, htarget, heq⟩
    subst heq
    have hdirect := target.requiresDirectly_iff.mpr ⟨test, htest, rfl, hreason⟩
    rw [mem_batch_testIds_iff]
    refine ⟨⟨target, htarget, mem_plannedTestIds_of_requiresDirectly hdirect⟩, ?_⟩
    intro hexists
    rcases hexists with ⟨other, hother, hreplaces⟩
    exact hunreplaced target.candidates (List.mem_map_of_mem htarget) other.candidates
      (List.mem_map_of_mem hother) test.testId hdirect hreplaces

namespace Sample

def buildAndDependentTest : Repository :=
  { root := "/work"
    providers :=
      [{ providerId := "py"
         components :=
          [component "c:py:core" ["core.py"] [], component "c:py:utils" ["utils.py"] []]
         files := [file "c:py:core" "core.py", file "c:py:utils" "utils.py"]
         componentDependencyEdges := fun source => .ok
          (if source = some "c:py:core" then []
          else [⟨"c:py:utils", "c:py:core", .component, .runtime, manifest⟩])
         discoveredTests := [discovered "test:py:utils"]
         relatedTests := fun target => .ok
          (if target = .file "core.py" then []
          else [relatedMatch "test:py:utils" .sameOwner (some "c:py:utils") none])
         testTargets := describe
         actions := [buildAction "py" "action:py:core" "c:py:core" .component] }]
    providerRoles := fun _ => [.architecture, .test] }

end Sample

theorem buildAndDependentTest_drops_test :
    (whatShouldIRun (Sample.workTree ["core.py", "utils.py"]) Sample.buildAndDependentTest
      ["core.py", "utils.py"]).Yields fun batch => ¬ batch.KeepsDirectTests := by
  decide +kernel

/-- The test of `utils.py` is dropped because the build of `core.py` replaces it. -/
theorem batch_not_always_keepsDirectTests :
    ¬ ∀ (tree : FileTree) (repository : Repository) (paths : List String)
      (batch : BatchMinimumVerifiedChangeSetView),
      whatShouldIRun tree repository paths = .ok batch → batch.KeepsDirectTests := by
  intro hall
  rcases buildAndDependentTest_drops_test.exists_ok with ⟨batch, hok, hnot⟩
  exact hnot (hall _ _ _ _ hok)

/-- The equivalence for a component and a dependent of it. -/
theorem batch_keepsDirectTests_iff_buildAndDependentTest :
    ∃ batch,
      whatShouldIRun (Sample.workTree ["core.py", "utils.py"])
          Sample.buildAndDependentTest ["core.py", "utils.py"] = .ok batch ∧
        ∃ candidates,
          batchCandidates Sample.buildAndDependentTest ["core.py", "utils.py"] =
              .ok candidates ∧
            (batch.KeepsDirectTests ↔ DirectTestsUnreplaced candidates) := by
  rcases buildAndDependentTest_drops_test.exists_ok with ⟨batch, hok, -⟩
  exact ⟨batch, hok, batch_keepsDirectTests_iff hok⟩

end SuitCode
