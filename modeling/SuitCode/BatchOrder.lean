import SuitCode.BatchCoverage

/-!
# Order independence of a batch

A batch lists the same tests, builds and runners for every order of its
targets.  Its quality checks and its exclusions depend on the order where two
targets bring different items under one key, since a merge keeps the first of
them; this module states exactly when no two targets do.
-/

namespace SuitCode

open PosixText KeyedList ExceptList

/-! ## Equal plans -/

namespace PlannedItemViews

def qualityTriples (items : PlannedItemViews) : List (String × String × String) :=
  (items.qualityValidationOperations ++ items.qualityHygieneOperations).flatMap
    fun operation => operation.repositoryRelPaths.map fun path =>
      (operation.providerId, operation.operation, path)

def exclusionTuples (items : PlannedItemViews) :
    List ((String × String × String) × List String) :=
  items.excludedItems.map fun item => (exclusionKey item, item.replacedByIds)

structure SamePlan (left right : PlannedItemViews) : Prop where
  tests : ∀ testId, testId ∈ left.tests.map MinimumVerifiedTestTargetView.testId ↔
    testId ∈ right.tests.map MinimumVerifiedTestTargetView.testId
  builds : ∀ actionId,
    actionId ∈ left.buildTargets.map MinimumVerifiedBuildTargetView.actionId ↔
      actionId ∈ right.buildTargets.map MinimumVerifiedBuildTargetView.actionId
  runners : ∀ actionId,
    actionId ∈ left.runnerActions.map MinimumVerifiedRunnerActionView.actionId ↔
      actionId ∈ right.runnerActions.map MinimumVerifiedRunnerActionView.actionId
  quality : ∀ triple, triple ∈ left.qualityTriples ↔ triple ∈ right.qualityTriples
  exclusions : ∀ tuple, tuple ∈ left.exclusionTuples ↔ tuple ∈ right.exclusionTuples

end PlannedItemViews

/-- Two targets which replace the same test, or the same repository-wide builds,
replace them by the same builds. -/
def ReplacementsAgree (candidates : List ValidationCandidates) : Prop :=
  (∀ left ∈ candidates, ∀ right ∈ candidates, ∀ testId,
      left.Replaces testId → right.Replaces testId →
        left.directBuilds.map BuildTargetDescription.actionId =
          right.directBuilds.map BuildTargetDescription.actionId) ∧
    ∀ left ∈ candidates, ∀ right ∈ candidates,
      left.narrowBuilds ≠ [] → right.narrowBuilds ≠ [] → left.repositoryBuilds ≠ [] →
        left.narrowBuilds.map BuildTargetDescription.actionId =
          right.narrowBuilds.map BuildTargetDescription.actionId

/-! ## Permuted paths -/

theorem validateRepositoryRelPaths_perm
    {paths paths' normalized : List String} {fieldName : String} (hperm : paths'.Perm paths)
    (hok : validateRepositoryRelPaths paths fieldName = .ok normalized) :
    validateRepositoryRelPaths paths' fieldName = .ok (paths'.map strip) := by
  rw [validateRepositoryRelPaths_eq_ok] at hok ⊢
  rcases hok with ⟨heq, hsome, hblank, hnodup⟩
  subst heq
  have hstripped := hperm.map strip
  refine ⟨rfl, ?_, ?_, ?_⟩
  · intro hnil
    subst hnil
    exact hsome hperm.nil_eq.symm
  · rwa [hstripped.mem_iff]
  · rwa [hstripped.nodup_iff]

section Permutations

variable {repository : Repository} {tree : FileTree} {paths paths' : List String}
  {planned planned' : List (PlannedTarget repository)}

theorem PlannedTarget.eq_of_path_eq
    {left right : PlannedTarget repository} (hpath : left.path = right.path) :
    left = right := by
  obtain ⟨path, candidates, changeSet, hcollected, hplanned, hfacts⟩ := left
  obtain ⟨path', candidates', changeSet', hcollected', hplanned', hfacts'⟩ := right
  dsimp only at hpath
  subst hpath
  have hcandidates : candidates = candidates' := by
    rw [hcollected] at hcollected'
    exact Except.ok.inj hcollected'
  have hchangeSet : changeSet = changeSet' := by
    rw [hplanned] at hplanned'
    exact Except.ok.inj hplanned'
  subst hcandidates
  subst hchangeSet
  rfl

theorem planned_eq_of_paths_eq
    (hpaths : planned.map PlannedTarget.path = planned'.map PlannedTarget.path) :
    planned = planned' :=
  List.map_injective_iff.mpr (fun _ _ => PlannedTarget.eq_of_path_eq) hpaths

theorem exists_planned_perm
    (hperm : paths'.Perm paths)
    (hvalidated : validateRepositoryRelPaths paths "repository_rel_paths" =
      .ok (planned.map PlannedTarget.path)) :
    ∃ planned' : List (PlannedTarget repository), planned'.Perm planned ∧
      validateRepositoryRelPaths paths' "repository_rel_paths" =
        .ok (planned'.map PlannedTarget.path) := by
  have hstripped := (validateRepositoryRelPaths_eq_ok.mp hvalidated).1
  have hpaths : (paths'.map strip).Perm (planned.map PlannedTarget.path) := by
    rw [hstripped]
    exact hperm.map strip
  rcases exists_perm_of_map_perm hpaths with ⟨planned', hplanned, heq⟩
  refine ⟨planned', hplanned, ?_⟩
  rw [heq]
  exact validateRepositoryRelPaths_perm hperm hvalidated

theorem exists_paths_first
    {target : PlannedTarget repository} (htarget : target ∈ planned)
    (hvalidated : validateRepositoryRelPaths paths "repository_rel_paths" =
      .ok (planned.map PlannedTarget.path)) :
    ∃ paths' rest, paths'.Perm paths ∧ (target :: rest).Perm planned ∧
      validateRepositoryRelPaths paths' "repository_rel_paths" =
        .ok ((target :: rest).map PlannedTarget.path) := by
  rcases List.append_of_mem htarget with ⟨before, after, hsplit⟩
  have hfirst : (target :: (before ++ after)).Perm planned := by
    rw [hsplit]
    exact List.perm_middle.symm
  have hstripped := (validateRepositoryRelPaths_eq_ok.mp hvalidated).1
  have hkeys : ((target :: (before ++ after)).map PlannedTarget.path).Perm
      (paths.map strip) := by
    rw [← hstripped]
    exact hfirst.map PlannedTarget.path
  rcases exists_perm_of_map_perm hkeys with ⟨paths', hpaths, heq⟩
  refine ⟨paths', before ++ after, hpaths, hfirst, ?_⟩
  rw [← heq]
  exact validateRepositoryRelPaths_perm hpaths hvalidated

end Permutations

/-! ## Items under one key -/

section Keys

variable {repository : Repository} {planned planned' : List (PlannedTarget repository)}

theorem mem_qualityTriples_iff
    (hshared : SharedProvidersShareFiles (planned.map PlannedTarget.candidates))
    {triple : String × String × String} :
    triple ∈ (batchOf planned).qualityTriples ↔
      ∃ target ∈ planned, triple ∈ target.view.changeSet.qualityTriples := by
  simp only [PlannedItemViews.qualityTriples, List.mem_flatMap, List.mem_map]
  constructor
  · intro hexists
    rcases hexists with ⟨operation, hoperation, path, hpath, heq⟩
    rcases mem_operations_append_iff.mp hoperation with ⟨kind, hkind⟩
    rcases exists_target_of_mem_operations hkind with ⟨target, htarget, hmem⟩
    exact ⟨target, htarget, operation, mem_operations_append_iff.mpr ⟨kind, hmem⟩, path,
      hpath, heq⟩
  · intro hexists
    rcases hexists with ⟨target, htarget, operation, hoperation, path, hpath, heq⟩
    have hkeeps := keepsQualityChecks_of_sharedProvidersShareFiles hshared
    rcases hkeeps target.view (List.mem_map_of_mem htarget) operation hoperation path hpath
      with ⟨kept, hkept, hprovider, hkind, -, hcovers⟩
    refine ⟨kept, hkept, path, hcovers, ?_⟩
    rw [hprovider, hkind]
    exact heq

theorem replacedByIds_eq_of_key_eq
    (hagree : ReplacementsAgree (planned.map PlannedTarget.candidates))
    {left right : PlannedTarget repository} (hleft : left ∈ planned) (hright : right ∈ planned)
    {item other : ExcludedMinimumVerifiedItemView}
    (hitem : BatchExclusion left.candidates item)
    (hother : BatchExclusion right.candidates other)
    (hkey : exclusionKey item = exclusionKey other) :
    item.replacedByIds = other.replacedByIds := by
  simp only [exclusionKey, Prod.mk.injEq] at hkey
  rcases hkey with ⟨-, hid, hreason⟩
  have hleftMem := List.mem_map_of_mem (f := PlannedTarget.candidates) hleft
  have hrightMem := List.mem_map_of_mem (f := PlannedTarget.candidates) hright
  cases hitem with
  | dependentTest hreplaces hkind hcode hreplaced =>
      cases hother with
      | dependentTest hotherReplaces hotherKind hotherCode hotherReplaced =>
          rw [hreplaced, hotherReplaced]
          rw [← hid] at hotherReplaces
          exact hagree.1 _ hleftMem _ hrightMem item.itemId hreplaces hotherReplaces
      | repositoryBuild build hnarrow hbuild hbuildId hotherKind hotherCode hotherReplaced =>
          rw [hcode, hotherCode] at hreason
          cases exclusionReason_value_injective hreason
      | surface hotherReplaced hdependent hrepository htagged =>
          exact absurd (hreason.symm.trans hcode) hdependent
  | repositoryBuild build hnarrow hbuild hbuildId hkind hcode hreplaced =>
      cases hother with
      | dependentTest hotherReplaces hotherKind hotherCode hotherReplaced =>
          rw [hcode, hotherCode] at hreason
          cases exclusionReason_value_injective hreason
      | repositoryBuild same hotherNarrow hsame hsameId hotherKind hotherCode
          hotherReplaced =>
          rw [hreplaced, hotherReplaced]
          exact hagree.2 _ hleftMem _ hrightMem hnarrow hotherNarrow
            (List.ne_nil_of_mem hbuild)
      | surface hotherReplaced hdependent hrepository htagged =>
          exact absurd (hreason.symm.trans hcode) hrepository
  | surface hreplaced hdependent hrepository htagged =>
      cases hother with
      | dependentTest hotherReplaces hotherKind hotherCode hotherReplaced =>
          exact absurd (hreason.trans hotherCode) hdependent
      | repositoryBuild same hotherNarrow hsame hsameId hotherKind hotherCode
          hotherReplaced =>
          exact absurd (hreason.trans hotherCode) hrepository
      | surface hotherReplaced hotherDependent hotherRepository hotherTagged =>
          rw [hreplaced, hotherReplaced]

theorem mem_exclusionTuples_iff
    (hagree : ReplacementsAgree (planned.map PlannedTarget.candidates))
    {tuple : (String × String × String) × List String} :
    tuple ∈ (batchOf planned).exclusionTuples ↔
      tuple.1.2.2 ∈ allowedReasonCodes ∧
        ∃ target ∈ planned, tuple ∈ target.view.changeSet.exclusionTuples := by
  simp only [PlannedItemViews.exclusionTuples, List.mem_map]
  constructor
  · intro hexists
    rcases hexists with ⟨item, hitem, heq⟩
    subst heq
    have hallowed := ((mem_batch_excludedItems_iff planned).mp hitem).2
    rcases exists_target_of_mem_batch hitem with ⟨target, htarget, hmem, -⟩
    exact ⟨hallowed, target, htarget, item, hmem, rfl⟩
  · intro hexists
    rcases hexists with ⟨hallowed, target, htarget, item, hitem, heq⟩
    subst heq
    rcases exists_excludedItem htarget hitem hallowed with ⟨kept, hkept, hkey⟩
    rcases exists_target_of_mem_batch hkept with ⟨source, hsource, -, hkeptCase⟩
    have hitemCase := target.batchExclusion hitem hallowed
    refine ⟨kept, hkept, ?_⟩
    rw [hkey, replacedByIds_eq_of_key_eq hagree hsource htarget hkeptCase hitemCase hkey]

theorem samePlan_of_perm
    (hshared : SharedProvidersShareFiles (planned.map PlannedTarget.candidates))
    (hagree : ReplacementsAgree (planned.map PlannedTarget.candidates))
    (hperm : planned'.Perm planned) :
    PlannedItemViews.SamePlan (batchOf planned).toPlannedItemViews
      (batchOf planned').toPlannedItemViews := by
  have hmem : ∀ target, target ∈ planned' ↔ target ∈ planned := fun _ => hperm.mem_iff
  have hcandidates : ∀ candidates, candidates ∈ planned'.map PlannedTarget.candidates ↔
      candidates ∈ planned.map PlannedTarget.candidates :=
    fun _ => (hperm.map PlannedTarget.candidates).mem_iff
  have hshared' : SharedProvidersShareFiles (planned'.map PlannedTarget.candidates) := by
    intro left hleft right hright
    exact hshared left ((hcandidates left).mp hleft) right ((hcandidates right).mp hright)
  have hagree' : ReplacementsAgree (planned'.map PlannedTarget.candidates) := by
    constructor
    · intro left hleft right hright
      exact hagree.1 left ((hcandidates left).mp hleft) right ((hcandidates right).mp hright)
    · intro left hleft right hright
      exact hagree.2 left ((hcandidates left).mp hleft) right ((hcandidates right).mp hright)
  constructor
  case tests =>
    intro testId
    simp only [mem_batch_testIds_iff, hmem]
  case builds =>
    intro actionId
    simp only [mem_batch_buildIds_iff, hmem]
  case runners =>
    intro actionId
    simp only [mem_batch_runnerIds_iff, hmem]
  case quality =>
    intro triple
    simp only [mem_qualityTriples_iff hshared, mem_qualityTriples_iff hshared', hmem]
  case exclusions =>
    intro tuple
    simp only [mem_exclusionTuples_iff hagree, mem_exclusionTuples_iff hagree', hmem]

end Keys

/-! ## The first target of a batch -/

section First

variable {repository : Repository} {target : PlannedTarget repository}
  {rest : List (PlannedTarget repository)}

theorem mem_operations_of_first
    {kind : QualityOperationKind} {operation : MinimumVerifiedQualityOperationView}
    (hmem : operation ∈ (batchOf (target :: rest)).operations kind)
    (hprovider : operation.providerId ∈ target.candidates.qualityProviderIds) :
    operation ∈ target.view.changeSet.operations kind := by
  rcases target.exists_operation kind hprovider with ⟨own, hown, hownProvider⟩
  rcases exists_target_of_mem_operations hmem with ⟨source, -, hsource⟩
  have hid : own.id = operation.id := by
    rw [(PlannedTarget.isOperationView hown).id_eq, hownProvider,
      (PlannedTarget.isOperationView hsource).id_eq]
  rw [batch_operations, List.map_cons, List.flatMap_cons] at hmem
  exact mem_of_mem_dedupeBy_append hmem hown hid

theorem mem_excludedItems_of_first
    {item own : ExcludedMinimumVerifiedItemView}
    (hmem : item ∈ (batchOf (target :: rest)).excludedItems)
    (hown : own ∈ target.view.changeSet.excludedItems)
    (hkey : exclusionKey own = exclusionKey item) :
    item ∈ target.view.changeSet.excludedItems := by
  have hmerged := ((mem_batch_excludedItems_iff _).mp hmem).1
  change item ∈ dedupeBy exclusionKey _ at hmerged
  rw [List.map_cons, List.flatMap_cons] at hmerged
  exact mem_of_mem_dedupeBy_append hmerged hown hkey

end First

section Necessity

variable {repository : Repository} {left right : PlannedTarget repository}
  {leftRest rightRest : List (PlannedTarget repository)}

theorem paths_eq_of_sameQuality
    (hsame : ∀ triple, triple ∈ (batchOf (left :: leftRest)).qualityTriples ↔
      triple ∈ (batchOf (right :: rightRest)).qualityTriples)
    {providerId : String} (hleft : providerId ∈ left.candidates.qualityProviderIds)
    (hright : providerId ∈ right.candidates.qualityProviderIds) :
    validateOperationPaths left.candidates.resolved.relevantFiles =
      validateOperationPaths right.candidates.resolved.relevantFiles := by
  rcases left.exists_operation .lint hleft with ⟨own, hown, hownProvider⟩
  have hfirst : left ∈ left :: leftRest := List.mem_cons_self
  rcases exists_batch_operation hfirst hown with ⟨kept, hkept, hkeptProvider⟩
  rw [hownProvider] at hkeptProvider
  have hkeptOwn := mem_operations_of_first hkept (by rwa [hkeptProvider])
  rcases left.exists_path hkeptOwn with ⟨path, hpath⟩
  have hkeptView := PlannedTarget.isOperationView hkeptOwn
  have htriple : (providerId, kept.operation, path) ∈
      (batchOf (left :: leftRest)).qualityTriples := by
    refine List.mem_flatMap.mpr ⟨kept, mem_operations_append_iff.mpr ⟨.lint, hkept⟩, ?_⟩
    exact List.mem_map.mpr ⟨path, by rw [hpath]; exact List.mem_singleton_self path,
      by rw [hkeptProvider]⟩
  rw [hsame] at htriple
  rcases List.mem_flatMap.mp htriple with ⟨other, hother, hmem⟩
  rcases List.mem_map.mp hmem with ⟨otherPath, hotherPath, heq⟩
  simp only [Prod.mk.injEq] at heq
  rcases heq with ⟨hotherProvider, -, hpathEq⟩
  subst hpathEq
  rcases mem_operations_append_iff.mp hother with ⟨kind, hkind⟩
  have hotherOwn := mem_operations_of_first hkind (by rwa [hotherProvider])
  rcases right.exists_path hotherOwn with ⟨same, hsamePath⟩
  rw [hsamePath, List.mem_singleton] at hotherPath
  subst hotherPath
  rw [hkeptView.paths_ok, (PlannedTarget.isOperationView hotherOwn).paths_ok, hpath,
    hsamePath]

theorem exists_same_replacements
    (hsame : ∀ tuple, tuple ∈ (batchOf (left :: leftRest)).exclusionTuples ↔
      tuple ∈ (batchOf (right :: rightRest)).exclusionTuples)
    {item other : ExcludedMinimumVerifiedItemView}
    (hitem : item ∈ left.view.changeSet.excludedItems)
    (hother : other ∈ right.view.changeSet.excludedItems)
    (hkey : exclusionKey item = exclusionKey other)
    (hallowed : item.reasonCode ∈ allowedReasonCodes) :
    ∃ leftItem rightItem, exclusionKey leftItem = exclusionKey item ∧
      exclusionKey rightItem = exclusionKey item ∧
      BatchExclusion left.candidates leftItem ∧ BatchExclusion right.candidates rightItem ∧
      leftItem.replacedByIds = rightItem.replacedByIds := by
  have hfirst : left ∈ left :: leftRest := List.mem_cons_self
  rcases exists_excludedItem hfirst hitem hallowed with ⟨kept, hkept, hkeptKey⟩
  have hkeptOwn := mem_excludedItems_of_first hkept hitem hkeptKey.symm
  have htuple : (exclusionKey kept, kept.replacedByIds) ∈
      (batchOf (left :: leftRest)).exclusionTuples :=
    List.mem_map.mpr ⟨kept, hkept, rfl⟩
  rw [hsame] at htuple
  rcases List.mem_map.mp htuple with ⟨same, hsameMem, heq⟩
  simp only [Prod.mk.injEq] at heq
  rcases heq with ⟨hsameKey, hreplaced⟩
  have hsameOwn := mem_excludedItems_of_first hsameMem hother
    (by rw [hsameKey, hkeptKey, hkey])
  refine ⟨kept, same, hkeptKey, hsameKey.trans hkeptKey, ?_, ?_, hreplaced.symm⟩
  · exact left.batchExclusion hkeptOwn ((mem_batch_excludedItems_iff _).mp hkept).2
  · exact right.batchExclusion hsameOwn ((mem_batch_excludedItems_iff _).mp hsameMem).2

end Necessity

/-! ## Order independence -/

/-- Every permutation of the paths gives a batch with the same plan. -/
def BatchMinimumVerifiedChangeSetView.OrderIndependent (tree : FileTree)
    (repository : Repository) (paths : List String)
    (batch : BatchMinimumVerifiedChangeSetView) : Prop :=
  ∀ paths' : List String, paths'.Perm paths →
    ∃ batch', whatShouldIRun tree repository paths' = .ok batch' ∧
      PlannedItemViews.SamePlan batch.toPlannedItemViews batch'.toPlannedItemViews

section OrderIndependence

variable {repository : Repository} {tree : FileTree} {paths : List String}
  {planned : List (PlannedTarget repository)}

theorem exists_samePlan_first
    (hindependent : (batchOf planned).OrderIndependent tree repository paths)
    (hvalidated : validateRepositoryRelPaths paths "repository_rel_paths" =
      .ok (planned.map PlannedTarget.path))
    {target : PlannedTarget repository} (htarget : target ∈ planned) :
    ∃ rest, PlannedItemViews.SamePlan (batchOf planned).toPlannedItemViews
      (batchOf (target :: rest)).toPlannedItemViews := by
  rcases exists_paths_first htarget hvalidated with
    ⟨paths', rest, hperm, -, hvalidated'⟩
  rcases hindependent paths' hperm with ⟨batch', hok, hsame⟩
  rcases whatShouldIRun_eq_ok_iff.mp hok with ⟨planned', hplanned', -, hbatch⟩
  rw [hvalidated'] at hplanned'
  have heq := planned_eq_of_paths_eq (Except.ok.inj hplanned')
  subst heq
  subst hbatch
  exact ⟨rest, hsame⟩

theorem sharedProvidersShareFiles_of_orderIndependent
    (hindependent : (batchOf planned).OrderIndependent tree repository paths)
    (hvalidated : validateRepositoryRelPaths paths "repository_rel_paths" =
      .ok (planned.map PlannedTarget.path)) :
    SharedProvidersShareFiles (planned.map PlannedTarget.candidates) := by
  intro left hleft right hright providerId hproviderLeft hproviderRight
  rcases List.mem_map.mp hleft with ⟨leftTarget, hleftTarget, heq⟩
  subst heq
  rcases List.mem_map.mp hright with ⟨rightTarget, hrightTarget, heq⟩
  subst heq
  rcases exists_samePlan_first hindependent hvalidated hleftTarget with ⟨leftRest, hleftSame⟩
  rcases exists_samePlan_first hindependent hvalidated hrightTarget with
    ⟨rightRest, hrightSame⟩
  have htriples : ∀ triple, triple ∈ (batchOf (leftTarget :: leftRest)).qualityTriples ↔
      triple ∈ (batchOf (rightTarget :: rightRest)).qualityTriples := by
    intro triple
    rw [← hleftSame.quality, hrightSame.quality]
  exact paths_eq_of_sameQuality htriples hproviderLeft hproviderRight

theorem replacementsAgree_of_orderIndependent
    (hindependent : (batchOf planned).OrderIndependent tree repository paths)
    (hvalidated : validateRepositoryRelPaths paths "repository_rel_paths" =
      .ok (planned.map PlannedTarget.path)) :
    ReplacementsAgree (planned.map PlannedTarget.candidates) := by
  have hsame : ∀ left ∈ planned, ∀ right ∈ planned, ∃ leftRest rightRest,
      ∀ tuple, tuple ∈ (batchOf (left :: leftRest)).exclusionTuples ↔
        tuple ∈ (batchOf (right :: rightRest)).exclusionTuples := by
    intro left hleft right hright
    rcases exists_samePlan_first hindependent hvalidated hleft with ⟨leftRest, hleftSame⟩
    rcases exists_samePlan_first hindependent hvalidated hright with ⟨rightRest, hrightSame⟩
    refine ⟨leftRest, rightRest, ?_⟩
    intro tuple
    rw [← hleftSame.exclusions, hrightSame.exclusions]
  constructor
  · intro left hleft right hright testId hleftReplaces hrightReplaces
    rcases List.mem_map.mp hleft with ⟨leftTarget, hleftTarget, heq⟩
    subst heq
    rcases List.mem_map.mp hright with ⟨rightTarget, hrightTarget, heq⟩
    subst heq
    rcases hsame leftTarget hleftTarget rightTarget hrightTarget with
      ⟨leftRest, rightRest, htuples⟩
    rcases leftTarget.exists_dependentTest hleftReplaces with ⟨item, hitem, hkey⟩
    rcases rightTarget.exists_dependentTest hrightReplaces with ⟨other, hother, hotherKey⟩
    have hreason : item.reasonCode =
        MinimumVerifiedExclusionReason.dependentTestReplacedByNarrowerBuild.value :=
      congrArg (fun key => key.2.2) hkey
    rcases exists_same_replacements htuples hitem hother (hkey.trans hotherKey.symm)
        (by rw [hreason]; decide) with
      ⟨leftItem, rightItem, hleftKey, hrightKey, hleftCase, hrightCase, hreplaced⟩
    rw [hkey] at hleftKey hrightKey
    rw [← hleftCase.replacedByIds_of_dependentTest (congrArg (fun key => key.2.2) hleftKey),
      hreplaced,
      hrightCase.replacedByIds_of_dependentTest (congrArg (fun key => key.2.2) hrightKey)]
  · intro left hleft right hright hleftNarrow hrightNarrow hrepository
    rcases List.mem_map.mp hleft with ⟨leftTarget, hleftTarget, heq⟩
    subst heq
    rcases List.mem_map.mp hright with ⟨rightTarget, hrightTarget, heq⟩
    subst heq
    rcases hsame leftTarget hleftTarget rightTarget hrightTarget with
      ⟨leftRest, rightRest, htuples⟩
    rcases List.exists_mem_of_ne_nil _ hrepository with ⟨build, hbuild⟩
    rcases List.exists_mem_of_ne_nil _ hrightNarrow with ⟨narrow, hnarrow⟩
    have htargets := targets_eq_of_mem (List.mem_filter.mp hbuild).1
      (mem_of_mem_narrowBuildTargets hnarrow).1
    have hrightBuild : build ∈ rightTarget.candidates.repositoryBuilds := by
      unfold ValidationCandidates.repositoryBuilds
      rw [← htargets]
      exact hbuild
    rcases leftTarget.exists_repositoryBuild hleftNarrow hbuild with ⟨item, hitem, hkey⟩
    rcases rightTarget.exists_repositoryBuild hrightNarrow hrightBuild with
      ⟨other, hother, hotherKey⟩
    have hreason : item.reasonCode =
        MinimumVerifiedExclusionReason.repositoryBuildReplacedByNarrowerBuild.value :=
      congrArg (fun key => key.2.2) hkey
    rcases exists_same_replacements htuples hitem hother (hkey.trans hotherKey.symm)
        (by rw [hreason]; decide) with
      ⟨leftItem, rightItem, hleftKey, hrightKey, hleftCase, hrightCase, hreplaced⟩
    rw [hkey] at hleftKey hrightKey
    rw [← hleftCase.replacedByIds_of_repositoryBuild
        (congrArg (fun key => key.2.2) hleftKey), hreplaced,
      hrightCase.replacedByIds_of_repositoryBuild
        (congrArg (fun key => key.2.2) hrightKey)]

end OrderIndependence

/-- A batch does not depend on the order of its files exactly when no two of them
share a quality provider and equal exclusions name equal replacements. -/
theorem batch_orderIndependent_iff
    {tree : FileTree} {repository : Repository} {paths : List String}
    {batch : BatchMinimumVerifiedChangeSetView}
    (hok : whatShouldIRun tree repository paths = .ok batch) :
    ∃ candidates, batchCandidates repository paths = .ok candidates ∧
      (batch.OrderIndependent tree repository paths ↔
        SharedProvidersShareFiles candidates ∧ ReplacementsAgree candidates) := by
  rcases whatShouldIRun_eq_ok_iff.mp hok with ⟨planned, hvalidated, hexisting, hbatch⟩
  subst hbatch
  refine ⟨_, batchCandidates_planned hvalidated, ?_⟩
  constructor
  · intro hindependent
    exact ⟨sharedProvidersShareFiles_of_orderIndependent hindependent hvalidated,
      replacementsAgree_of_orderIndependent hindependent hvalidated⟩
  · intro hagree paths' hperm
    rcases exists_planned_perm hperm hvalidated with ⟨planned', hplanned, hvalidated'⟩
    refine ⟨batchOf planned', ?_, samePlan_of_perm hagree.1 hagree.2 hplanned⟩
    rw [whatShouldIRun_eq_ok_iff]
    refine ⟨planned', hvalidated', ?_, rfl⟩
    intro target htarget
    exact hexisting target (hplanned.mem_iff.mp htarget)

/-- The order of two files with a common quality provider matters. -/
theorem batch_not_always_orderIndependent :
    ¬ ∀ (tree : FileTree) (repository : Repository) (paths : List String)
      (batch : BatchMinimumVerifiedChangeSetView),
      whatShouldIRun tree repository paths = .ok batch →
        batch.OrderIndependent tree repository paths := by
  intro hall
  rcases twoLintedFiles_loses_check.exists_ok with ⟨batch, hok, hnot⟩
  have hindependent := hall _ _ _ _ hok
  rcases whatShouldIRun_eq_ok_iff.mp hok with ⟨planned, hvalidated, -, hbatch⟩
  subst hbatch
  exact hnot (keepsQualityChecks_of_sharedProvidersShareFiles
    (sharedProvidersShareFiles_of_orderIndependent hindependent hvalidated))

/-- The equivalence for two files with a common quality provider. -/
theorem batch_orderIndependent_iff_twoLintedFiles :
    ∃ batch,
      whatShouldIRun (Sample.workTree ["a.py", "b.py"]) Sample.twoLintedFiles
          ["a.py", "b.py"] = .ok batch ∧
        ∃ candidates,
          batchCandidates Sample.twoLintedFiles ["a.py", "b.py"] = .ok candidates ∧
            (batch.OrderIndependent (Sample.workTree ["a.py", "b.py"])
                Sample.twoLintedFiles ["a.py", "b.py"] ↔
              SharedProvidersShareFiles candidates ∧ ReplacementsAgree candidates) := by
  rcases twoLintedFiles_loses_check.exists_ok with ⟨batch, hok, -⟩
  exact ⟨batch, hok, batch_orderIndependent_iff hok⟩

end SuitCode
