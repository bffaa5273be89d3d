import SuitCode.ChangeSetCoherence

/-!
# Tiers of build targets

The build targets of a repository fall into tiers around a change: those of the
primary component, those associated with the owner, those of dependent
components and those of the whole repository.  A change set plans the first
tier which has a target.
-/

namespace SuitCode

open PosixText KeyedList ExceptList

/-! ## Tiers -/

def isDependentBuild (dependents : List ResolvedDependentComponent)
    (target : BuildTargetDescription) : Bool :=
  target.targetKind = .component &&
    dependents.any fun dependent => target.targetId = dependent.component.id

def narrowestTier (tiers : List (List BuildTargetDescription)) :
    List BuildTargetDescription :=
  (tiers.find? fun tier => !tier.isEmpty).getD []

namespace ValidationCandidates

def componentTier (candidates : ValidationCandidates) : List BuildTargetDescription :=
  componentBuildTargets candidates.resolved.primaryComponent candidates.targets

def ownerTier (candidates : ValidationCandidates) : List BuildTargetDescription :=
  ownerBuildTargets candidates.resolved.owner candidates.resolved.primaryComponent
    candidates.targets

def dependentTier (candidates : ValidationCandidates) : List BuildTargetDescription :=
  candidates.targets.filter (isDependentBuild candidates.dependents)

def narrowTier (candidates : ValidationCandidates) : List BuildTargetDescription :=
  narrowestTier [candidates.componentTier, candidates.ownerTier]

def buildTiers (candidates : ValidationCandidates) (noTests : Bool) :
    List (List BuildTargetDescription) :=
  [candidates.componentTier, candidates.ownerTier,
    if noTests then candidates.dependentTier else [], candidates.repositoryBuilds]

/-- Without a test and without a build of its own, a target has both a dependent component
which builds and a repository which builds. -/
def HidesDependentBuilds (candidates : ValidationCandidates) : Prop :=
  keptTestIds candidates.related = [] ∧ candidates.componentTier = [] ∧
    candidates.ownerTier = [] ∧ candidates.dependentTier ≠ [] ∧
      candidates.repositoryBuilds ≠ []

end ValidationCandidates

/-- The build targets are the narrowest tier which has a target, and every build of the
whole repository is included or excluded. -/
def MinimumVerifiedChangeSet.BuildsNarrowest (changeSet : MinimumVerifiedChangeSet)
    (candidates : ValidationCandidates) : Prop :=
  (changeSet.buildTargets.map MinimumVerifiedBuildTarget.target).Perm
      (narrowestTier (candidates.buildTiers changeSet.tests.isEmpty)) ∧
    ∀ build ∈ candidates.repositoryBuilds,
      build ∈ changeSet.buildTargets.map MinimumVerifiedBuildTarget.target ∨
        ∃ excluded ∈ changeSet.excludedItems,
          IsRepositoryBuildExclusion excluded build candidates.narrowBuilds

@[simp] theorem narrowestTier_nil : narrowestTier [] = [] := rfl

@[simp] theorem narrowestTier_nil_cons (tiers : List (List BuildTargetDescription)) :
    narrowestTier ([] :: tiers) = narrowestTier tiers := rfl

@[simp] theorem narrowestTier_singleton (tier : List BuildTargetDescription) :
    narrowestTier [tier] = tier := by
  cases tier <;> rfl

theorem narrowestTier_pair_nil (tier : List BuildTargetDescription) :
    narrowestTier [tier, []] = tier := by
  cases tier <;> rfl

theorem narrowestTier_append (front back : List (List BuildTargetDescription)) :
    narrowestTier (front ++ back) =
      if narrowestTier front = [] then narrowestTier back else narrowestTier front := by
  induction front with
  | nil => rfl
  | cons tier tiers ih =>
      cases tier with
      | nil => exact ih
      | cons build builds => rfl

theorem narrowestTier_buildTiers (candidates : ValidationCandidates) (noTests : Bool) :
    narrowestTier (candidates.buildTiers noTests) =
      if candidates.narrowTier = [] then
        narrowestTier [if noTests then candidates.dependentTier else [],
          candidates.repositoryBuilds]
      else candidates.narrowTier :=
  narrowestTier_append [candidates.componentTier, candidates.ownerTier] _

theorem narrowTier_eq_nil_iff (candidates : ValidationCandidates) :
    candidates.narrowTier = [] ↔ candidates.componentTier = [] ∧ candidates.ownerTier = [] := by
  unfold ValidationCandidates.narrowTier
  cases candidates.componentTier with
  | nil => simp
  | cons build builds => simp [narrowestTier]

variable {dependents : List ResolvedDependentComponent}

/-! ## Merged lists are reorderings of their tiers -/

section Merged

variable {targets : List BuildTargetDescription}

theorem narrowOwnerBuildTargets_perm
    (hnodup : (targets.map BuildTargetDescription.actionId).Nodup)
    (owner : OwnedNodeInfo) (primaryComponent : Option Component) :
    (narrowOwnerBuildTargets owner primaryComponent targets).Perm
      (ownerBuildTargets owner primaryComponent targets) := by
  have howner : ((ownerBuildTargets owner primaryComponent targets).map
      BuildTargetDescription.actionId).Nodup :=
    hnodup.sublist (List.filter_sublist.map _)
  have hreverse : ((ownerBuildTargets owner primaryComponent targets).reverse.map
      BuildTargetDescription.actionId).Nodup := by
    rw [List.map_reverse, List.nodup_reverse]
    exact howner
  have hmerged := nodup_map_dedupeBy BuildTargetDescription.actionId
    (ownerBuildTargets owner primaryComponent targets).reverse
  apply (sortedBy_perm BuildTargetDescription.actionId _).trans
  apply (List.perm_ext_iff_of_nodup (hmerged.of_map _) (howner.of_map _)).mpr
  intro target
  rw [mem_dedupeBy_iff, leader?_eq_some_iff hreverse, List.mem_reverse]
  simp

theorem mem_dependentBuildTargets_iff {entry : ResolvedDependentComponent × BuildTargetDescription} :
    entry ∈ dependentBuildTargets dependents targets ↔
      entry.1 ∈ dependents ∧ entry.2 ∈ targets ∧ entry.2.targetKind = .component ∧
        entry.2.targetId = entry.1.component.id := by
  unfold dependentBuildTargets
  rw [List.mem_flatMap]
  constructor
  · intro hmem
    obtain ⟨dependent, hdependent, hmem⟩ := hmem
    obtain ⟨target, htarget, heq⟩ := List.mem_map.mp hmem
    subst heq
    obtain ⟨hlisted, hboth⟩ := List.mem_filter.mp htarget
    rw [Bool.and_eq_true, decide_eq_true_eq, decide_eq_true_eq] at hboth
    exact ⟨hdependent, hlisted, hboth⟩
  · intro hmem
    obtain ⟨hdependent, hlisted, hkind, hid⟩ := hmem
    refine ⟨entry.1, hdependent, List.mem_map.mpr ⟨entry.2, ?_, rfl⟩⟩
    rw [List.mem_filter]
    exact ⟨hlisted, by simp [hkind, hid]⟩

theorem mem_narrowDependentBuildTargets_iff
    (hnodup : (targets.map BuildTargetDescription.actionId).Nodup) {target : BuildTargetDescription} :
    target ∈ (narrowDependentBuildTargets dependents targets).map Prod.snd ↔
      target ∈ targets.filter (isDependentBuild dependents) := by
  rw [List.mem_filter, isDependentBuild, Bool.and_eq_true, decide_eq_true_eq,
    List.any_eq_true]
  constructor
  · intro hmem
    obtain ⟨entry, hentry, heq⟩ := List.mem_map.mp hmem
    subst heq
    have hsorted := mem_sortedBy.mp (mem_of_mem_dedupeBy hentry)
    obtain ⟨hdependent, hlisted, hkind, hid⟩ := mem_dependentBuildTargets_iff.mp hsorted
    exact ⟨hlisted, hkind, entry.1, hdependent, by simpa using hid⟩
  · intro hmem
    obtain ⟨hlisted, hkind, dependent, hdependent, hid⟩ := hmem
    have hin : (dependent, target) ∈ sortedBy (fun entry => entry.2.actionId)
        (dependentBuildTargets dependents targets) :=
      mem_sortedBy.mpr (mem_dependentBuildTargets_iff.mpr
        ⟨hdependent, hlisted, hkind, by simpa using hid⟩)
    obtain ⟨first, hfirst⟩ := exists_leader
      (fun entry : ResolvedDependentComponent × BuildTargetDescription => entry.2.actionId) hin
    have hfirstIn := mem_sortedBy.mp (leader?_mem hfirst)
    have hfirstListed := (mem_dependentBuildTargets_iff.mp hfirstIn).2.1
    -- an action id belongs to one target
    have hkey := leader?_key hfirst
    have heq : first.2 = target :=
      List.inj_on_of_nodup_map hnodup hfirstListed hlisted hkey
    exact List.mem_map.mpr ⟨first, leader_mem_dedupeBy hfirst, heq⟩

theorem narrowDependentBuildTargets_perm
    (hnodup : (targets.map BuildTargetDescription.actionId).Nodup)
    (dependents : List ResolvedDependentComponent) :
    ((narrowDependentBuildTargets dependents targets).map Prod.snd).Perm
      (targets.filter (isDependentBuild dependents)) := by
  have hids : (((narrowDependentBuildTargets dependents targets).map Prod.snd).map
      BuildTargetDescription.actionId).Nodup := by
    rw [List.map_map]
    exact nodup_map_dedupeBy _ _
  apply (List.perm_ext_iff_of_nodup (hids.of_map _) ((hnodup.of_map _).filter _)).mpr
  intro target
  exact mem_narrowDependentBuildTargets_iff hnodup

theorem dependentBuildTargets_eq_nil_iff :
    dependentBuildTargets dependents targets = [] ↔
      targets.filter (isDependentBuild dependents) = [] := by
  rw [List.filter_eq_nil_iff, List.eq_nil_iff_forall_not_mem]
  constructor
  · intro hnone target htarget hdependent
    rw [isDependentBuild, Bool.and_eq_true, decide_eq_true_eq, List.any_eq_true] at hdependent
    obtain ⟨hkind, dependent, hmem, hid⟩ := hdependent
    exact hnone (dependent, target) (mem_dependentBuildTargets_iff.mpr
      ⟨hmem, htarget, hkind, by simpa using hid⟩)
  · intro hnone entry hentry
    obtain ⟨hdependent, hlisted, hkind, hid⟩ := mem_dependentBuildTargets_iff.mp hentry
    apply hnone entry.2 hlisted
    rw [isDependentBuild, Bool.and_eq_true, decide_eq_true_eq, List.any_eq_true]
    exact ⟨hkind, entry.1, hdependent, by simpa using hid⟩

end Merged

/-! ## What is planned -/

section Planned

variable {candidates : ValidationCandidates}

theorem narrowBuilds_perm
    (hnodup : (candidates.targets.map BuildTargetDescription.actionId).Nodup) :
    candidates.narrowBuilds.Perm candidates.narrowTier := by
  have howner := narrowOwnerBuildTargets_perm hnodup candidates.resolved.owner
    candidates.resolved.primaryComponent
  unfold ValidationCandidates.narrowBuilds narrowBuildTargets ValidationCandidates.narrowTier
    ValidationCandidates.componentTier ValidationCandidates.ownerTier
  cases componentBuildTargets candidates.resolved.primaryComponent candidates.targets with
  | nil => simpa using howner
  | cons build builds => exact .refl _

theorem chosenBuildTargets_perm_dependentTier
    (hnodup : (candidates.targets.map BuildTargetDescription.actionId).Nodup)
    (hprimary : candidates.dependents ≠ [] →
      candidates.resolved.primaryComponent.isSome = true)
    (hdirect : candidates.directBuilds = []) :
    (chosenBuildTargets candidates.resolved.owner candidates.resolved.primaryComponent
      candidates.targets candidates.dependents).Perm candidates.dependentTier := by
  obtain ⟨hnarrow, hrepository⟩ := candidates.directBuilds_eq_nil_iff.mp hdirect
  unfold ValidationCandidates.narrowBuilds at hnarrow
  unfold ValidationCandidates.repositoryBuilds at hrepository
  unfold chosenBuildTargets ValidationCandidates.dependentTier
  rw [hnarrow, hrepository, List.isEmpty_nil, Bool.not_true, if_neg Bool.false_ne_true]
  by_cases hnil : dependentBuildTargets candidates.dependents candidates.targets = []
  · rw [dependentBuildTargets_eq_nil_iff.mp hnil, hnil, List.isEmpty_nil, Bool.not_true,
      Bool.false_and, if_neg Bool.false_ne_true]
  · have hdependents : candidates.dependents ≠ [] := by
      intro hempty
      rw [hempty] at hnil
      exact hnil rfl
    rw [hprimary hdependents, if_pos (by simpa using hnil)]
    exact narrowDependentBuildTargets_perm hnodup candidates.dependents

theorem plannedTestIds_eq_kept (hbuilds : candidates.directBuilds ≠ []) :
    candidates.plannedTestIds = keptTestIds candidates.related := by
  simp [ValidationCandidates.plannedTestIds, ValidationCandidates.returnsDependentTests, hbuilds]

theorem dependentTier_not_perm_repositoryBuilds (hdependent : candidates.dependentTier ≠ []) :
    ¬ candidates.repositoryBuilds.Perm candidates.dependentTier := by
  intro hperm
  obtain ⟨build, hmem⟩ := List.exists_mem_of_ne_nil _ hdependent
  have hcomponent := (List.mem_filter.mp hmem).2
  have hrepository := (List.mem_filter.mp (hperm.mem_iff.mpr hmem)).2
  rw [isDependentBuild, Bool.and_eq_true, decide_eq_true_eq] at hcomponent
  rw [decide_eq_true_eq, hcomponent.1] at hrepository
  cases hrepository

/-- Where the repository has no build, the second call asks the dependent components. -/
theorem plannedBuilds_perm_of_noDirect
    (hnodup : (candidates.targets.map BuildTargetDescription.actionId).Nodup)
    (hprimary : candidates.dependents ≠ [] →
      candidates.resolved.primaryComponent.isSome = true)
    (hbuilds : candidates.directBuilds = []) :
    candidates.plannedBuilds.Perm
      (if candidates.plannedTestIds.isEmpty then candidates.dependentTier else []) := by
  unfold ValidationCandidates.plannedBuilds
  rw [hbuilds, List.isEmpty_nil, Bool.and_true]
  cases candidates.plannedTestIds.isEmpty with
  | false => simp
  | true =>
      rw [Bool.true_and, if_pos rfl]
      cases hdependents : candidates.dependents with
      | nil =>
          have hnone : candidates.dependentTier = [] := by
            unfold ValidationCandidates.dependentTier
            rw [hdependents, ← dependentBuildTargets_eq_nil_iff]
            rfl
          simp [hnone]
      | cons dependent rest =>
          rw [List.isEmpty_cons, Bool.not_false, if_pos rfl, ← hdependents]
          exact chosenBuildTargets_perm_dependentTier hnodup hprimary hbuilds

theorem plannedBuilds_perm_iff
    (hnodup : (candidates.targets.map BuildTargetDescription.actionId).Nodup)
    (hprimary : candidates.dependents ≠ [] →
      candidates.resolved.primaryComponent.isSome = true) :
    candidates.plannedBuilds.Perm
        (narrowestTier (candidates.buildTiers candidates.plannedTestIds.isEmpty)) ↔
      ¬ candidates.HidesDependentBuilds := by
  have hnarrow := narrowBuilds_perm hnodup
  rw [narrowestTier_buildTiers]
  unfold ValidationCandidates.HidesDependentBuilds
  by_cases htier : candidates.narrowTier = []
  · rw [if_pos htier]
    obtain ⟨hcomponent, howner⟩ := (narrowTier_eq_nil_iff candidates).mp htier
    have hnone : candidates.narrowBuilds = [] := (htier ▸ hnarrow).eq_nil
    have hdirect : candidates.directBuilds = candidates.repositoryBuilds := by
      simp [ValidationCandidates.directBuilds, hnone]
    by_cases hrepository : candidates.repositoryBuilds = []
    · have hplanned := plannedBuilds_perm_of_noDirect hnodup hprimary
        (hdirect.trans hrepository)
      rw [hrepository, narrowestTier_pair_nil]
      exact iff_of_true hplanned fun hhides => hhides.2.2.2.2 rfl
    · -- the first call already finds the builds of the repository
      have hsome : candidates.directBuilds ≠ [] := hdirect ▸ hrepository
      rw [ValidationCandidates.plannedBuilds_eq_of_ne_nil hsome, hdirect,
        plannedTestIds_eq_kept hsome, ← List.singleton_append, narrowestTier_append]
      by_cases hkept : keptTestIds candidates.related = []
      · by_cases hdependent : candidates.dependentTier = []
        · simp [hkept, hdependent]
        · have hnot := dependentTier_not_perm_repositoryBuilds hdependent
          simp [hkept, hdependent, hcomponent, howner, hrepository, hnot]
      · simp [hkept]
  · have hsome : candidates.narrowBuilds ≠ [] := by
      intro hnone
      rw [hnone] at hnarrow
      exact htier hnarrow.symm.eq_nil
    have hdirect := ValidationCandidates.directBuilds_eq_narrowBuilds hsome
    rw [if_neg htier, ValidationCandidates.plannedBuilds_eq_of_ne_nil (hdirect ▸ hsome), hdirect]
    rw [narrowTier_eq_nil_iff] at htier
    constructor
    · rintro - ⟨-, hcomponent, howner, -⟩
      exact htier ⟨hcomponent, howner⟩
    · intro _
      exact hnarrow

end Planned

/-! ## Change sets -/

theorem validationCandidates_primaryComponent
    {repository : Repository} {target : ChangeTarget} {candidates : ValidationCandidates}
    (hok : validationCandidates repository target = .ok candidates)
    (hdependents : candidates.dependents ≠ []) :
    candidates.resolved.primaryComponent.isSome = true := by
  unfold validationCandidates at hok
  obtain ⟨resolved, -, hok⟩ := bind_eq_ok.mp hok
  obtain ⟨artifacts, -, hok⟩ := bind_eq_ok.mp hok
  obtain ⟨dependents, hfor, hok⟩ := bind_eq_ok.mp hok
  obtain ⟨related, -, hok⟩ := bind_eq_ok.mp hok
  obtain ⟨targets, -, hok⟩ := bind_eq_ok.mp hok
  obtain ⟨dependentTests, -, hok⟩ := bind_eq_ok.mp hok
  obtain ⟨runnerActions, -, hok⟩ := bind_eq_ok.mp hok
  obtain ⟨providerIds, -, hok⟩ := bind_eq_ok.mp hok
  rw [pure_eq_ok] at hok
  subst hok
  dsimp only at hdependents ⊢
  unfold dependentsFor at hfor
  split at hfor
  · rw [pure_eq_ok] at hfor
    exact absurd hfor.symm hdependents
  · unfold Repository.directDependentComponents at hfor
    cases hprimary : resolved.primaryComponent with
    | some component => rfl
    | none =>
        simp only [hprimary, Except.ok.injEq] at hfor
        exact absurd hfor.symm hdependents

theorem nodup_candidateTargets {repository : Repository} {candidates : ValidationCandidates}
    (hfacts : CandidatesFacts repository candidates) :
    (candidates.targets.map BuildTargetDescription.actionId).Nodup := by
  cases hfacts.targets_listed with
  | inl hnil => simp [hnil]
  | inr hlisted => exact (Repository.listBuildTargets_facts hlisted).nodup

theorem repositoryBuild_accounted
    {repository : Repository} {candidates : ValidationCandidates}
    {changeSet : MinimumVerifiedChangeSet}
    (hfacts : ChangeSetFacts repository candidates changeSet)
    {build : BuildTargetDescription} (hbuild : build ∈ candidates.repositoryBuilds) :
    build ∈ changeSet.buildTargets.map MinimumVerifiedBuildTarget.target ∨
      ∃ excluded ∈ changeSet.excludedItems,
        IsRepositoryBuildExclusion excluded build candidates.narrowBuilds := by
  by_cases hnarrow : candidates.narrowBuilds = []
  · left
    have hdirect : candidates.directBuilds = candidates.repositoryBuilds := by
      unfold ValidationCandidates.directBuilds
      rw [hnarrow, List.isEmpty_nil, if_pos rfl]
    have hsome : candidates.directBuilds ≠ [] := by
      rw [hdirect]
      exact List.ne_nil_of_mem hbuild
    rw [hfacts.builds_eq, candidates.plannedBuilds_eq_of_ne_nil hsome, hdirect]
    exact hbuild
  · right
    exact hfacts.exists_repositoryBuild hnarrow build hbuild

/-- The builds of a change set are the narrowest tier exactly when no build of the whole
repository hides the builds of dependent components. -/
theorem changeSet_builds_narrowest_iff
    {repository : Repository} {target : ChangeTarget}
    {changeSet : MinimumVerifiedChangeSet}
    (hok : getMinimumVerifiedChangeSet repository target = .ok changeSet) :
    ∃ candidates, validationCandidates repository target = .ok candidates ∧
      (changeSet.BuildsNarrowest candidates ↔ ¬ candidates.HidesDependentBuilds) := by
  obtain ⟨candidates, hcandidates, hfacts⟩ := getMinimumVerifiedChangeSet_facts hok
  refine ⟨candidates, hcandidates, ?_⟩
  have hnodup := nodup_candidateTargets (validationCandidates_facts hcandidates)
  have hids : changeSet.tests.map MinimumVerifiedTestTarget.testId =
      candidates.plannedTestIds.map id := by
    rw [hfacts.testIds_eq, List.map_id]
  unfold MinimumVerifiedChangeSet.BuildsNarrowest
  rw [← plannedBuilds_perm_iff hnodup (validationCandidates_primaryComponent hcandidates),
    hfacts.builds_eq, isEmpty_eq_of_map_eq hids, ← hfacts.builds_eq]
  exact and_iff_left fun build hbuild => repositoryBuild_accounted hfacts hbuild

namespace Sample

def hiddenDependentBuild : Repository :=
  repository
    [{ providerId := "python"
       components :=
        [component "component:python:core" ["core"] [],
          component "component:python:app" ["src"] []]
       files := [file "component:python:core" "core.py"]
       componentDependencyEdges := fun source => .ok
        (if source = some "component:python:core" then []
        else [⟨"component:python:app", "component:python:core", .component, .runtime, manifest⟩])
       actions :=
        [buildAction "python" "action:python:app" "component:python:app" .component,
          buildAction "python" "action:python:all" "repository" .repository] }]
    [.architecture, .test]

end Sample

theorem hiddenDependentBuild_planned :
    (getMinimumVerifiedChangeSet Sample.hiddenDependentBuild (.file "core.py")).Yields
      fun changeSet => changeSet.tests.isEmpty = true ∧
        changeSet.buildTargets.map MinimumVerifiedBuildTarget.actionId =
          ["action:python:all"] := by
  decide +kernel

theorem hiddenDependentBuild_tiers :
    (validationCandidates Sample.hiddenDependentBuild (.file "core.py")).Yields
      fun candidates => candidates.artifactMember = none ∧
        (narrowestTier (candidates.buildTiers true)).map BuildTargetDescription.actionId =
          ["action:python:app"] := by
  decide +kernel

/-- The build of the whole repository is planned although a dependent component builds. -/
theorem changeSet_not_always_builds_narrowest :
    ¬ ∀ (repository : Repository) (target : ChangeTarget)
      (changeSet : MinimumVerifiedChangeSet) (candidates : ValidationCandidates),
      getMinimumVerifiedChangeSet repository target = .ok changeSet →
        validationCandidates repository target = .ok candidates →
          candidates.artifactMember = none → changeSet.BuildsNarrowest candidates := by
  intro hall
  obtain ⟨changeSet, hok, hnoTests, hplanned⟩ := hiddenDependentBuild_planned.exists_ok
  obtain ⟨candidates, hcandidates, hartifact, htiers⟩ := hiddenDependentBuild_tiers.exists_ok
  have hperm := (hall _ _ _ _ hok hcandidates hartifact).1
  rw [hnoTests] at hperm
  have hids := hperm.map BuildTargetDescription.actionId
  rw [htiers, List.map_map] at hids
  change (changeSet.buildTargets.map MinimumVerifiedBuildTarget.actionId).Perm _ at hids
  rw [hplanned] at hids
  revert hids
  decide

theorem changeSet_builds_narrowest_iff_hiddenDependentBuild :
    ∃ changeSet,
      getMinimumVerifiedChangeSet Sample.hiddenDependentBuild (.file "core.py") =
          .ok changeSet ∧
        ∃ candidates,
          validationCandidates Sample.hiddenDependentBuild (.file "core.py") =
              .ok candidates ∧
            (changeSet.BuildsNarrowest candidates ↔ ¬ candidates.HidesDependentBuilds) := by
  obtain ⟨changeSet, hok, -⟩ := hiddenDependentBuild_planned.exists_ok
  exact ⟨changeSet, hok, changeSet_builds_narrowest_iff hok⟩

end SuitCode
