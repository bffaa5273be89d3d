import SuitCode.MinimizerFacts

/-!
# Actions and chosen build targets

Action ids are unique over all providers and all kinds and carry their tag;
the build targets of a repository inherit both.  The second half describes the
build targets which the minimizer chooses and the exclusions it reports.
-/

namespace SuitCode

open PosixText KeyedList ExceptList

variable {actions : List RepositoryAction} {repository : Repository}
  {target : BuildTargetDescription} {targets : List BuildTargetDescription}
  {dependents : List ResolvedDependentComponent} {minimized : MinimizedBuildTargets}
  {owner : OwnedNodeInfo} {primaryComponent : Option Component}

/-! ## Actions -/

namespace Repository

theorem indexActions_facts {seen : List String} {pairs : List (RepositoryAction × Provider)}
    (hok : indexActions seen pairs = .ok actions) :
    actions = pairs.map Prod.fst ∧ (actions.map RepositoryAction.id).Nodup ∧
      ∀ action ∈ actions, action.id ∉ seen := by
  induction pairs generalizing seen actions with
  | nil =>
      simp only [indexActions, Except.ok.injEq] at hok
      subst hok
      simp
  | cons pair pairs ih =>
      rcases pair with ⟨action, provider⟩
      unfold indexActions at hok
      by_cases hprovider : action.providerId ≠ provider.providerId
      · simp [hprovider] at hok
      · rw [if_neg hprovider] at hok
        by_cases hseen : action.id ∈ seen
        · simp [hseen] at hok
        · rw [if_neg hseen] at hok
          rcases bind_eq_ok.mp hok with ⟨rest, hrest, hok⟩
          rw [pure_eq_ok] at hok
          subst hok
          rcases ih hrest with ⟨hfst, hnodup, hfresh⟩
          refine ⟨by rw [hfst]; rfl, ?_, ?_⟩
          · rw [List.map_cons, List.nodup_cons]
            refine ⟨?_, hnodup⟩
            intro hmem
            rcases List.mem_map.mp hmem with ⟨other, hother, heq⟩
            apply hfresh other hother
            rw [heq]
            exact List.mem_cons_self
          · intro other hother
            rcases List.mem_cons.mp hother with hhead | htail
            · rw [hhead]
              exact hseen
            · intro hmem
              exact hfresh other htail (List.mem_cons_of_mem _ hmem)

theorem nodup_allActions (hok : repository.allActions = .ok actions) :
    (actions.map RepositoryAction.id).Nodup :=
  (indexActions_facts hok).2.1

theorem allActions_tagged (hok : repository.allActions = .ok actions) {action : RepositoryAction}
    (hmem : action ∈ actions) : startsWith action.id "action:" = true := by
  rw [(indexActions_facts hok).1] at hmem
  rcases List.mem_map.mp hmem with ⟨pair, hpair, hfst⟩
  rcases List.mem_flatMap.mp hpair with ⟨provider, -, hpair⟩
  rcases List.mem_map.mp hpair with ⟨reported, hreported, heq⟩
  subst heq
  subst hfst
  exact provider.actionIds_tagged _ hreported

theorem filterByKind_sublist (actions : List RepositoryAction) (query : ActionQuery) :
    (filterByKind actions query).Sublist actions := by
  unfold filterByKind
  split
  · exact List.Sublist.refl _
  · exact List.filter_sublist

theorem filterBySelector_sublist {selected : List RepositoryAction} {query : ActionQuery}
    (hok : repository.filterBySelector actions query = .ok selected) :
    selected.Sublist actions := by
  unfold filterBySelector at hok
  cases hselector : query.selector with
  | all =>
      simp only [hselector, Except.ok.injEq] at hok
      subst hok
      exact List.Sublist.refl _
  | runnerId runnerId =>
      simp only [hselector] at hok
      rcases bind_eq_ok.mp hok with ⟨owner, -, hok⟩
      split at hok
      · simp at hok
      · rw [pure_eq_ok] at hok
        subst hok
        exact List.filter_sublist
  | testId testId =>
      simp only [hselector] at hok
      rcases bind_eq_ok.mp hok with ⟨owner, -, hok⟩
      split at hok
      · simp at hok
      · rw [pure_eq_ok] at hok
        subst hok
        exact List.filter_sublist
  | repositoryRelPath path =>
      simp only [hselector] at hok
      rcases bind_eq_ok.mp hok with ⟨owner, -, hok⟩
      rw [pure_eq_ok] at hok
      subst hok
      exact List.filter_sublist
  | ownerId ownerId =>
      simp only [hselector] at hok
      rcases bind_eq_ok.mp hok with ⟨owner, -, hok⟩
      rw [pure_eq_ok] at hok
      subst hok
      exact List.filter_sublist
  | componentId componentId =>
      simp only [hselector] at hok
      rcases bind_eq_ok.mp hok with ⟨owner, -, hok⟩
      split at hok
      · simp at hok
      · rw [pure_eq_ok] at hok
        subst hok
        exact List.filter_sublist

structure ListedActionsFacts (repository : Repository) (query : ActionQuery)
    (listed : List RepositoryAction) : Prop where
  nodup : (listed.map RepositoryAction.id).Nodup
  mem_all : ∀ action ∈ listed, ∃ actions, repository.allActions = .ok actions ∧
    action ∈ actions
  kind_mem : query.actionKinds ≠ [] → ∀ action ∈ listed, action.kind ∈ query.actionKinds

theorem listActions_facts {query : ActionQuery} {listed : List RepositoryAction}
    (hok : repository.listActions query = .ok listed) :
    ListedActionsFacts repository query listed := by
  unfold listActions at hok
  rcases bind_eq_ok.mp hok with ⟨actions, hactions, hok⟩
  rcases bind_eq_ok.mp hok with ⟨selected, hselected, hok⟩
  rw [pure_eq_ok] at hok
  subst hok
  have hsub := filterBySelector_sublist hselected
  have hsubAll := hsub.trans (filterByKind_sublist actions query)
  refine ⟨?_, ?_, ?_⟩
  · have hperm := (sortedBy_perm actionSortKey selected).map RepositoryAction.id
    exact hperm.nodup_iff.mpr ((nodup_allActions hactions).sublist (hsubAll.map _))
  · intro action haction
    exact ⟨actions, hactions, hsubAll.subset (mem_sortedBy.mp haction)⟩
  · intro hkinds action haction
    have hmem := hsub.subset (mem_sortedBy.mp haction)
    unfold filterByKind at hmem
    have hisEmpty : query.actionKinds.isEmpty = false := by
      simpa using hkinds
    simp only [hisEmpty, Bool.false_eq_true, if_false, List.mem_filter,
      decide_eq_true_eq] at hmem
    exact hmem.2

/-! ## Build targets of the repository -/

theorem indexBuildTargets_ids {seen : List String}
    (hok : indexBuildTargets seen actions = .ok targets) :
    targets.map BuildTargetDescription.actionId = actions.map RepositoryAction.id := by
  induction actions generalizing seen targets with
  | nil =>
      simp only [indexBuildTargets, Except.ok.injEq] at hok
      subst hok
      rfl
  | cons action actions ih =>
      unfold indexBuildTargets at hok
      by_cases hseen : action.id ∈ seen
      · simp [hseen] at hok
      · rw [if_neg hseen] at hok
        rcases bind_eq_ok.mp hok with ⟨target, htarget, hok⟩
        rcases bind_eq_ok.mp hok with ⟨rest, hrest, hok⟩
        rw [pure_eq_ok] at hok
        subst hok
        have hid : target.actionId = action.id := by
          unfold toBuildTarget at htarget
          split at htarget
          · simp at htarget
          · rw [eq_of_validated htarget]
        rw [List.map_cons, List.map_cons, hid, ih hrest]

structure BuildTargetsFacts (repository : Repository)
    (targets : List BuildTargetDescription) : Prop where
  nodup : (targets.map BuildTargetDescription.actionId).Nodup
  exists_action : ∀ target ∈ targets, ∃ actions, repository.allActions = .ok actions ∧
    ∃ action ∈ actions, action.id = target.actionId ∧ action.kind = .buildExecution

/-- What the listing of build targets gives, from the actions it is made of. -/
theorem listBuildTargets_facts (hok : repository.listBuildTargets = .ok targets) :
    BuildTargetsFacts repository targets := by
  unfold listBuildTargets at hok
  rcases bind_eq_ok.mp hok with ⟨actions, hactions, hok⟩
  rcases bind_eq_ok.mp hok with ⟨indexed, hindexed, hok⟩
  rw [pure_eq_ok] at hok
  subst hok
  have hids := indexBuildTargets_ids hindexed
  have hlisted := listActions_facts hactions
  refine ⟨?_, ?_⟩
  · have hperm := (sortedBy_perm buildTargetSortKey indexed).map
      BuildTargetDescription.actionId
    rw [hperm.nodup_iff, hids]
    exact hlisted.nodup
  · intro target htarget
    have hmem : target.actionId ∈ indexed.map BuildTargetDescription.actionId :=
      List.mem_map_of_mem (mem_sortedBy.mp htarget)
    rw [hids] at hmem
    rcases List.mem_map.mp hmem with ⟨action, haction, hid⟩
    rcases hlisted.mem_all action haction with ⟨all, hall, hmemAll⟩
    have hkind := hlisted.kind_mem (by simp) action haction
    exact ⟨all, hall, action, hmemAll, hid, by simpa using hkind⟩

theorem buildTarget_tagged (hok : repository.listBuildTargets = .ok targets)
    (hmem : target ∈ targets) : startsWith target.actionId "action:" = true := by
  rcases (listBuildTargets_facts hok).exists_action target hmem with
    ⟨actions, hactions, action, haction, hid, -⟩
  rw [← hid]
  exact allActions_tagged hactions haction

end Repository

/-! ## Chosen build targets -/

def narrowBuildTargets (owner : OwnedNodeInfo) (primaryComponent : Option Component)
    (targets : List BuildTargetDescription) : List BuildTargetDescription :=
  if (componentBuildTargets primaryComponent targets).isEmpty then
    narrowOwnerBuildTargets owner primaryComponent targets
  else
    componentBuildTargets primaryComponent targets

def chosenBuildTargets (owner : OwnedNodeInfo) (primaryComponent : Option Component)
    (targets : List BuildTargetDescription)
    (dependents : List ResolvedDependentComponent) : List BuildTargetDescription :=
  if !(narrowBuildTargets owner primaryComponent targets).isEmpty then
    narrowBuildTargets owner primaryComponent targets
  else if !(dependentBuildTargets dependents targets).isEmpty && primaryComponent.isSome then
    (narrowDependentBuildTargets dependents targets).map Prod.snd
  else
    repositoryBuildTargets targets

structure IsRepositoryBuildExclusion (excluded : ExcludedMinimumVerifiedItem)
    (target : BuildTargetDescription) (narrow : List BuildTargetDescription) : Prop where
  itemKind_eq : excluded.itemKind = .buildTarget
  itemId_eq : excluded.itemId = target.actionId
  reasonCode_eq : excluded.reasonCode = .repositoryBuildReplacedByNarrowerBuild
  replacedByIds_eq :
    excluded.replacedByIds = narrow.map BuildTargetDescription.actionId

structure MinimizedBuildsFacts (owner : OwnedNodeInfo)
    (primaryComponent : Option Component) (targets : List BuildTargetDescription)
    (dependents : List ResolvedDependentComponent)
    (minimized : MinimizedBuildTargets) : Prop where
  targets_eq : minimized.buildTargets.map MinimumVerifiedBuildTarget.target =
    chosenBuildTargets owner primaryComponent targets dependents
  exclusion_cases : ∀ excluded ∈ minimized.exclusions,
    narrowBuildTargets owner primaryComponent targets ≠ [] ∧
      ∃ target ∈ repositoryBuildTargets targets, IsRepositoryBuildExclusion excluded target
        (narrowBuildTargets owner primaryComponent targets)
  exists_exclusion : narrowBuildTargets owner primaryComponent targets ≠ [] →
    ∀ target ∈ repositoryBuildTargets targets, ∃ excluded ∈ minimized.exclusions,
      IsRepositoryBuildExclusion excluded target
        (narrowBuildTargets owner primaryComponent targets)

theorem MinimizedBuildsFacts.actionIds_eq
    (hfacts : MinimizedBuildsFacts owner primaryComponent targets dependents minimized) :
    minimized.buildTargets.map MinimumVerifiedBuildTarget.actionId =
      (chosenBuildTargets owner primaryComponent targets dependents).map
        BuildTargetDescription.actionId := by
  rw [← hfacts.targets_eq, List.map_map]
  rfl

theorem includeNarrowBuildTargets_facts {repositoryTargets narrow : List BuildTargetDescription}
    {exclusionReason sourceNodeKind sourceNodeId inclusionReason : String}
    {edgeKind : MinimumVerifiedEvidenceEdgeKind}
    (hok : includeNarrowBuildTargets repositoryTargets narrow exclusionReason
      (buildItem sourceNodeKind sourceNodeId inclusionReason edgeKind) = .ok minimized) :
    minimized.buildTargets.map MinimumVerifiedBuildTarget.target = narrow ∧
      (∀ excluded ∈ minimized.exclusions, ∃ target ∈ repositoryTargets,
        IsRepositoryBuildExclusion excluded target narrow) ∧
      ∀ target ∈ repositoryTargets, ∃ excluded ∈ minimized.exclusions,
        IsRepositoryBuildExclusion excluded target narrow := by
  unfold includeNarrowBuildTargets at hok
  rcases bind_eq_ok.mp hok with ⟨exclusions, hexclusions, hok⟩
  rcases bind_eq_ok.mp hok with ⟨items, hitems, hok⟩
  rw [pure_eq_ok] at hok
  subst hok
  refine ⟨?_, ?_, ?_⟩
  · have hmap := map_outputs_eq MinimumVerifiedBuildTarget.target id hitems
      fun target _ item hitem => (buildTargetItem_eq hitem).1
    rwa [List.map_id] at hmap
  · intro excluded hexcluded
    rcases exists_input_of_mem hexclusions hexcluded with ⟨target, htarget, htargetOk⟩
    have heq := exclusion_eq htargetOk
    subst heq
    exact ⟨target, htarget, rfl, rfl, rfl, rfl⟩
  · intro target htarget
    rcases exists_output_of_mem hexclusions htarget with ⟨excluded, hexcluded, htargetOk⟩
    have heq := exclusion_eq htargetOk
    subst heq
    exact ⟨_, hexcluded, rfl, rfl, rfl, rfl⟩

theorem minimizeBuildTargets_facts
    (hok : minimizeBuildTargets owner primaryComponent targets dependents = .ok minimized) :
    MinimizedBuildsFacts owner primaryComponent targets dependents minimized := by
  unfold minimizeBuildTargets at hok
  cases hcomponent : (componentBuildTargets primaryComponent targets).isEmpty with
  | false =>
      have hnarrow : narrowBuildTargets owner primaryComponent targets =
          componentBuildTargets primaryComponent targets := by
        simp [narrowBuildTargets, hcomponent]
      have hne : narrowBuildTargets owner primaryComponent targets ≠ [] := by
        rw [hnarrow]
        simpa using hcomponent
      simp only [hcomponent, Bool.not_false, if_true] at hok
      rcases includeNarrowBuildTargets_facts hok with ⟨hids, hcases, hexists⟩
      rw [← hnarrow] at hids hcases hexists
      refine ⟨?_, fun excluded hexcluded => ⟨hne, hcases excluded hexcluded⟩,
        fun _ => hexists⟩
      rw [hids, chosenBuildTargets, if_pos (by simpa using hne)]
  | true =>
      have hnarrow : narrowBuildTargets owner primaryComponent targets =
          narrowOwnerBuildTargets owner primaryComponent targets := by
        simp [narrowBuildTargets, hcomponent]
      simp only [hcomponent, Bool.not_true, Bool.false_eq_true, if_false] at hok
      rw [← hnarrow] at hok
      cases hempty : (narrowBuildTargets owner primaryComponent targets).isEmpty with
      | false =>
          have hne : narrowBuildTargets owner primaryComponent targets ≠ [] := by
            simpa using hempty
          simp only [hempty, Bool.not_false, if_true] at hok
          rcases includeNarrowBuildTargets_facts hok with ⟨hids, hcases, hexists⟩
          refine ⟨?_, fun excluded hexcluded => ⟨hne, hcases excluded hexcluded⟩,
            fun _ => hexists⟩
          rw [hids, chosenBuildTargets, if_pos (by simpa using hne)]
      | true =>
          have hnil : narrowBuildTargets owner primaryComponent targets = [] := by
            simpa using hempty
          simp only [hempty, Bool.not_true, Bool.false_eq_true, if_false] at hok
          split at hok
          · rename_i hdependent
            rcases bind_eq_ok.mp hok with ⟨items, hitems, hok⟩
            rw [pure_eq_ok] at hok
            subst hok
            refine ⟨?_, by simp, fun hne => absurd hnil hne⟩
            rw [chosenBuildTargets, if_neg (by simp [hnil]), if_pos hdependent]
            exact map_outputs_eq MinimumVerifiedBuildTarget.target Prod.snd hitems
              fun entry _ item hitem => (buildTargetItem_eq hitem).1
          · rename_i hdependent
            rcases bind_eq_ok.mp hok with ⟨items, hitems, hok⟩
            rw [pure_eq_ok] at hok
            subst hok
            refine ⟨?_, by simp, fun hne => absurd hnil hne⟩
            rw [chosenBuildTargets, if_neg (by simp [hnil]), if_neg hdependent]
            have hmap := map_outputs_eq MinimumVerifiedBuildTarget.target id hitems
              fun target _ item hitem => (buildTargetItem_eq hitem).1
            rwa [List.map_id] at hmap

theorem chosenBuildTargets_nil
    (owner : OwnedNodeInfo) (primaryComponent : Option Component)
    (targets : List BuildTargetDescription) :
    chosenBuildTargets owner primaryComponent targets [] =
      if (narrowBuildTargets owner primaryComponent targets).isEmpty then
        repositoryBuildTargets targets
      else
        narrowBuildTargets owner primaryComponent targets := by
  unfold chosenBuildTargets
  cases hempty : (narrowBuildTargets owner primaryComponent targets).isEmpty with
  | false => simp
  | true => simp [dependentBuildTargets]

theorem mem_of_mem_narrowBuildTargets
    (hmem : target ∈ narrowBuildTargets owner primaryComponent targets) :
    target ∈ targets ∧ target.targetKind = .component := by
  unfold narrowBuildTargets at hmem
  split at hmem
  · have howner := mem_of_mem_dedupeBy (mem_sortedBy.mp hmem)
    rw [List.mem_reverse] at howner
    have hfilter := List.mem_filter.mp howner
    refine ⟨hfilter.1, ?_⟩
    have hkind := hfilter.2
    simp only [Bool.and_eq_true, decide_eq_true_eq] at hkind
    exact hkind.1
  · have hfilter := List.mem_filter.mp hmem
    refine ⟨hfilter.1, ?_⟩
    have hkind := hfilter.2
    cases primaryComponent with
    | none => simp at hkind
    | some component =>
        simp only [Option.any_some, Bool.and_eq_true, decide_eq_true_eq] at hkind
        exact hkind.1

theorem mem_of_mem_dependentBuildTargets
    {entry : ResolvedDependentComponent × BuildTargetDescription}
    (hmem : entry ∈ dependentBuildTargets dependents targets) :
    entry.2 ∈ targets ∧ entry.2.targetKind = .component := by
  rcases List.mem_flatMap.mp hmem with ⟨dependent, -, hmem⟩
  rcases List.mem_map.mp hmem with ⟨target, htarget, heq⟩
  subst heq
  have hfilter := List.mem_filter.mp htarget
  refine ⟨hfilter.1, ?_⟩
  have hkind := hfilter.2
  simp only [Bool.and_eq_true, decide_eq_true_eq] at hkind
  exact hkind.1

theorem mem_of_mem_chosenBuildTargets
    (hmem : target ∈ chosenBuildTargets owner primaryComponent targets dependents) :
    target ∈ targets := by
  unfold chosenBuildTargets at hmem
  split at hmem
  · exact (mem_of_mem_narrowBuildTargets hmem).1
  · split at hmem
    · rcases List.mem_map.mp hmem with ⟨entry, hentry, heq⟩
      subst heq
      have hsorted := mem_of_mem_dedupeBy hentry
      exact (mem_of_mem_dependentBuildTargets (mem_sortedBy.mp hsorted)).1
    · exact (List.mem_filter.mp hmem).1

end SuitCode
