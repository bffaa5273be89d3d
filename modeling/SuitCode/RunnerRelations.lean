import SuitCode.BuildTargetFacts
import SuitCode.NpmDependencies
import SuitCode.OwnershipFacts
import SuitCode.PythonProvider
import SuitCode.RunnerService

/-!
# The two relations between runners and components

A component lists the runners related to it by the places of files; a runner
names the component which its provider put among the owners of its action.  The
two agree exactly when the runner shares files with the component its provider
names and with no other.
-/

namespace SuitCode

open PosixText KeyedList ExceptList

variable {index : OwnershipIndex}

namespace Repository

/-! ## Runners related to a component -/

/-- A file of the component lies in the working directory of the runner, or a file
of the runner lies in the component. -/
def SharesFiles (repository : Repository) (component : Component) (files : List FileInfo)
    (runnerId : String) (cwd : Option String) : Prop :=
  (∃ directory, cwd = some directory ∧ directory ≠ "" ∧
      ∃ file ∈ files, isAtOrBelow file.repositoryRelPath directory = true) ∨
    ∃ owned ∈ repository.getFiles, owned.ownerId = runnerId ∧
      ∃ sourceRoot ∈ component.sourceRoots,
        isAtOrBelow owned.repositoryRelPath sourceRoot = true

theorem runnerNode_mem
    {repository : Repository} {nodes : List OwnedNodeInfo} {runner : Runner}
    (hnodes : repository.ownerNodes = .ok nodes) (hrunner : runner ∈ repository.getRunners) :
    ⟨runner.id, .runner, runner.name⟩ ∈ nodes := by
  unfold ownerNodes at hnodes
  obtain ⟨tests, -, hnodes⟩ := bind_eq_ok.mp hnodes
  have heq := pure_eq_ok.mp hnodes
  subst heq
  simp only [List.mem_append, List.mem_map]
  exact .inl (.inl (.inr ⟨runner, hrunner, rfl⟩))

theorem runnerIds_nodup
    {repository : Repository} {nodes : List OwnedNodeInfo}
    (hnodes : repository.ownerNodes = .ok nodes)
    (hdistinct : (nodes.map OwnedNodeInfo.id).Nodup) :
    (repository.getRunners.map Runner.id).Nodup := by
  unfold ownerNodes at hnodes
  obtain ⟨tests, -, hnodes⟩ := bind_eq_ok.mp hnodes
  have heq := pure_eq_ok.mp hnodes
  subst heq
  simp only [List.map_append, List.map_map] at hdistinct
  exact hdistinct.of_append_left.of_append_left.of_append_right

theorem ownerInfo_of_mem {repository : Repository} {node : OwnedNodeInfo}
    (hfacts : OwnershipIndexFacts repository index) (hnode : node ∈ index.owners) :
    index.ownerInfo node.id = .ok node := by
  have hleader := (leader?_eq_some_iff hfacts.ownerIds_nodup).mpr ⟨hnode, rfl⟩
  have hfind : index.owners.find? (fun owner => owner.id = node.id) = some node := hleader
  unfold OwnershipIndex.ownerInfo
  rw [hfind]

theorem runner_id_ne_component_id {repository : Repository} {runner : Runner}
    {component : Component} (hfacts : OwnershipIndexFacts repository index)
    (hrunner : runner ∈ repository.getRunners) (hcomponent : component ∈ repository.getComponents) :
    runner.id ≠ component.id := by
  intro heq
  have hnode := runnerNode_mem hfacts.ownerNodes_eq hrunner
  have hother := componentNode_mem hfacts.ownerNodes_eq hcomponent
  have hsame := List.inj_on_of_nodup_map hfacts.ownerIds_nodup hnode hother heq
  simp at hsame

theorem isRelatedRunner_eq_ok_true {repository : Repository} {component : Component}
    {files : List FileInfo} {runner : Runner} (hfacts : OwnershipIndexFacts repository index)
    (hrunner : runner ∈ repository.getRunners) (hcomponent : component ∈ repository.getComponents)
    (hfiles : index.filesForOwner component.id = .ok files) :
    isRelatedRunner index component (files.map FileInfo.repositoryRelPath) runner = .ok true ↔
      repository.SharesFiles component files runner.id runner.cwd := by
  have hrunnerFiles : index.filesForOwner runner.id = .ok (sortedBy FileInfo.repositoryRelPath
      (repository.getFiles.filter fun file => file.ownerId = runner.id)) := by
    have hnode := ownerInfo_of_mem hfacts (runnerNode_mem hfacts.ownerNodes_eq hrunner)
    simp only [OwnershipIndex.filesForOwner, hnode, ok_bind, hfacts.files_eq]
    rfl
  have hnotOwned : ∀ owned ∈ repository.getFiles, owned.ownerId = runner.id →
      owned.repositoryRelPath ∉ files.map FileInfo.repositoryRelPath := by
    intro owned howned howner hmem
    simp only [OwnershipIndex.filesForOwner, bind_eq_ok, pure_eq_ok] at hfiles
    obtain ⟨-, -, rfl⟩ := hfiles
    obtain ⟨file, hfile, hpath⟩ := List.mem_map.mp hmem
    rw [mem_sortedBy, List.mem_filter] at hfile
    rw [← hfacts.files_eq] at howned
    have hsame := List.inj_on_of_nodup_map hfacts.paths_nodup hfile.1 howned hpath
    have hid : file.ownerId = component.id := by simpa using hfile.2
    rw [hsame, howner] at hid
    exact runner_id_ne_component_id hfacts hrunner hcomponent hid
  unfold isRelatedRunner SharesFiles
  by_cases hcwd : (runner.cwd.any fun cwd => cwd ≠ "" &&
      (files.map FileInfo.repositoryRelPath).any fun path => isAtOrBelow path cwd) = true
  · rw [if_pos hcwd]
    have hdirectory : ∃ directory, runner.cwd = some directory ∧ directory ≠ "" ∧
        ∃ file ∈ files, isAtOrBelow file.repositoryRelPath directory = true := by
      simpa [Option.any_eq_true] using hcwd
    simp [hdirectory]
  · rw [if_neg hcwd]
    have hdirectory : ¬ ∃ directory, runner.cwd = some directory ∧ directory ≠ "" ∧
        ∃ file ∈ files, isAtOrBelow file.repositoryRelPath directory = true := by
      simpa [Option.any_eq_true] using hcwd
    simp only [hdirectory, false_or, hrunnerFiles, ok_bind, pure_eq_ok, List.any_eq_true,
      mem_sortedBy, List.mem_filter, decide_eq_true_eq, Bool.or_eq_true]
    constructor
    · rintro ⟨owned, ⟨howned, howner⟩, sourceRoot, hsourceRoot, hplace⟩
      refine ⟨owned, howned, howner, sourceRoot, hsourceRoot, ?_⟩
      exact hplace.resolve_left (hnotOwned owned howned howner)
    · rintro ⟨owned, howned, howner, sourceRoot, hsourceRoot, hplace⟩
      exact ⟨owned, ⟨howned, howner⟩, sourceRoot, hsourceRoot, .inr hplace⟩

theorem mem_relatedRunnerIds_iff
    {repository : Repository} {component : Component} {files : List FileInfo}
    {ids : List String} {runner : Runner}
    (hrunner : runner ∈ repository.getRunners)
    (hcomponent : component ∈ repository.getComponents)
    (hfiles : repository.listFilesByOwner component.id = .ok files)
    (hids : repository.relatedRunnerIdsForComponent component files = .ok ids) :
    runner.id ∈ ids ↔ repository.SharesFiles component files runner.id runner.cwd := by
  simp only [relatedRunnerIdsForComponent, bind_eq_ok, pure_eq_ok] at hids
  obtain ⟨index, hindex, flags, hflags, rfl⟩ := hids
  have hfacts := buildOwnershipIndex_facts hindex
  have howned : index.filesForOwner component.id = .ok files := by
    simpa [listFilesByOwner, hindex, ok_bind] using hfiles
  rw [← isRelatedRunner_eq_ok_true hfacts hrunner hcomponent howned]
  simp only [mem_sortedBy, mem_dedupeBy_id, List.mem_map, List.mem_filter]
  constructor
  · rintro ⟨⟨other, flag⟩, ⟨hmem, hflag⟩, hid⟩
    obtain ⟨hother, hrun⟩ := (mem_zip_outputs_iff hflags).mp hmem
    have hnodup := runnerIds_nodup hfacts.ownerNodes_eq hfacts.ownerIds_nodup
    have hsame := List.inj_on_of_nodup_map hnodup hother hrunner hid
    rw [← hsame, hrun]
    exact congrArg Except.ok hflag
  · intro hrelated
    exact ⟨(runner, true), ⟨(mem_zip_outputs_iff hflags).mpr ⟨hrunner, hrelated⟩, rfl⟩, rfl⟩

/-! ## The component of a runner -/

theorem mem_componentOwnerIds_iff
    {repository : Repository} {action : RepositoryAction} {owners : List OwnedNodeInfo}
    (howners : action.ownerIds.mapM repository.resolveOwner = .ok owners)
    {componentId : String} :
    componentId ∈ sortedBy id (dedupeBy id
        (((action.ownerIds.zip owners).filter fun entry => entry.2.kind = .component).map
          Prod.fst)) ↔
      ∃ owner, componentId ∈ action.ownerIds ∧
        repository.resolveOwner componentId = .ok owner ∧ owner.kind = .component := by
  simp only [mem_sortedBy, mem_dedupeBy_id, List.mem_map, List.mem_filter, decide_eq_true_eq]
  constructor
  · rintro ⟨⟨ownerId, owner⟩, ⟨hpair, hkind⟩, rfl⟩
    have hrun := (mem_zip_outputs_iff howners).mp hpair
    exact ⟨owner, hrun.1, hrun.2, hkind⟩
  · rintro ⟨owner, howner, hrun, hkind⟩
    have hpair := (mem_zip_outputs_iff howners).mpr ⟨howner, hrun⟩
    exact ⟨(componentId, owner), ⟨hpair, hkind⟩, rfl⟩

theorem resolveOwner_component
    {repository : Repository} {component : Component} {owner : OwnedNodeInfo}
    (hcomponent : component ∈ repository.getComponents)
    (hok : repository.resolveOwner component.id = .ok owner) : owner.kind = .component := by
  simp only [resolveOwner, bind_eq_ok] at hok
  obtain ⟨index, hindex, hinfo⟩ := hok
  have hfacts := buildOwnershipIndex_facts hindex
  have hnode := ownerInfo_of_mem hfacts (componentNode_mem hfacts.ownerNodes_eq hcomponent)
  rw [hnode, Except.ok.injEq] at hinfo
  rw [← hinfo]

theorem primaryComponentForAction_eq_some_iff {repository : Repository} {action : RepositoryAction}
    {found : Option Component} {component : Component}
    (hfacts : OwnershipIndexFacts repository index)
    (hcomponent : component ∈ repository.getComponents)
    (hok : repository.primaryComponentForAction action = .ok found) :
    found = some component ↔ component.id ∈ action.ownerIds := by
  simp only [primaryComponentForAction, bind_eq_ok] at hok
  obtain ⟨owners, howners, hok⟩ := hok
  have hmem := @mem_componentOwnerIds_iff repository action owners howners
  generalize sortedBy id (dedupeBy id
    (((action.ownerIds.zip owners).filter fun entry => entry.2.kind = .component).map
      Prod.fst)) = componentIds at hok hmem
  have hlisted : component.id ∈ action.ownerIds → component.id ∈ componentIds := by
    intro howner
    obtain ⟨owner, -, hrun⟩ := exists_output_of_mem howners howner
    exact hmem.mpr ⟨owner, howner, hrun, resolveOwner_component hcomponent hrun⟩
  cases componentIds with
  | nil =>
      have hnone : none = found := by simpa using hok
      subst hnone
      simp only [reduceCtorEq, false_iff]
      intro howner
      exact List.not_mem_nil (hlisted howner)
  | cons componentId rest =>
      cases rest with
      | cons other rest => simp at hok
      | nil =>
          simp only at hok
          have hnodup := componentIds_nodup hfacts.ownerNodes_eq hfacts.ownerIds_nodup
          cases hlast : (repository.getComponents.filter fun component =>
              component.id = componentId).getLast? with
          | none => simp [hlast] at hok
          | some last =>
              have heq : some last = found := by simpa [hlast] using hok
              have hlastMem := List.mem_of_getLast? hlast
              simp only [List.mem_filter, decide_eq_true_eq] at hlastMem
              rw [← heq, Option.some.injEq]
              constructor
              · rintro rfl
                rw [hlastMem.2]
                exact (hmem.mp List.mem_cons_self).choose_spec.1
              · intro howner
                have hid : component.id = componentId := by simpa using hlisted howner
                exact List.inj_on_of_nodup_map hnodup hlastMem.1 hcomponent
                  (hlastMem.2.trans hid.symm)

theorem describeRunner_primaryComponent
    {repository : Repository} {runnerId : String} {filePreviewLimit testPreviewLimit : ℕ}
    {context : RunnerContext}
    (hok : repository.describeRunner runnerId filePreviewLimit testPreviewLimit =
      .ok context) :
    ∃ action, repository.runnerActionForId runnerId = .ok action ∧
      repository.primaryComponentForAction action = .ok context.primaryComponent := by
  unfold describeRunner at hok
  obtain ⟨-, -, hok⟩ := bind_eq_ok.mp hok
  obtain ⟨-, -, hok⟩ := bind_eq_ok.mp hok
  obtain ⟨runner, -, hok⟩ := bind_eq_ok.mp hok
  obtain ⟨action, haction, hok⟩ := bind_eq_ok.mp hok
  obtain ⟨primary, hprimary, hok⟩ := bind_eq_ok.mp hok
  obtain ⟨files, -, hok⟩ := bind_eq_ok.mp hok
  obtain ⟨tests, -, hok⟩ := bind_eq_ok.mp hok
  obtain ⟨provenance, -, hok⟩ := bind_eq_ok.mp hok
  have heq := (validated_eq_ok.mp hok).1
  refine ⟨action, haction, ?_⟩
  rw [hprimary, ← heq]

theorem runnerActionForId_eq_of_mem
    {repository : Repository} {runnerId : String} {action reported : RepositoryAction}
    {provider : Provider}
    (hok : repository.runnerActionForId runnerId = .ok action)
    (hprovider : provider ∈ repository.providers) (hreported : reported ∈ provider.actions)
    (hkind : reported.kind = .runnerExecution) (htargetKind : reported.targetKind = .runner)
    (htargetId : reported.targetId = runnerId) : reported = action := by
  simp only [runnerActionForId, listActions, filterBySelector, filterByKind,
    List.isEmpty_nil, if_true, bind_eq_ok, pure_eq_ok] at hok
  obtain ⟨listed, ⟨actions, hactions, selected, ⟨owner, -, hselected⟩, rfl⟩, hok⟩ := hok
  have hall : reported ∈ actions := by
    rw [(indexActions_facts hactions).1]
    have hpair : (reported, provider) ∈ repository.providers.flatMap fun provider =>
        provider.actions.map fun action => (action, provider) :=
      List.mem_flatMap.mpr ⟨provider, hprovider, List.mem_map_of_mem hreported⟩
    exact List.mem_map_of_mem (f := Prod.fst) hpair
  have hmem : reported ∈ selected := by
    split at hselected
    · simp at hselected
    · rw [pure_eq_ok] at hselected
      rw [← hselected, List.mem_filter]
      simp [hall, htargetKind, htargetId]
  have hkept : reported ∈ (sortedBy actionSortKey selected).filter fun action =>
      action.kind = .runnerExecution && action.targetKind = .runner &&
        action.targetId = runnerId := by
    simp [hmem, hkind, htargetKind, htargetId]
  split at hok
  · simp at hok
  · rename_i single hsingle
    rw [pure_eq_ok] at hok
    rw [hsingle, List.mem_singleton] at hkept
    exact hkept.trans hok
  · simp at hok

theorem relations_agree_iff_of_action
    {repository : Repository} {provider : Provider} {runner : Runner}
    {reported : RepositoryAction} {component : Component} {files : List FileInfo}
    {ids : List String} {filePreviewLimit testPreviewLimit : ℕ} {context : RunnerContext}
    (hprovider : provider ∈ repository.providersForRole .architecture)
    (hrunner : runner ∈ provider.runners) (hreported : reported ∈ provider.actions)
    (hkind : reported.kind = .runnerExecution) (htargetKind : reported.targetKind = .runner)
    (htargetId : reported.targetId = runner.id)
    (hcomponent : component ∈ repository.getComponents)
    (hfiles : repository.listFilesByOwner component.id = .ok files)
    (hids : repository.relatedRunnerIdsForComponent component files = .ok ids)
    (hcontext : repository.describeRunner runner.id filePreviewLimit testPreviewLimit =
      .ok context) :
    (runner.id ∈ ids ↔ context.primaryComponent = some component) ↔
      (repository.SharesFiles component files runner.id runner.cwd ↔
        component.id ∈ reported.ownerIds) := by
  have hlisted : runner ∈ repository.getRunners := by
    simp only [getRunners, mem_sortedBy, List.mem_flatMap]
    exact ⟨provider, hprovider, hrunner⟩
  obtain ⟨action, haction, hprimary⟩ := describeRunner_primaryComponent hcontext
  have hsame := runnerActionForId_eq_of_mem haction (List.mem_of_mem_filter hprovider)
    hreported hkind htargetKind htargetId
  have hindex : ∃ index, repository.buildOwnershipIndex = .ok index := by
    simp only [listFilesByOwner, bind_eq_ok] at hfiles
    exact ⟨hfiles.choose, hfiles.choose_spec.1⟩
  obtain ⟨index, hindex⟩ := hindex
  rw [mem_relatedRunnerIds_iff hlisted hcomponent hfiles hids, hsame,
    primaryComponentForAction_eq_some_iff (buildOwnershipIndex_facts hindex) hcomponent
      hprimary]

end Repository

/-! ## Runners of the providers -/

/-- A runner as its provider analyses it. -/
inductive RunnerSource where
  | npm (attachment : NpmAttachment) (analysis : NpmRunnerAnalysis)
  | python (attachment : PythonAttachment) (analysis : PythonRunnerAnalysis)

namespace RunnerSource

def runnerId : RunnerSource → String
  | .npm _ analysis => npmRunnerId analysis.packageName analysis.scriptName
  | .python _ analysis => pythonRunnerId analysis.scriptName

def cwd : RunnerSource → Option String
  | .npm _ analysis => analysis.cwd
  | .python _ analysis => analysis.cwd

/-- The provider answers what the attachment of the runner answers. -/
def ReportedBy (source : RunnerSource) (provider : Provider) : Prop :=
  match source with
  | .npm attachment analysis =>
      (∃ analyses, attachment.runnerAnalyses = .ok analyses ∧ analysis ∈ analyses) ∧
        attachment.getComponents = .ok provider.components ∧
          attachment.getFiles = .ok provider.files ∧
            attachment.getRunners = .ok provider.runners ∧
              attachment.getActions = .ok provider.actions
  | .python attachment analysis =>
      (∃ analyses, attachment.runnerAnalyses = .ok analyses ∧ analysis ∈ analyses) ∧
        attachment.getComponents = .ok provider.components ∧
          attachment.getFiles = .ok provider.files ∧
            attachment.getRunners = .ok provider.runners ∧
              attachment.getActions = .ok provider.actions

/-- The package of the script is the component, or the component holds the module
of the entry point. -/
def BelongsTo (source : RunnerSource) (componentId : String) : Prop :=
  match source with
  | .npm attachment analysis => ∃ components, attachment.componentAnalyses = .ok components ∧
      ∃ component ∈ components, component.packageName = analysis.packageName ∧
        npmComponentId component.packageName = componentId
  | .python attachment analysis => ∃ components, attachment.componentAnalyses = .ok components ∧
      ∃ component ∈ components, pythonComponentId component.packageName = componentId ∧
        ∃ path ∈ analysis.referencedFiles, holdsActionPath component path = true

/-- The runner shares files with its own component and with no other. -/
structure PlacedApart (source : RunnerSource) (repository : Repository)
    (component : Component) (files : List FileInfo) : Prop where
  own : source.BelongsTo component.id →
    repository.SharesFiles component files source.runnerId source.cwd
  other : ¬ source.BelongsTo component.id →
    ¬ repository.SharesFiles component files source.runnerId source.cwd

structure Reported (source : RunnerSource) (provider : Provider) (runner : Runner)
    (action : RepositoryAction) : Prop where
  runner_mem : runner ∈ provider.runners
  runnerId_eq : runner.id = source.runnerId
  cwd_eq : runner.cwd = source.cwd
  action_mem : action ∈ provider.actions
  kind_eq : action.kind = .runnerExecution
  targetKind_eq : action.targetKind = .runner
  targetId_eq : action.targetId = runner.id
  owners_iff : ∀ componentId, componentId ≠ source.runnerId →
    (componentId ∈ action.ownerIds ↔ source.BelongsTo componentId)

theorem mem_npmRunnerAction_ownerIds_iff
    {components : List NpmPackageAnalysis} {runner : NpmRunnerAnalysis} {componentId : String}
    (hne : componentId ≠ npmRunnerId runner.packageName runner.scriptName) :
    componentId ∈ (npmRunnerAction components runner).ownerIds ↔
      ∃ component ∈ components, component.packageName = runner.packageName ∧
        npmComponentId component.packageName = componentId := by
  unfold npmRunnerAction
  rw [List.mem_append, List.mem_singleton, or_iff_left hne, Option.mem_toList,
    componentIdByPackage, Option.map_eq_some_iff]
  constructor
  · rintro ⟨component, hleader, heq⟩
    exact ⟨component, leader?_mem hleader, leader?_key hleader, heq⟩
  · rintro ⟨component, hmem, hname, heq⟩
    obtain ⟨first, hfirst⟩ := exists_leader NpmPackageAnalysis.packageName hmem
    rw [hname] at hfirst
    refine ⟨first, hfirst, ?_⟩
    rw [← heq, hname, leader?_key hfirst]

theorem mem_pythonRunnerAction_ownerIds_iff
    {components : List PythonPackageComponentAnalysis} {runner : PythonRunnerAnalysis}
    {componentId : String} (hne : componentId ≠ pythonRunnerId runner.scriptName) :
    componentId ∈ (pythonRunnerAction components runner).ownerIds ↔
      ∃ component ∈ components, pythonComponentId component.packageName = componentId ∧
        ∃ path ∈ runner.referencedFiles, holdsActionPath component path = true := by
  unfold pythonRunnerAction mergeOwnerIds
  rw [mem_dedupeBy_id, List.mem_cons, or_iff_right hne, componentIdsForPaths, mem_sortedSet]
  simp only [List.mem_flatMap, List.mem_map, List.mem_filter]
  constructor
  · rintro ⟨path, hpath, component, ⟨hmem, hholds⟩, heq⟩
    exact ⟨component, hmem, heq, path, hpath, hholds⟩
  · rintro ⟨component, hmem, heq, path, hpath, hholds⟩
    exact ⟨path, hpath, component, ⟨hmem, hholds⟩, heq⟩

theorem toRunner_eq_ok
    {analysis : NpmRunnerAnalysis} {runner : Runner} (hok : toRunner analysis = .ok runner) :
    runner.id = npmRunnerId analysis.packageName analysis.scriptName ∧
      runner.cwd = analysis.cwd := by
  simp only [toRunner, bind_eq_ok, pure_eq_ok] at hok
  obtain ⟨entry, -, rfl⟩ := hok
  exact ⟨rfl, rfl⟩

theorem toPythonRunner_eq_ok
    {analysis : PythonRunnerAnalysis} {runner : Runner}
    (hok : toPythonRunner analysis = .ok runner) :
    runner.id = pythonRunnerId analysis.scriptName ∧ runner.cwd = analysis.cwd := by
  simp only [toPythonRunner, bind_eq_ok, pure_eq_ok] at hok
  obtain ⟨entry, -, rfl⟩ := hok
  exact ⟨rfl, rfl⟩

theorem exists_reported_npm
    {attachment : NpmAttachment} {analysis : NpmRunnerAnalysis} {provider : Provider}
    (hreported : (npm attachment analysis).ReportedBy provider) :
    ∃ runner action, (npm attachment analysis).Reported provider runner action := by
  obtain ⟨⟨analyses, hanalyses, hanalysis⟩, -, -, hrunners, hactions⟩ := hreported
  simp only [NpmAttachment.getRunners, hanalyses, ok_bind, bind_eq_ok, pure_eq_ok] at hrunners
  obtain ⟨runners, hfound, hsorted⟩ := hrunners
  obtain ⟨runner, hrunner, htranslated⟩ := exists_output_of_mem hfound hanalysis
  have hkept := toRunner_eq_ok htranslated
  simp only [NpmAttachment.getActions, NpmAttachment.actionSpecs, hanalyses, ok_bind,
    bind_eq_ok] at hactions
  obtain ⟨items, ⟨components, hcomponents, tests, -, hitems⟩, hactions⟩ := hactions
  have hspec : npmRunnerAction components analysis ∈ items := by
    rw [mem_of_finalizeActions hitems, List.mem_append, List.mem_flatMap]
    exact .inl ⟨analysis, hanalysis, List.mem_cons_self⟩
  obtain ⟨action, haction, hof⟩ :=
    ProviderActionTranslator.exists_action_of_spec hactions hspec
  refine ⟨runner, action, ?_⟩
  constructor
  case runner_mem =>
    rw [← hsorted, mem_sortedBy]
    exact hrunner
  case runnerId_eq => exact hkept.1
  case cwd_eq => exact hkept.2
  case action_mem => exact haction
  case kind_eq => exact hof.kind_eq
  case targetKind_eq => exact hof.targetKind_eq
  case targetId_eq => exact hof.targetId_eq.trans hkept.1.symm
  case owners_iff =>
    intro componentId hne
    rw [hof.ownerIds_eq, mem_npmRunnerAction_ownerIds_iff hne]
    unfold BelongsTo
    simp only [hcomponents, Except.ok.injEq, exists_eq_left']

theorem exists_reported_python
    {attachment : PythonAttachment} {analysis : PythonRunnerAnalysis} {provider : Provider}
    (hreported : (python attachment analysis).ReportedBy provider) :
    ∃ runner action, (python attachment analysis).Reported provider runner action := by
  obtain ⟨⟨analyses, hanalyses, hanalysis⟩, -, -, hrunners, hactions⟩ := hreported
  simp only [PythonAttachment.getRunners, hanalyses, ok_bind, bind_eq_ok,
    pure_eq_ok] at hrunners
  obtain ⟨runners, hfound, hsorted⟩ := hrunners
  obtain ⟨runner, hrunner, htranslated⟩ := exists_output_of_mem hfound hanalysis
  have hkept := toPythonRunner_eq_ok htranslated
  simp only [PythonAttachment.getActions, PythonAttachment.actionSpecs, hanalyses, ok_bind,
    bind_eq_ok] at hactions
  obtain ⟨items, ⟨components, hcomponents, tests, -, hitems⟩, hactions⟩ := hactions
  have hspec : pythonRunnerAction components analysis ∈ items := by
    rw [mem_of_finalizeActions hitems, List.mem_append, List.mem_append]
    exact .inl (.inl (List.mem_map_of_mem hanalysis))
  obtain ⟨action, haction, hof⟩ :=
    ProviderActionTranslator.exists_action_of_spec hactions hspec
  refine ⟨runner, action, ?_⟩
  constructor
  case runner_mem =>
    rw [← hsorted, mem_sortedBy]
    exact hrunner
  case runnerId_eq => exact hkept.1
  case cwd_eq => exact hkept.2
  case action_mem => exact haction
  case kind_eq => exact hof.kind_eq
  case targetKind_eq => exact hof.targetKind_eq
  case targetId_eq => exact hof.targetId_eq.trans hkept.1.symm
  case owners_iff =>
    intro componentId hne
    rw [hof.ownerIds_eq, mem_pythonRunnerAction_ownerIds_iff hne]
    unfold BelongsTo
    simp only [hcomponents, Except.ok.injEq, exists_eq_left']

theorem exists_reported
    {source : RunnerSource} {provider : Provider} (hreported : source.ReportedBy provider) :
    ∃ runner action, source.Reported provider runner action := by
  cases source with
  | npm attachment analysis => exact exists_reported_npm hreported
  | python attachment analysis => exact exists_reported_python hreported

/-- The two relations agree on a runner and a component exactly when the runner shares
files with the component it belongs to, or does not belong to it and shares none. -/
theorem relations_agree_iff
    {repository : Repository} {provider : Provider} {source : RunnerSource}
    {component : Component} {files : List FileInfo} {ids : List String}
    {filePreviewLimit testPreviewLimit : ℕ} {context : Repository.RunnerContext}
    (hprovider : provider ∈ repository.providersForRole .architecture)
    (hreported : source.ReportedBy provider)
    (hcomponent : component ∈ repository.getComponents)
    (hfiles : repository.listFilesByOwner component.id = .ok files)
    (hids : repository.relatedRunnerIdsForComponent component files = .ok ids)
    (hcontext : repository.describeRunner source.runnerId filePreviewLimit testPreviewLimit =
      .ok context) :
    (source.runnerId ∈ ids ↔ context.primaryComponent = some component) ↔
      source.PlacedApart repository component files := by
  obtain ⟨runner, action, hfacts⟩ := exists_reported hreported
  have hne : component.id ≠ source.runnerId := by
    simp only [Repository.listFilesByOwner, bind_eq_ok] at hfiles
    obtain ⟨index, hindex, -⟩ := hfiles
    have hlisted : runner ∈ repository.getRunners := by
      simp only [Repository.getRunners, mem_sortedBy, List.mem_flatMap]
      exact ⟨provider, hprovider, hfacts.runner_mem⟩
    have hdistinct := Repository.runner_id_ne_component_id
      (Repository.buildOwnershipIndex_facts hindex) hlisted hcomponent
    rw [hfacts.runnerId_eq] at hdistinct
    exact hdistinct.symm
  rw [← hfacts.runnerId_eq] at hcontext
  have hagree := Repository.relations_agree_iff_of_action hprovider hfacts.runner_mem
    hfacts.action_mem hfacts.kind_eq hfacts.targetKind_eq hfacts.targetId_eq hcomponent hfiles
    hids hcontext
  rw [hfacts.runnerId_eq, hfacts.cwd_eq, hfacts.owners_iff component.id hne] at hagree
  rw [hagree]
  constructor
  · intro hiff
    constructor
    case own => exact hiff.mpr
    case other => exact fun hother hshares => hother (hiff.mp hshares)
  · intro hplaced
    constructor
    · intro hshares
      by_contra hother
      exact hplaced.other hother hshares
    · exact hplaced.own

end RunnerSource

/-- The relations agree on all runners of the providers and all components with files. -/
def RunnerRelationsAgree : Prop :=
  ∀ (repository : Repository) (provider : Provider) (source : RunnerSource)
    (component : Component) (files : List FileInfo) (ids : List String)
    (filePreviewLimit testPreviewLimit : ℕ) (context : Repository.RunnerContext),
    provider ∈ repository.providersForRole .architecture →
      source.ReportedBy provider →
        component ∈ repository.getComponents →
          repository.listFilesByOwner component.id = .ok files →
            files ≠ [] →
              repository.relatedRunnerIdsForComponent component files = .ok ids →
                repository.describeRunner source.runnerId filePreviewLimit testPreviewLimit =
                    .ok context →
                  (source.runnerId ∈ ids ↔ context.primaryComponent = some component)

namespace RunnerSample

def attachment : NpmAttachment :=
  { tree :=
      { entries :=
          [(["w"], .directory), (["w", "package.json"], .file), (["w", "src"], .directory),
            (["w", "src", "index.js"], .file)]
        linkLimit := 40 }
    workspace :=
      { repositoryRoot := ["w"]
        rootManifest := { path := ["w", "package.json"], name := some "shop" }
        packages :=
          [{ packageDir := ["w"]
             manifest :=
               { path := ["w", "package.json"]
                 name := some "shop"
                 scripts := { entries := [("start", "webpack serve")] } } }] }
    rootRelPath := "." }

def analysis : NpmRunnerAnalysis :=
  { packageName := "shop"
    packagePath := ""
    scriptName := "start"
    command := "webpack serve"
    argv := ["npm", "run", "start"]
    cwd := none
    referencedFiles := [] }

def source : RunnerSource := .npm attachment analysis

def component : Component :=
  { id := "component:npm:shop"
    name := "shop"
    componentKind := .package
    language := .javascript
    sourceRoots := ["src"]
    artifactPaths := []
    provenance :=
      [⟨.authoritative, .manifest, none, "derived from npm workspace package metadata",
        ["package.json"]⟩] }

def file (path : String) (language : Option ProgrammingLanguage) : FileInfo :=
  { id := "file:" ++ path
    name := path
    repositoryRelPath := path
    language := language
    ownerId := "component:npm:shop"
    provenance :=
      [⟨.derived, .ownership, none,
        "assigned to an owner using npm provider ownership derivation", [path]⟩] }

def files : List FileInfo := [file "package.json" none, file "src/index.js" (some .javascript)]

def scriptProvenance : ProvenanceEntry :=
  ⟨.authoritative, .manifest, none, "derived from npm package script metadata",
    ["/package.json"]⟩

def runner : Runner :=
  { id := "runner:npm:shop:start"
    name := "shop:start"
    argv := ["npm", "run", "start"]
    cwd := none
    provenance := [scriptProvenance] }

def action : RepositoryAction :=
  { id := "action:npm:runner:shop:start"
    name := "Run shop:start"
    kind := .runnerExecution
    providerId := "npm"
    targetId := "runner:npm:shop:start"
    targetKind := .runner
    ownerIds := ["component:npm:shop", "runner:npm:shop:start"]
    proofFacets := []
    invocation := ⟨["npm", "run", "start"], none⟩
    dryRunSupported := true
    provenance := [scriptProvenance] }

def provider : Provider :=
  { providerId := "npm"
    components := [component]
    runners := [runner]
    files := files
    actions := [action] }

def repository : Repository := ⟨"/w", [provider], fun _ => [.architecture]⟩

theorem provider_mem : provider ∈ repository.providersForRole .architecture :=
  List.mem_filter.mpr ⟨List.mem_singleton_self _, by decide⟩

theorem component_mem : component ∈ repository.getComponents := by
  decide

theorem reported : source.ReportedBy provider := by
  have hanalyses : attachment.runnerAnalyses = .ok [analysis] := by decide +kernel
  refine ⟨⟨[analysis], hanalyses, List.mem_singleton_self _⟩, ?_, ?_, ?_, ?_⟩
  · decide +kernel
  · decide +kernel
  · decide +kernel
  · decide +kernel

theorem listed : repository.listFilesByOwner component.id = .ok files := by
  decide +kernel

theorem unrelated :
    repository.relatedRunnerIdsForComponent component files = .ok [] := by
  decide +kernel

theorem described :
    ∃ context, repository.describeRunner source.runnerId 20 10 = .ok context ∧
      context.primaryComponent = some component := by
  have hprimary : Repository.RunnerContext.primaryComponent <$>
      repository.describeRunner source.runnerId 20 10 = .ok (some component) := by
    decide +kernel
  exact map_eq_ok.mp hprimary

end RunnerSample

/-- The script of a package at the repository root is not related to its component. -/
theorem runner_relations_disagree : ¬ RunnerRelationsAgree := by
  intro hagree
  obtain ⟨context, hcontext, hprimary⟩ := RunnerSample.described
  have hiff := hagree RunnerSample.repository RunnerSample.provider RunnerSample.source
    RunnerSample.component RunnerSample.files [] 20 10 context RunnerSample.provider_mem
    RunnerSample.reported RunnerSample.component_mem RunnerSample.listed (by decide)
    RunnerSample.unrelated hcontext
  exact List.not_mem_nil (hiff.mpr hprimary)

/-- The characterization at that package. -/
theorem relations_agree_iff_atRoot :
    ∃ context, RunnerSample.repository.describeRunner RunnerSample.source.runnerId 20 10 =
        .ok context ∧
      ((RunnerSample.source.runnerId ∈ ([] : List String) ↔
          context.primaryComponent = some RunnerSample.component) ↔
        RunnerSample.source.PlacedApart RunnerSample.repository RunnerSample.component
          RunnerSample.files) := by
  obtain ⟨context, hcontext, -⟩ := RunnerSample.described
  refine ⟨context, hcontext, ?_⟩
  exact RunnerSource.relations_agree_iff RunnerSample.provider_mem RunnerSample.reported
    RunnerSample.component_mem RunnerSample.listed RunnerSample.unrelated hcontext

end SuitCode
