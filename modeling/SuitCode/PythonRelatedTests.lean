import SuitCode.NpmRelatedTests
import SuitCode.PythonActionIds
import SuitCode.SymbolIds

/-!
# Related tests of the files of a Python project

All tests of a project are related to each of its components, and to each file
which a component owns.  A file which an entry point names is owned by a runner.
-/

namespace SuitCode

open PosixText KeyedList ExceptList

namespace PythonAttachment

variable (python : PythonAttachment)

/-! ## Related tests -/

/-- `get_related_tests` of an owner. -/
def relatedTestsOfOwner (repository : Repository) (ownerId : String) :
    PyResult (List RelatedTestMatch) := do
  let discovered ← python.getDiscoveredTests
  if discovered.isEmpty then
    pure []
  else
    let owner ← repository.resolveOwner ownerId
    match owner.kind with
    | .testDefinition =>
        match discovered.filter fun test => test.testDefinition.id = ownerId with
        | [] => raiseValueError ("test owner id could not be resolved: `" ++ ownerId ++ "`")
        | test :: _ => do
            let found ← relatedTestMatch .sameOwner (some ownerId) none test
            pure [found]
    | .component => discovered.mapM (relatedTestMatch .sameComponent (some ownerId) none)
    | _ => pure []

/-- `get_related_tests` of a file. -/
def relatedTestsOfFile (repository : Repository) (path : String) :
    PyResult (List RelatedTestMatch) := do
  let discovered ← python.getDiscoveredTests
  if discovered.isEmpty then
    pure []
  else
    let fileOwner ← repository.getFileOwner path
    if fileOwner.owner.kind ≠ .component then
      pure []
    else
      discovered.mapM (relatedTestMatch .sameComponent (some fileOwner.owner.id) (some path))

def getRelatedTests (repository : Repository) :
    RelatedTestTarget → PyResult (List RelatedTestMatch)
  | .owner ownerId => python.relatedTestsOfOwner repository ownerId
  | .file path => python.relatedTestsOfFile repository path

/-- The repository is the project of the attachment, its only provider. -/
structure IsProject (repository : Repository) (provider : Provider) : Prop where
  providers_eq : repository.providers = [provider]
  providerId_eq : provider.providerId = "python"
  architecture : .architecture ∈ repository.providerRoles "python"
  test : .test ∈ repository.providerRoles "python"
  components_eq : python.getComponents = .ok provider.components
  runners_eq : python.getRunners = .ok provider.runners
  packageManagers_eq : python.getPackageManagers = .ok provider.packageManagers
  tests_eq : python.getDiscoveredTests = .ok provider.discoveredTests
  files_eq : python.getFiles = .ok provider.files
  relatedTests_eq : ∀ target,
    provider.relatedTests target = python.getRelatedTests repository target
  indexed : ∃ index, repository.buildOwnershipIndex = .ok index

/-- An entry point names the module of the path. -/
def EntryPointNames (path : String) : Prop :=
  ∃ runners, python.runnerAnalyses = .ok runners ∧
    ∃ runner ∈ runners, path ∈ runner.referencedFiles

/-- The path is a file of the package manager. -/
def ManagerOwns (path : String) : Prop :=
  ∃ manager ∈ python.packageManagerAnalyses, path ∈ manager.ownedFiles

end PythonAttachment

variable {path : String} {manager : PackageManager} {discovered : List DiscoveredTestDefinition}
  {target : RelatedTestTarget}

/-! ## The owner in the inventory -/

section Inventory

variable {tree : FileTree} {root : List String}
  {components : List PythonPackageComponentAnalysis} {runners : List PythonRunnerAnalysis}
  {managers : List PythonPackageManagerAnalysis} {row : PythonOwnedFileAnalysis}

inductive AssignedBy (components : List PythonPackageComponentAnalysis)
    (runners : List PythonRunnerAnalysis) (managers : List PythonPackageManagerAnalysis)
    (row : PythonOwnedFileAnalysis) : Prop where
  | component (component : PythonPackageComponentAnalysis) (hmem : component ∈ components)
      (howner : row.ownerId = pythonComponentId component.packageName)
      (hrunners : ∀ runner ∈ runners, row.repositoryRelPath ∉ runner.referencedFiles)
      (hmanagers : ∀ manager ∈ managers, row.repositoryRelPath ∉ manager.ownedFiles)
  | runner (runner : PythonRunnerAnalysis) (hmem : runner ∈ runners)
      (howner : row.ownerId = pythonRunnerId runner.scriptName)
      (hnamed : row.repositoryRelPath ∈ runner.referencedFiles)
  | manager (manager : PythonPackageManagerAnalysis) (hmem : manager ∈ managers)
      (howner : row.ownerId = manager.nodeId)
      (hnamed : row.repositoryRelPath ∈ manager.ownedFiles)

theorem mem_last_part {α κ : Type} [DecidableEq κ] {key : α → κ} {front back : List α}
    {item : α} (hmem : item ∈ dedupeBy key (front ++ back).reverse) :
    item ∈ back ∨ item ∈ front ∧ ∀ other ∈ back, key other ≠ key item := by
  by_cases hkey : ∃ other ∈ back, key other = key item
  · left
    obtain ⟨other, hother, heq⟩ := hkey
    obtain ⟨first, hfirst⟩ := exists_leader key (List.mem_reverse.mpr hother)
    rw [heq] at hfirst
    have hleader := mem_dedupeBy_iff.mp hmem
    rw [List.reverse_append, leader?_append_of_some hfirst, Option.some.injEq] at hleader
    rw [← hleader]
    exact List.mem_reverse.mp (leader?_mem hfirst)
  · have hnone : ∀ other ∈ back, key other ≠ key item := by
      intro other hother heq
      exact hkey ⟨other, hother, heq⟩
    have hin := List.mem_reverse.mp (mem_of_mem_dedupeBy hmem)
    cases List.mem_append.mp hin with
    | inl hfront => exact .inr ⟨hfront, hnone⟩
    | inr hback => exact .inl hback

theorem assignedBy_of_mem
    (hrow : row ∈ buildPythonInventory tree root components runners managers) :
    AssignedBy components runners managers row := by
  unfold buildPythonInventory pythonAssignments at hrow
  rw [mem_sortedBy, List.append_assoc] at hrow
  cases mem_last_part hrow with
  | inl hlater =>
      cases List.mem_append.mp hlater with
      | inl hrunner =>
          obtain ⟨runner, hmem, hfile⟩ := List.mem_flatMap.mp hrunner
          obtain ⟨path, hpath, heq⟩ := List.mem_map.mp hfile
          rw [← heq]
          exact .runner runner hmem rfl hpath
      | inr hmanager =>
          obtain ⟨manager, hmem, hfile⟩ := List.mem_flatMap.mp hmanager
          obtain ⟨path, hpath, heq⟩ := List.mem_map.mp hfile
          rw [← heq]
          exact .manager manager hmem rfl hpath
  | inr hcomponent =>
      obtain ⟨hcomponent, hlast⟩ := hcomponent
      obtain ⟨component, hmem, hfile⟩ := List.mem_flatMap.mp hcomponent
      obtain ⟨path, hpath, heq⟩ := List.mem_map.mp hfile
      have howner : row.ownerId = pythonComponentId component.packageName := by rw [← heq]
      apply AssignedBy.component component hmem howner
      · intro runner hrunner hnamed
        apply hlast ⟨row.repositoryRelPath, pythonRunnerId runner.scriptName,
          namedFileLanguage row.repositoryRelPath⟩ _ rfl
        apply List.mem_append_left
        exact List.mem_flatMap.mpr ⟨runner, hrunner, List.mem_map.mpr ⟨_, hnamed, rfl⟩⟩
      · intro manager hmanager hnamed
        apply hlast ⟨row.repositoryRelPath, manager.nodeId,
          namedFileLanguage row.repositoryRelPath⟩ _ rfl
        apply List.mem_append_right
        exact List.mem_flatMap.mpr ⟨manager, hmanager, List.mem_map.mpr ⟨_, hnamed, rfl⟩⟩

theorem exists_row_of_assigned {assigned : PythonOwnedFileAnalysis}
    (hassigned : assigned ∈ pythonAssignments tree root components runners managers) :
    ∃ row ∈ buildPythonInventory tree root components runners managers,
      row.repositoryRelPath = assigned.repositoryRelPath := by
  have hmem := List.mem_map_of_mem (f := PythonOwnedFileAnalysis.repositoryRelPath)
    (List.mem_reverse.mpr hassigned)
  obtain ⟨row, hrow, heq⟩ := List.mem_map.mp (mem_map_dedupeBy_iff.mpr hmem)
  exact ⟨row, mem_sortedBy.mpr hrow, heq⟩

theorem exists_row_of_runner {runner : PythonRunnerAnalysis} (hrunner : runner ∈ runners)
    (hpath : path ∈ runner.referencedFiles) :
    ∃ row ∈ buildPythonInventory tree root components runners managers,
      row.repositoryRelPath = path := by
  have hassigned : ⟨path, pythonRunnerId runner.scriptName, namedFileLanguage path⟩ ∈
      pythonAssignments tree root components runners managers := by
    unfold pythonAssignments
    apply List.mem_append_left
    apply List.mem_append_right
    exact List.mem_flatMap.mpr ⟨runner, hrunner, List.mem_map.mpr ⟨_, hpath, rfl⟩⟩
  exact exists_row_of_assigned hassigned

theorem exists_row_of_manager {manager : PythonPackageManagerAnalysis}
    (hmanager : manager ∈ managers) (hpath : path ∈ manager.ownedFiles) :
    ∃ row ∈ buildPythonInventory tree root components runners managers,
      row.repositoryRelPath = path := by
  have hassigned : ⟨path, manager.nodeId, namedFileLanguage path⟩ ∈
      pythonAssignments tree root components runners managers := by
    unfold pythonAssignments
    apply List.mem_append_right
    exact List.mem_flatMap.mpr ⟨manager, hmanager, List.mem_map.mpr ⟨_, hpath, rfl⟩⟩
  exact exists_row_of_assigned hassigned

end Inventory

/-! ## Nodes of the ownership index -/

section Nodes

variable {repository : Repository} {index : Repository.OwnershipIndex}

theorem packageManagerNode_mem {nodes : List OwnedNodeInfo}
    (hnodes : repository.ownerNodes = .ok nodes)
    (hmanager : manager ∈ repository.getPackageManagers) :
    ⟨manager.id, .packageManager, manager.name⟩ ∈ nodes := by
  unfold Repository.ownerNodes at hnodes
  obtain ⟨tests, -, hnodes⟩ := bind_eq_ok.mp hnodes
  rw [← pure_eq_ok.mp hnodes]
  simp only [List.mem_append, List.mem_map]
  exact .inl (.inr ⟨manager, hmanager, rfl⟩)

theorem getFileOwner_of_node (hindex : repository.buildOwnershipIndex = .ok index)
    {file : FileInfo} (hfile : file ∈ repository.getFiles) {node : OwnedNodeInfo}
    (hnode : node ∈ index.owners) (howner : file.ownerId = node.id) :
    repository.getFileOwner file.repositoryRelPath = .ok ⟨file, node⟩ := by
  have hfacts := Repository.buildOwnershipIndex_facts hindex
  have hleader := (leader?_eq_some_iff hfacts.paths_nodup).mpr
    ⟨hfacts.files_eq ▸ hfile, rfl⟩
  have hfind : index.files.find?
      (fun other => other.repositoryRelPath = file.repositoryRelPath) = some file := hleader
  unfold Repository.getFileOwner Repository.OwnershipIndex.ownerForFile
  rw [hindex, ok_bind, hfind]
  simp only [howner, Repository.ownerInfo_of_mem hfacts hnode, ok_bind]
  rfl

theorem exists_strip_append {front : String} (hne : front ≠ "")
    (hstart : ∀ c ∈ front.toList.head?, isSpace c = false)
    (hend : ∀ c ∈ front.toList.getLast?, isSpace c = false) (rest : String) :
    ∃ kept, strip (front ++ rest) = front ++ kept := by
  have hchars : front.toList ≠ [] := by
    rw [ne_eq, String.toList_eq_nil_iff]
    exact hne
  have hfirst : (front.toList ++ rest.toList).dropWhile isSpace =
      front.toList ++ rest.toList := by
    cases hfront : front.toList with
    | nil => exact absurd hfront hchars
    | cons c chars =>
        rw [hfront] at hstart
        rw [List.cons_append, List.dropWhile_cons_of_neg (by simp [hstart c rfl])]
  have hlast : front.toList.reverse.dropWhile isSpace = front.toList.reverse := by
    cases hback : front.toList.reverse with
    | nil => exact absurd (List.reverse_eq_nil_iff.mp hback) hchars
    | cons c chars =>
        have hfinal : isSpace c = false := by
          apply hend
          rw [← List.head?_reverse, hback]
          rfl
        rw [List.dropWhile_cons_of_neg (by simp [hfinal])]
  use String.ofList (rest.toList.reverse.dropWhile isSpace).reverse
  unfold strip
  rw [String.toList_append, hfirst, List.reverse_append, List.dropWhile_append]
  by_cases hblank : (rest.toList.reverse.dropWhile isSpace).isEmpty = true
  · rw [if_pos hblank, hlast, List.reverse_reverse, List.isEmpty_iff.mp hblank]
    simp
  · rw [if_neg hblank, List.reverse_append, List.reverse_reverse, String.ofList_append,
      String.ofList_toList]

theorem providerIdForOwner_eq {tag rest : String} (hne : tag ≠ "") (htag : ':' ∉ tag.toList)
    (hstart : ∀ c ∈ tag.toList.head?, isSpace c = false)
    (hknown : repository.providersById "python" ≠ []) :
    repository.providerIdForOwner (tag ++ ":python:" ++ rest) = .ok "python" := by
  have hfront : tag ++ ":python:" ≠ "" := by
    intro heq
    have hlist := congrArg String.toList heq
    rw [String.toList_append] at hlist
    exact absurd hlist (by simp)
  have hhead : ∀ c ∈ (tag ++ ":python:").toList.head?, isSpace c = false := by
    rw [String.toList_append, List.head?_append_of_ne_nil]
    · exact hstart
    · rw [ne_eq, String.toList_eq_nil_iff]
      exact hne
  have hlast : ∀ c ∈ (tag ++ ":python:").toList.getLast?, isSpace c = false := by
    rw [String.toList_append, List.getLast?_append_of_ne_nil _ (by decide)]
    simp only [Option.mem_def]
    rintro c ⟨⟩
    decide
  obtain ⟨kept, hstrip⟩ := exists_strip_append hfront hhead hlast rest
  have hjoin : tag ++ ":python:" ++ kept = tag ++ ":" ++ ("python" ++ ":" ++ kept) := by
    have hname : ":python:" = ":" ++ ("python" ++ ":") := rfl
    rw [hname]
    simp only [String.append_assoc]
  have hpieces : ((tag ++ ":python:" ++ kept).toList.splitOn ':').map String.ofList =
      tag :: "python" :: colonPieces kept := by
    have hpython : colonPieces "python" = ["python"] := colonPieces_of_not_mem (by decide)
    have hcolons : colonPieces (tag ++ ":" ++ ("python" ++ ":" ++ kept)) =
        tag :: "python" :: colonPieces kept := by
      rw [colonPieces_append, colonPieces_append, colonPieces_of_not_mem htag, hpython]
      rfl
    rw [hjoin]
    exact hcolons
  have hfilled : tag ++ ":python:" ++ kept ≠ "" := by
    intro heq
    rw [heq] at hpieces
    cases hpieces
  unfold Repository.providerIdForOwner
  simp only [hstrip]
  rw [if_neg hfilled, hpieces]
  have hblank : isBlank "python" = false := by decide
  have hname : strip "python" = "python" := by decide
  simp only [hblank, hname, if_neg hknown, Bool.false_eq_true, if_false]

theorem providerIdForOwner_component (hknown : repository.providersById "python" ≠ [])
    (packageName : String) :
    repository.providerIdForOwner (pythonComponentId packageName) = .ok "python" := by
  have htag : "component:python:" = "component" ++ ":python:" := rfl
  unfold pythonComponentId
  rw [htag]
  exact providerIdForOwner_eq (by decide) (by decide) (by simp; decide) hknown

theorem providerIdForOwner_runner (hknown : repository.providersById "python" ≠ [])
    (scriptName : String) :
    repository.providerIdForOwner (pythonRunnerId scriptName) = .ok "python" := by
  have htag : "runner:python:" = "runner" ++ ":python:" := rfl
  unfold pythonRunnerId
  rw [htag]
  exact providerIdForOwner_eq (by decide) (by decide) (by simp; decide) hknown

theorem providerIdForOwner_manager (hknown : repository.providersById "python" ≠ [])
    (rootRelPath : String) :
    repository.providerIdForOwner
      (rebasePythonManagerId rootRelPath "pkgmgr:python:root") = .ok "python" := by
  have htag : "pkgmgr:python:root" = "pkgmgr" ++ ":python:" ++ "root" := rfl
  unfold rebasePythonManagerId
  rw [htag]
  split
  · exact providerIdForOwner_eq (by decide) (by decide) (by simp; decide) hknown
  · rw [String.append_assoc, String.append_assoc]
    exact providerIdForOwner_eq (by decide) (by decide) (by simp; decide) hknown

end Nodes

/-! ## Rebased owners -/

theorem removePrefix_append (start text : String) :
    removePrefix start (start ++ text) = text := by
  unfold removePrefix
  rw [if_pos (startsWith_append start text), String.toList_append, List.drop_left,
    String.ofList_toList]

theorem rebasePythonOwnerId_component (rootRelPath packageName : String) :
    rebasePythonOwnerId rootRelPath (pythonComponentId packageName) =
      pythonComponentId packageName := by
  unfold rebasePythonOwnerId pythonComponentId
  have hmanager : "component:python:" ++ packageName ≠ "pkgmgr:python:root" := by
    intro heq
    have hlist := congrArg String.toList heq
    simp at hlist
  have hrunner : startsWith ("component:python:" ++ packageName) "runner:python:" = false := by
    simp [startsWith, List.isPrefixOf]
  rw [if_neg hmanager, hrunner]
  simp

theorem rebasePythonOwnerId_runner (rootRelPath scriptName : String) :
    rebasePythonOwnerId rootRelPath (pythonRunnerId scriptName) =
      pythonRunnerId (rebasePythonScript rootRelPath scriptName) := by
  have hmanager : pythonRunnerId scriptName ≠ "pkgmgr:python:root" := by
    intro heq
    unfold pythonRunnerId at heq
    have hlist := congrArg String.toList heq
    simp at hlist
  have hrunner : startsWith (pythonRunnerId scriptName) "runner:python:" = true :=
    startsWith_append "runner:python:" scriptName
  have hname : removePrefix "runner:python:" (pythonRunnerId scriptName) = scriptName :=
    removePrefix_append "runner:python:" scriptName
  unfold rebasePythonOwnerId rebasePythonScript
  rw [if_neg hmanager, hrunner, hname]
  cases isRepositoryRoot rootRelPath with
  | false =>
      unfold pythonRunnerId
      simp [String.append_assoc]
  | true => simp

theorem toPythonComponent_id {item : PythonPackageComponentAnalysis} {component : Component}
    (hok : toPythonComponent item = .ok component) :
    component.id = pythonComponentId item.packageName := by
  simp only [toPythonComponent, bind_eq_ok, pure_eq_ok] at hok
  obtain ⟨entry, -, heq⟩ := hok
  rw [← heq]

theorem toPythonPackageManager_id {item : PythonPackageManagerAnalysis}
    (hok : toPythonPackageManager item = .ok manager) :
    manager.id = item.nodeId := by
  simp only [toPythonPackageManager, bind_eq_ok, pure_eq_ok] at hok
  obtain ⟨entry, -, heq⟩ := hok
  rw [← heq]

theorem toPythonFileInfo_facts {item : PythonOwnedFileAnalysis} {file : FileInfo}
    (hok : toPythonFileInfo item = .ok file) :
    file.repositoryRelPath = item.repositoryRelPath ∧ file.ownerId = item.ownerId ∧
      ∃ stored, normalizeRepositoryRelativePath file.repositoryRelPath = .ok stored := by
  simp only [toPythonFileInfo, bind_eq_ok, pure_eq_ok] at hok
  obtain ⟨stored, hstored, entry, -, heq⟩ := hok
  rw [← heq]
  exact ⟨rfl, rfl, stored, hstored⟩

/-! ## Files of a project -/

namespace PythonAttachment.IsProject

variable {python : PythonAttachment} {repository : Repository} {provider : Provider}

section Providers

variable (hproject : python.IsProject repository provider)

include hproject

theorem providersById_eq : repository.providersById "python" = [provider] := by
  unfold Repository.providersById
  rw [hproject.providers_eq]
  simp [hproject.providerId_eq]

theorem providersForRole_eq (role : ProviderRole)
    (hrole : role ∈ repository.providerRoles "python") :
    repository.providersForRole role = [provider] := by
  unfold Repository.providersForRole
  rw [hproject.providers_eq]
  simp [hproject.providerId_eq, hrole]

theorem mem_getFiles {file : FileInfo} : file ∈ repository.getFiles ↔ file ∈ provider.files := by
  unfold Repository.getFiles
  rw [hproject.providersForRole_eq _ hproject.architecture]
  simp

theorem mem_getComponents {component : Component} :
    component ∈ repository.getComponents ↔ component ∈ provider.components := by
  unfold Repository.getComponents
  rw [hproject.providersForRole_eq _ hproject.architecture]
  simp

theorem mem_getRunners {runner : Runner} :
    runner ∈ repository.getRunners ↔ runner ∈ provider.runners := by
  unfold Repository.getRunners
  rw [hproject.providersForRole_eq _ hproject.architecture]
  simp

theorem mem_getPackageManagers :
    manager ∈ repository.getPackageManagers ↔ manager ∈ provider.packageManagers := by
  unfold Repository.getPackageManagers
  rw [hproject.providersForRole_eq _ hproject.architecture]
  simp

theorem providersForOwnerRole_eq {ownerId : String}
    (hnamed : repository.providerIdForOwner ownerId = .ok "python") :
    repository.providersForOwnerRole ownerId .test = .ok [provider] := by
  unfold Repository.providersForOwnerRole
  rw [hnamed, ok_bind, if_neg (not_not.mpr hproject.test), hproject.providersById_eq]
  rfl

end Providers

structure Rows (python : PythonAttachment) (provider : Provider)
    (components : List PythonPackageComponentAnalysis) (runners : List PythonRunnerAnalysis) :
    Prop where
  files : ∀ file ∈ provider.files, ∃ row ∈ buildPythonInventory python.tree python.root
    components runners [pythonPackageManager],
      toPythonFileInfo (rebasePythonFile python.rootRelPath row) = .ok file
  rebased : ∀ row ∈ buildPythonInventory python.tree python.root components runners
    [pythonPackageManager], ∃ file ∈ provider.files,
      toPythonFileInfo (rebasePythonFile python.rootRelPath row) = .ok file
  paths_nodup : ((buildPythonInventory python.tree python.root components runners
    [pythonPackageManager]).map fun row =>
      rebasePythonPath python.rootRelPath row.repositoryRelPath).Nodup
  components : ∀ component ∈ components, ∃ node ∈ provider.components,
    node.id = pythonComponentId component.packageName
  runners_eq : python.runnerAnalyses = .ok (runners.map (rebasePythonRunner python.rootRelPath))
  runners : ∀ runner ∈ runners, ∃ node ∈ provider.runners,
    node.id = pythonRunnerId (rebasePythonScript python.rootRelPath runner.scriptName)

theorem exists_rows (hproject : python.IsProject repository provider) :
    ∃ components runners, Rows python provider components runners := by
  have hfiles := hproject.files_eq
  simp only [getFiles, fileAnalyses, bind_eq_ok, pure_eq_ok] at hfiles
  obtain ⟨analyses, ⟨components, hcomponents, runners, hrunners, hinventory⟩, files,
    htranslated, hsorted⟩ := hfiles
  refine ⟨components, runners, ?_⟩
  constructor
  case files =>
    intro file hfile
    rw [← hsorted, mem_sortedBy] at hfile
    obtain ⟨item, hitem, hok⟩ := exists_input_of_mem htranslated hfile
    rw [← hinventory] at hitem
    obtain ⟨row, hrow, heq⟩ := List.mem_map.mp hitem
    rw [← heq] at hok
    exact ⟨row, hrow, hok⟩
  case rebased =>
    intro row hrow
    have hitem : rebasePythonFile python.rootRelPath row ∈ analyses := by
      rw [← hinventory]
      exact List.mem_map_of_mem hrow
    obtain ⟨file, hfile, hok⟩ := exists_output_of_mem htranslated hitem
    refine ⟨file, ?_, hok⟩
    rw [← hsorted, mem_sortedBy]
    exact hfile
  case paths_nodup =>
    obtain ⟨index, hindex⟩ := hproject.indexed
    have hfacts := Repository.buildOwnershipIndex_facts hindex
    have hlisted : (provider.files.map FileInfo.repositoryRelPath).Nodup := by
      have hnodup := hfacts.paths_nodup
      rw [hfacts.files_eq] at hnodup
      unfold Repository.getFiles at hnodup
      rw [hproject.providersForRole_eq _ hproject.architecture, List.flatMap_singleton,
        ((sortedBy_perm FileInfo.id provider.files).map
          FileInfo.repositoryRelPath).nodup_iff] at hnodup
      exact hnodup
    rw [← hsorted, ((sortedBy_perm FileInfo.id files).map
      FileInfo.repositoryRelPath).nodup_iff] at hlisted
    have hpaths := map_outputs_eq FileInfo.repositoryRelPath
      PythonOwnedFileAnalysis.repositoryRelPath htranslated fun item _ file hok =>
        (toPythonFileInfo_facts hok).1
    rw [hpaths, ← hinventory, List.map_map] at hlisted
    simp only [Function.comp_def, rebasePythonFile] at hlisted
    exact hlisted
  case components =>
    intro component hcomponent
    have hnodes := hproject.components_eq
    simp only [getComponents, componentAnalyses, hcomponents, ok_bind, bind_eq_ok,
      pure_eq_ok] at hnodes
    obtain ⟨analyses, heq, nodes, hnodes, hsorted⟩ := hnodes
    have hrebased : rebasePythonComponent python.rootRelPath component ∈ analyses := by
      rw [← heq]
      exact List.mem_map_of_mem hcomponent
    obtain ⟨node, hnode, hok⟩ := exists_output_of_mem hnodes hrebased
    have hname : (rebasePythonComponent python.rootRelPath component).packageName =
        component.packageName := by simp only [rebasePythonComponent]
    have hid := toPythonComponent_id hok
    rw [hname] at hid
    refine ⟨node, ?_, hid⟩
    rw [← hsorted, mem_sortedBy]
    exact hnode
  case runners_eq =>
    unfold runnerAnalyses
    rw [hrunners]
    rfl
  case runners =>
    intro runner hrunner
    have hnodes := hproject.runners_eq
    simp only [getRunners, runnerAnalyses, hrunners, ok_bind, bind_eq_ok,
      pure_eq_ok] at hnodes
    obtain ⟨analyses, heq, nodes, hnodes, hsorted⟩ := hnodes
    have hrebased : rebasePythonRunner python.rootRelPath runner ∈ analyses := by
      rw [← heq]
      exact List.mem_map_of_mem hrunner
    obtain ⟨node, hnode, hok⟩ := exists_output_of_mem hnodes hrebased
    have hname : (rebasePythonRunner python.rootRelPath runner).scriptName =
        rebasePythonScript python.rootRelPath runner.scriptName := by
      simp only [rebasePythonRunner]
    have hid := (RunnerSource.toPythonRunner_eq_ok hok).1
    rw [hname] at hid
    refine ⟨node, ?_, hid⟩
    rw [← hsorted, mem_sortedBy]
    exact hnode

theorem exists_managerNode (hproject : python.IsProject repository provider) :
    ∃ node ∈ provider.packageManagers,
      node.id = rebasePythonManagerId python.rootRelPath "pkgmgr:python:root" := by
  have hnodes := hproject.packageManagers_eq
  simp only [getPackageManagers, packageManagerAnalyses, bind_eq_ok, pure_eq_ok] at hnodes
  obtain ⟨nodes, hnodes, hsorted⟩ := hnodes
  obtain ⟨node, hnode, hok⟩ := exists_output_of_mem hnodes List.mem_cons_self
  have hid := toPythonPackageManager_id hok
  simp only [rebasePythonPackageManager, pythonPackageManager] at hid
  refine ⟨node, ?_, hid⟩
  rw [← hsorted, mem_sortedBy]
  exact hnode

section Owners

variable {components : List PythonPackageComponentAnalysis}
  {runners : List PythonRunnerAnalysis}

theorem Rows.eq_of_path (hrows : Rows python provider components runners)
    {row other : PythonOwnedFileAnalysis}
    (hrow : row ∈ buildPythonInventory python.tree python.root components runners
      [pythonPackageManager])
    (hother : other ∈ buildPythonInventory python.tree python.root components runners
      [pythonPackageManager])
    (hpath : rebasePythonPath python.rootRelPath row.repositoryRelPath =
      rebasePythonPath python.rootRelPath other.repositoryRelPath) : row = other :=
  List.inj_on_of_nodup_map hrows.paths_nodup hrow hother hpath

theorem Rows.named_of_entryPoint (hrows : Rows python provider components runners)
    {row : PythonOwnedFileAnalysis}
    (hrow : row ∈ buildPythonInventory python.tree python.root components runners
      [pythonPackageManager])
    (hnamed : python.EntryPointNames
      (rebasePythonPath python.rootRelPath row.repositoryRelPath)) :
    ∃ runner ∈ runners, row.repositoryRelPath ∈ runner.referencedFiles := by
  obtain ⟨rebased, hrebased, runner', hrunner', hpath⟩ := hnamed
  rw [hrows.runners_eq, Except.ok.injEq] at hrebased
  rw [← hrebased] at hrunner'
  obtain ⟨runner, hrunner, heq⟩ := List.mem_map.mp hrunner'
  rw [← heq] at hpath
  simp only [rebasePythonRunner] at hpath
  obtain ⟨path, hfile, hsame⟩ := List.mem_map.mp hpath
  obtain ⟨other, hother, hotherPath⟩ := exists_row_of_runner hrunner hfile
  have hrowEq := hrows.eq_of_path hrow hother (by rw [hotherPath, hsame])
  refine ⟨runner, hrunner, ?_⟩
  rw [hrowEq, hotherPath]
  exact hfile

theorem Rows.owned_of_manager (hrows : Rows python provider components runners)
    {row : PythonOwnedFileAnalysis}
    (hrow : row ∈ buildPythonInventory python.tree python.root components runners
      [pythonPackageManager])
    (howned : python.ManagerOwns
      (rebasePythonPath python.rootRelPath row.repositoryRelPath)) :
    row.repositoryRelPath ∈ pythonPackageManager.ownedFiles := by
  obtain ⟨manager, hmanager, hpath⟩ := howned
  unfold packageManagerAnalyses at hmanager
  rw [List.mem_singleton.mp hmanager] at hpath
  simp only [rebasePythonPackageManager] at hpath
  obtain ⟨path, hfile, hsame⟩ := List.mem_map.mp hpath
  obtain ⟨other, hother, hotherPath⟩ := exists_row_of_manager List.mem_cons_self hfile
  have hrowEq := hrows.eq_of_path hrow hother (by rw [hotherPath, hsame])
  rw [hrowEq, hotherPath]
  exact hfile

end Owners

theorem exists_fileOwner (hproject : python.IsProject repository provider) {file : FileInfo}
    (hfile : file ∈ provider.files) :
    ∃ node, repository.getFileOwner file.repositoryRelPath = .ok ⟨file, node⟩ ∧
      repository.providerIdForOwner node.id = .ok "python" ∧
        (node.kind = .component ↔ ¬ python.EntryPointNames file.repositoryRelPath ∧
          ¬ python.ManagerOwns file.repositoryRelPath) := by
  obtain ⟨components, runners, hrows⟩ := hproject.exists_rows
  obtain ⟨index, hindex⟩ := hproject.indexed
  have hfacts := Repository.buildOwnershipIndex_facts hindex
  have hknown : repository.providersById "python" ≠ [] := by
    rw [hproject.providersById_eq]
    simp
  obtain ⟨row, hrow, hok⟩ := hrows.files file hfile
  obtain ⟨hpath, howner, -⟩ := toPythonFileInfo_facts hok
  simp only [rebasePythonFile] at hpath howner
  have hlisted := hproject.mem_getFiles.mpr hfile
  rw [hpath]
  cases assignedBy_of_mem hrow with
  | component component hcomponent hid hrunners hmanagers =>
      obtain ⟨node, hnode, hnodeId⟩ := hrows.components component hcomponent
      rw [hid, rebasePythonOwnerId_component] at howner
      have hmem := Repository.componentNode_mem hfacts.ownerNodes_eq
        (hproject.mem_getComponents.mpr hnode)
      have hpython : repository.providerIdForOwner node.id = .ok "python" := by
        rw [hnodeId]
        exact providerIdForOwner_component hknown component.packageName
      have hfound := getFileOwner_of_node hindex hlisted hmem (howner.trans hnodeId.symm)
      rw [hpath] at hfound
      refine ⟨_, hfound, hpython, ?_⟩
      · simp only [true_iff]
        constructor
        · intro hnamed
          obtain ⟨runner, hrunner, hin⟩ := hrows.named_of_entryPoint hrow hnamed
          exact hrunners runner hrunner hin
        · intro howned
          exact hmanagers _ List.mem_cons_self (hrows.owned_of_manager hrow howned)
  | runner runner hrunner hid hnamed =>
      obtain ⟨node, hnode, hnodeId⟩ := hrows.runners runner hrunner
      rw [hid, rebasePythonOwnerId_runner] at howner
      have hmem := Repository.runnerNode_mem hfacts.ownerNodes_eq
        (hproject.mem_getRunners.mpr hnode)
      have hpython : repository.providerIdForOwner node.id = .ok "python" := by
        rw [hnodeId]
        exact providerIdForOwner_runner hknown _
      have hfound := getFileOwner_of_node hindex hlisted hmem (howner.trans hnodeId.symm)
      rw [hpath] at hfound
      refine ⟨_, hfound, hpython, ?_⟩
      · have hentry : python.EntryPointNames
            (rebasePythonPath python.rootRelPath row.repositoryRelPath) := by
          refine ⟨_, hrows.runners_eq, _, List.mem_map_of_mem hrunner, ?_⟩
          simp only [rebasePythonRunner]
          exact List.mem_map_of_mem hnamed
        simp [hentry]
  | manager manager hmanager hid hnamed =>
      obtain ⟨node, hnode, hnodeId⟩ := hproject.exists_managerNode
      rw [List.mem_singleton.mp hmanager] at hid hnamed
      have hrebased : rebasePythonOwnerId python.rootRelPath pythonPackageManager.nodeId =
          rebasePythonManagerId python.rootRelPath "pkgmgr:python:root" := if_pos rfl
      rw [hid, hrebased] at howner
      have hmem := packageManagerNode_mem hfacts.ownerNodes_eq
        (hproject.mem_getPackageManagers.mpr hnode)
      have hpython : repository.providerIdForOwner node.id = .ok "python" := by
        rw [hnodeId]
        exact providerIdForOwner_manager hknown python.rootRelPath
      have hfound := getFileOwner_of_node hindex hlisted hmem (howner.trans hnodeId.symm)
      rw [hpath] at hfound
      refine ⟨_, hfound, hpython, ?_⟩
      · have howned : python.ManagerOwns
            (rebasePythonPath python.rootRelPath row.repositoryRelPath) := by
          refine ⟨_, List.mem_cons_self, ?_⟩
          simp only [rebasePythonPackageManager]
          exact List.mem_map_of_mem hnamed
        simp [howned]

/-! ## Tests of the repository -/

theorem exists_discovered (hproject : python.IsProject repository provider) :
    ∃ discovered, repository.getDiscoveredTests = .ok discovered ∧
      ∀ test, test ∈ discovered ↔ test ∈ provider.discoveredTests := by
  obtain ⟨index, hindex⟩ := hproject.indexed
  unfold Repository.buildOwnershipIndex Repository.ownerNodes Repository.getTests at hindex
  obtain ⟨nodes, hnodes, -⟩ := bind_eq_ok.mp hindex
  obtain ⟨tests, htests, -⟩ := bind_eq_ok.mp hnodes
  obtain ⟨discovered, hdiscovered, -⟩ := bind_eq_ok.mp htests
  refine ⟨discovered, hdiscovered, ?_⟩
  intro test
  unfold Repository.getDiscoveredTests Repository.discoveredTestIndex at hdiscovered
  rw [hproject.providersForRole_eq _ hproject.test] at hdiscovered
  obtain ⟨pairs, hpairs, hdiscovered⟩ := bind_eq_ok.mp hdiscovered
  rw [← pure_eq_ok.mp hdiscovered, mem_sortedBy, Repository.indexDiscoveredTests_eq hpairs]
  simp

theorem resolveRelatedTest_ok {found : RelatedTestMatch}
    (hknown : ∃ test ∈ discovered, test.testDefinition.id = found.testDefinition.id) :
    ∃ related, Repository.resolveRelatedTest discovered found = .ok related := by
  unfold Repository.resolveRelatedTest
  split
  · exact ⟨_, rfl⟩
  · next hnone =>
      obtain ⟨test, htest, hid⟩ := hknown
      rw [List.find?_eq_none] at hnone
      exact absurd (decide_eq_true hid) (hnone test htest)

theorem testId_of_resolved {found : RelatedTestMatch} {related : ResolvedRelatedTest}
    (hok : Repository.resolveRelatedTest discovered found = .ok related) :
    related.testId = found.testDefinition.id := by
  unfold Repository.resolveRelatedTest at hok
  split at hok
  · rw [← Except.ok.inj hok]
    rfl
  · exact absurd hok raiseValueError_ne_ok

theorem getRelatedTests_of_matches (hproject : python.IsProject repository provider)
    (hproviders : repository.testProvidersFor target = .ok [provider])
    {found : List RelatedTestMatch} (hfound : python.getRelatedTests repository target = .ok found)
    (hknown : ∀ item ∈ found, ∃ test ∈ provider.discoveredTests,
      test.testDefinition.id = item.testDefinition.id) :
    ∃ related, repository.getRelatedTests target = .ok related ∧
      ∀ testId, testId ∈ related.map ResolvedRelatedTest.testId ↔
        testId ∈ found.map fun item => item.testDefinition.id := by
  obtain ⟨discovered, hdiscovered, hsame⟩ := hproject.exists_discovered
  have hresolved : ∃ related,
      found.mapM (Repository.resolveRelatedTest discovered) = .ok related := by
    rw [exists_mapM_iff]
    intro item hitem
    obtain ⟨test, htest, hid⟩ := hknown item hitem
    exact resolveRelatedTest_ok ⟨test, (hsame test).mpr htest, hid⟩
  obtain ⟨related, hrelated⟩ := hresolved
  have hids := map_outputs_eq ResolvedRelatedTest.testId
    (fun item : RelatedTestMatch => item.testDefinition.id) hrelated fun item _ output hok =>
      testId_of_resolved hok
  refine ⟨sortedBy Repository.relatedTestSortKey related, ?_, ?_⟩
  · unfold Repository.getRelatedTests
    rw [hdiscovered, ok_bind, hproviders, ok_bind]
    simp only [List.mapM_cons, List.mapM_nil, hproject.relatedTests_eq, hfound, ok_bind,
      hrelated]
    simp [pure, Except.pure, bind, Except.bind]
  · intro testId
    rw [← hids]
    simp only [List.mem_map, mem_sortedBy]

end PythonAttachment.IsProject

theorem Repository.exists_discovered_of_related {repository : Repository}
    (hdiscovered : repository.getDiscoveredTests = .ok discovered)
    {related : List ResolvedRelatedTest} (hok : repository.getRelatedTests target = .ok related)
    {test : ResolvedRelatedTest} (htest : test ∈ related) :
    ∃ found ∈ discovered, found.testDefinition.id = test.testId := by
  unfold Repository.getRelatedTests at hok
  rw [hdiscovered, ok_bind] at hok
  obtain ⟨providers, -, hok⟩ := bind_eq_ok.mp hok
  obtain ⟨items, hitems, hok⟩ := bind_eq_ok.mp hok
  rw [← pure_eq_ok.mp hok, mem_sortedBy] at htest
  obtain ⟨group, hgroup, htest⟩ := List.mem_flatten.mp htest
  obtain ⟨asked, -, hanswer⟩ := exists_input_of_mem hitems hgroup
  obtain ⟨found, -, hresolved⟩ := bind_eq_ok.mp hanswer
  obtain ⟨item, -, hitem⟩ := exists_input_of_mem hresolved htest
  exact ⟨test.discoveredTest, Repository.resolveRelatedTest_mem hitem, test.sameTest.symm⟩

namespace PythonAttachment.IsProject

variable {python : PythonAttachment} {repository : Repository} {provider : Provider}

theorem related_nil (hproject : python.IsProject repository provider)
    (hnone : provider.discoveredTests = []) {related : List ResolvedRelatedTest}
    (hok : repository.getRelatedTests target = .ok related) :
    related = [] := by
  obtain ⟨discovered, hdiscovered, hsame⟩ := hproject.exists_discovered
  rw [List.eq_nil_iff_forall_not_mem]
  intro test htest
  obtain ⟨found, hfound, -⟩ :=
    Repository.exists_discovered_of_related hdiscovered hok htest
  rw [hsame, hnone] at hfound
  cases hfound

theorem providersForFile (hproject : python.IsProject repository provider)
    {fileOwner : FileOwnerInfo} (howner : repository.getFileOwner path = .ok fileOwner)
    (hnamed : repository.providerIdForOwner fileOwner.owner.id = .ok "python") :
    repository.testProvidersFor (.file path) = .ok [provider] := by
  unfold Repository.testProvidersFor Repository.providersForFileRole
  simp only [howner, ok_bind, hproject.providersForOwnerRole_eq hnamed]
  by_cases hcontains : Repository.attachmentContainsPath provider.attachmentRootRelPath path = true
  · simp [Repository.orAll, hcontains, pure, Except.pure]
  · simp [Repository.orAll, hcontains, pure, Except.pure]

theorem componentId_eq (hproject : python.IsProject repository provider)
    {component : Component} (hcomponent : component ∈ provider.components) :
    ∃ packageName, component.id = pythonComponentId packageName := by
  have hnodes := hproject.components_eq
  simp only [getComponents, bind_eq_ok, pure_eq_ok] at hnodes
  obtain ⟨analyses, -, nodes, hnodes, hsorted⟩ := hnodes
  rw [← hsorted, mem_sortedBy] at hcomponent
  obtain ⟨item, -, hok⟩ := exists_input_of_mem hnodes hcomponent
  exact ⟨item.packageName, toPythonComponent_id hok⟩

theorem providersForComponent (hproject : python.IsProject repository provider)
    {component : Component} (hcomponent : component ∈ provider.components) :
    repository.testProvidersFor (.owner component.id) = .ok [provider] := by
  obtain ⟨packageName, hid⟩ := hproject.componentId_eq hcomponent
  have hknown : repository.providersById "python" ≠ [] := by
    rw [hproject.providersById_eq]
    simp
  unfold Repository.testProvidersFor
  apply hproject.providersForOwnerRole_eq
  rw [hid]
  exact providerIdForOwner_component hknown packageName

theorem known_of_matches {reason : RelationReason} {ownerId path : Option String}
    {tests : List DiscoveredTestDefinition} {found : List RelatedTestMatch}
    (hok : tests.mapM (relatedTestMatch reason ownerId path) = .ok found) :
    ∀ item ∈ found, ∃ test ∈ tests, test.testDefinition.id = item.testDefinition.id := by
  intro item hitem
  obtain ⟨test, htest, hmatch⟩ := exists_input_of_mem hok hitem
  refine ⟨test, htest, ?_⟩
  rw [testDefinition_of_match hmatch]

theorem relatedTests_component (hproject : python.IsProject repository provider)
    {component : Component} (hcomponent : component ∈ provider.components) :
    ∃ related, repository.getRelatedTests (.owner component.id) = .ok related ∧
      ∀ testId, testId ∈ related.map ResolvedRelatedTest.testId ↔
        testId ∈ provider.discoveredTests.map fun test => test.testDefinition.id := by
  obtain ⟨index, hindex⟩ := hproject.indexed
  have hfacts := Repository.buildOwnershipIndex_facts hindex
  have hnode := Repository.componentNode_mem hfacts.ownerNodes_eq
    (hproject.mem_getComponents.mpr hcomponent)
  have howner : repository.resolveOwner component.id =
      .ok ⟨component.id, .component, component.name⟩ := by
    unfold Repository.resolveOwner
    rw [hindex, ok_bind]
    exact Repository.ownerInfo_of_mem hfacts hnode
  have hmatches : ∃ found, provider.discoveredTests.mapM
      (relatedTestMatch .sameComponent (some component.id) none) = .ok found := by
    rw [exists_matches_iff]
    intro test _ text htext
    cases htext
  obtain ⟨found, hfound⟩ := hmatches
  have hrelated : python.getRelatedTests repository (.owner component.id) = .ok found := by
    simp only [getRelatedTests, relatedTestsOfOwner, hproject.tests_eq, ok_bind]
    by_cases hempty : provider.discoveredTests.isEmpty = true
    · rw [List.isEmpty_iff.mp hempty] at hfound ⊢
      exact hfound
    · rw [if_neg hempty]
      simp only [howner, ok_bind]
      exact hfound
  obtain ⟨related, hok, hids⟩ := hproject.getRelatedTests_of_matches
    (hproject.providersForComponent hcomponent) hrelated (known_of_matches hfound)
  refine ⟨related, hok, ?_⟩
  intro testId
  rw [hids, ids_of_matches hfound]

theorem relatedTests_file (hproject : python.IsProject repository provider) {file : FileInfo}
    (hfile : file ∈ provider.files) :
    ∃ related, repository.getRelatedTests (.file file.repositoryRelPath) = .ok related ∧
      ∀ testId, testId ∈ related.map ResolvedRelatedTest.testId ↔
        (¬ python.EntryPointNames file.repositoryRelPath ∧
            ¬ python.ManagerOwns file.repositoryRelPath) ∧
          testId ∈ provider.discoveredTests.map fun test => test.testDefinition.id := by
  obtain ⟨node, howner, hnamed, hkind⟩ := hproject.exists_fileOwner hfile
  have hproviders := hproject.providersForFile howner hnamed
  obtain ⟨components, runners, hrows⟩ := hproject.exists_rows
  obtain ⟨row, -, hinfo⟩ := hrows.files file hfile
  obtain ⟨-, -, stored, hstored⟩ := toPythonFileInfo_facts hinfo
  by_cases hcomponent : node.kind = .component
  · have hmatches : ∃ found, provider.discoveredTests.mapM
        (relatedTestMatch .sameComponent (some node.id) (some file.repositoryRelPath)) =
          .ok found := by
      rw [exists_matches_iff]
      intro test _ text htext
      cases htext
      exact ⟨stored, hstored⟩
    obtain ⟨found, hfound⟩ := hmatches
    have hrelated : python.getRelatedTests repository (.file file.repositoryRelPath) =
        .ok found := by
      simp only [getRelatedTests, relatedTestsOfFile, hproject.tests_eq, ok_bind]
      by_cases hempty : provider.discoveredTests.isEmpty = true
      · rw [List.isEmpty_iff.mp hempty] at hfound ⊢
        exact hfound
      · rw [if_neg hempty]
        simp only [howner, ok_bind, hcomponent, ne_eq, not_true_eq_false, if_false]
        exact hfound
    obtain ⟨related, hok, hids⟩ := hproject.getRelatedTests_of_matches hproviders hrelated
      (known_of_matches hfound)
    refine ⟨related, hok, ?_⟩
    intro testId
    rw [hids, ids_of_matches hfound, and_iff_right (hkind.mp hcomponent)]
  · have hrelated : python.getRelatedTests repository (.file file.repositoryRelPath) =
        .ok [] := by
      simp only [getRelatedTests, relatedTestsOfFile, hproject.tests_eq, ok_bind]
      by_cases hempty : provider.discoveredTests.isEmpty = true
      · rw [if_pos hempty]
        rfl
      · rw [if_neg hempty]
        simp only [howner, ok_bind, ne_eq, hcomponent, not_false_eq_true, if_true]
        rfl
    obtain ⟨related, hok, hids⟩ := hproject.getRelatedTests_of_matches hproviders hrelated
      (by simp)
    refine ⟨related, hok, ?_⟩
    intro testId
    rw [hids]
    constructor
    · intro hmem
      cases hmem
    · rintro ⟨hunnamed, -⟩
      exact absurd (hkind.mpr hunnamed) hcomponent

end PythonAttachment.IsProject

/-! ## Other entry points -/

namespace PythonAttachment

def withEntryPoints (python : PythonAttachment) (scripts guiScripts : TextMap) :
    PythonAttachment :=
  { python with
    manifest := { python.manifest with
      project := python.manifest.project.map fun project =>
        { project with
          scripts := scripts
          guiScripts := guiScripts } } }

theorem getDiscoveredTests_withEntryPoints (python : PythonAttachment)
    (scripts guiScripts : TextMap) :
    (python.withEntryPoints scripts guiScripts).getDiscoveredTests =
      python.getDiscoveredTests := by
  have hsignal : hasPytestSignal python.tree python.root python.tools
      (python.withEntryPoints scripts guiScripts).manifest =
        hasPytestSignal python.tree python.root python.tools python.manifest := by
    unfold hasPytestSignal withEntryPoints
    cases python.manifest.project with
    | none => rfl
    | some project => rfl
  have hpytest : discoverPytest python.tree python.root python.tools
      (python.withEntryPoints scripts guiScripts).manifest =
        discoverPytest python.tree python.root python.tools python.manifest := by
    unfold discoverPytest
    rw [hsignal]
    rfl
  have htests : discoverPythonTests python.tree python.root python.tools
      (python.withEntryPoints scripts guiScripts).manifest =
        discoverPythonTests python.tree python.root python.tools python.manifest := by
    unfold discoverPythonTests
    rw [hpytest]
  unfold getDiscoveredTests testAnalyses
  exact congrArg (fun found => (do
    let analyses ← (do
      let analyses ← found
      pure (analyses.map (rebasePythonTest python.rootRelPath)))
    let tests ← analyses.mapM toPythonDiscoveredTest
    pure (sortedBy (fun test : DiscoveredTestDefinition => test.testDefinition.id) tests) :
      PyResult (List DiscoveredTestDefinition))) htests

/-! ## Tests of an entry point -/

/-- The tests of a file are those of a component, whatever entry points the project has:
they are not fewer than with other entry points, and they are the tests of the runner whose
entry point names the file. -/
structure EntryPointsKeepTests (python : PythonAttachment) (repository : Repository)
    (path componentId : String) : Prop where
  same_tests : ∃ ofFile ofOwner, repository.getRelatedTests (.file path) = .ok ofFile ∧
    repository.getRelatedTests (.owner componentId) = .ok ofOwner ∧
      ∀ testId, testId ∈ ofFile.map ResolvedRelatedTest.testId ↔
        testId ∈ ofOwner.map ResolvedRelatedTest.testId
  declared_keeps : ∀ scripts guiScripts other otherProvider before,
    (python.withEntryPoints scripts guiScripts).IsProject other otherProvider →
      other.getRelatedTests (.file path) = .ok before →
        ∃ after, repository.getRelatedTests (.file path) = .ok after ∧
          ∀ testId ∈ before.map ResolvedRelatedTest.testId,
            testId ∈ after.map ResolvedRelatedTest.testId
  runner_agrees : ∀ runners runner filePreviewLimit testPreviewLimit context,
    python.runnerAnalyses = .ok runners → runner ∈ runners → path ∈ runner.referencedFiles →
      repository.describeRunner (pythonRunnerId runner.scriptName) filePreviewLimit
          testPreviewLimit = .ok context →
        ∃ ofFile, repository.getRelatedTests (.file path) = .ok ofFile ∧
          context.relatedTestCount = ofFile.length ∧
            ∀ test ∈ context.relatedTestsPreview,
              test.testId ∈ ofFile.map ResolvedRelatedTest.testId

namespace IsProject

variable {python : PythonAttachment} {repository : Repository} {provider : Provider}

theorem runnerTests_nil (hproject : python.IsProject repository provider)
    (hnone : provider.discoveredTests = []) {runnerId : String}
    {filePreviewLimit testPreviewLimit : ℕ} {context : Repository.RunnerContext}
    (hcontext : repository.describeRunner runnerId filePreviewLimit testPreviewLimit =
      .ok context) : context.relatedTestCount = 0 ∧ context.relatedTestsPreview = [] := by
  unfold Repository.describeRunner at hcontext
  simp only [bind_eq_ok] at hcontext
  obtain ⟨-, -, -, -, runner, -, action, -, component, -, files, -, related, hrelated,
    provenance, -, hcontext⟩ := hcontext
  have hnil : related = [] := by
    unfold Repository.relatedTestsForRunner at hrelated
    cases component with
    | some component =>
        obtain ⟨target, -, hok⟩ := bind_eq_ok.mp hrelated
        exact hproject.related_nil hnone hok
    | none =>
        obtain ⟨found, hfound, hsorted⟩ := bind_eq_ok.mp hrelated
        have hflat : found.flatten = [] := by
          rw [List.flatten_eq_nil_iff]
          intro group hgroup
          obtain ⟨file, -, hfile⟩ := exists_input_of_mem hfound hgroup
          obtain ⟨target, -, hok⟩ := bind_eq_ok.mp hfile
          exact hproject.related_nil hnone hok
        rw [← pure_eq_ok.mp hsorted, hflat]
        rfl
  obtain ⟨heq, -⟩ := validated_eq_ok.mp hcontext
  rw [← heq, hnil]
  constructor
  · rfl
  · exact List.take_nil

theorem keepTests_iff (hproject : python.IsProject repository provider) {file : FileInfo}
    (hfile : file ∈ provider.files) {component : Component}
    (hcomponent : component ∈ provider.components) :
    python.EntryPointsKeepTests repository file.repositoryRelPath component.id ↔
      provider.discoveredTests = [] ∨
        ¬ python.EntryPointNames file.repositoryRelPath ∧
          ¬ python.ManagerOwns file.repositoryRelPath := by
  obtain ⟨ofFile, hfileOk, hfileIds⟩ := hproject.relatedTests_file hfile
  obtain ⟨ofOwner, hownerOk, hownerIds⟩ := hproject.relatedTests_component hcomponent
  constructor
  · intro hkept
    by_cases hnone : provider.discoveredTests = []
    · exact .inl hnone
    · right
      obtain ⟨test, htest⟩ := List.exists_mem_of_ne_nil _ hnone
      obtain ⟨found, expected, hfound, hexpected, hsame⟩ := hkept.same_tests
      rw [hfileOk, Except.ok.injEq] at hfound
      rw [hownerOk, Except.ok.injEq] at hexpected
      rw [← hfound, ← hexpected] at hsame
      have hid : test.testDefinition.id ∈ ofOwner.map ResolvedRelatedTest.testId := by
        rw [hownerIds]
        exact List.mem_map_of_mem htest
      exact ((hfileIds _).mp ((hsame _).mpr hid)).1
  · intro hcondition
    -- the tests of the file are all tests of the project
    have hall : ∀ testId, testId ∈ ofFile.map ResolvedRelatedTest.testId ↔
        testId ∈ provider.discoveredTests.map fun test => test.testDefinition.id := by
      intro testId
      rw [hfileIds]
      cases hcondition with
      | inl hnone => simp [hnone]
      | inr hunnamed => exact and_iff_right hunnamed
    constructor
    case same_tests =>
      refine ⟨ofFile, ofOwner, hfileOk, hownerOk, ?_⟩
      intro testId
      rw [hall, hownerIds]
    case declared_keeps =>
      intro scripts guiScripts other otherProvider before hother hbefore
      refine ⟨ofFile, hfileOk, ?_⟩
      intro testId htest
      have htests := hother.tests_eq
      rw [getDiscoveredTests_withEntryPoints, hproject.tests_eq, Except.ok.injEq] at htests
      rw [hall, htests]
      obtain ⟨discovered, hdiscovered, hmembers⟩ := hother.exists_discovered
      obtain ⟨related, hrelated, hid⟩ := List.mem_map.mp htest
      obtain ⟨found, hfound, hsame⟩ :=
        Repository.exists_discovered_of_related hdiscovered hbefore hrelated
      apply List.mem_map.mpr
      exact ⟨found, (hmembers found).mp hfound, hsame.trans hid⟩
    case runner_agrees =>
      intro runners runner filePreviewLimit testPreviewLimit context hrunners hrunner hpath
        hcontext
      cases hcondition with
      | inl hnone =>
          obtain ⟨hcount, hpreview⟩ := hproject.runnerTests_nil hnone hcontext
          have hnil := hproject.related_nil hnone hfileOk
          refine ⟨ofFile, hfileOk, ?_, ?_⟩
          · rw [hcount, hnil]
            rfl
          · rw [hpreview]
            intro test htest
            cases htest
      | inr hunnamed => exact absurd ⟨runners, hrunners, runner, hrunner, hpath⟩ hunnamed.1

end IsProject

end PythonAttachment

/-- The tests of a file of a Python project are those of its component, with any entry points,
exactly when the project has no tests, or no entry point names the file and the package
manager does not own it. -/
theorem entryPoints_keep_tests_iff {python : PythonAttachment} {repository : Repository}
    {provider : Provider} (hproject : python.IsProject repository provider) {file : FileInfo}
    (hfile : file ∈ provider.files) {component : Component}
    (hcomponent : component ∈ provider.components) :
    python.EntryPointsKeepTests repository file.repositoryRelPath component.id ↔
      provider.discoveredTests = [] ∨
        ¬ python.EntryPointNames file.repositoryRelPath ∧
          ¬ python.ManagerOwns file.repositoryRelPath :=
  hproject.keepTests_iff hfile hcomponent

namespace ScriptSample

def attachment : PythonAttachment :=
  { tree :=
      { entries :=
          [(["w"], .directory), (["w", "pyproject.toml"], .file), (["w", "pytest.ini"], .file),
            (["w", "shop"], .directory), (["w", "shop", "__init__.py"], .file),
            (["w", "shop", "cli.py"], .file), (["w", "tests"], .directory),
            (["w", "tests", "test_shop.py"], .file)]
        linkLimit := 40 }
    root := ["w"]
    manifest := { project := some { scripts := { entries := [("shop", "shop.cli:main")] } } }
    tools := { requirementName := fun requirement => .ok requirement }
    rootRelPath := "." }

def component : Component :=
  { id := "component:python:shop"
    name := "shop"
    componentKind := .package
    language := .python
    sourceRoots := ["shop"]
    artifactPaths := []
    provenance := [⟨.authoritative, .manifest, none,
      "derived from pyproject.toml packaging metadata for a top-level Python package",
      ["pyproject.toml"]⟩] }

def runner : Runner :=
  { id := "runner:python:shop"
    name := "shop"
    argv := ["python-entrypoint", "shop.cli:main"]
    cwd := none
    provenance := [⟨.authoritative, .manifest, none,
      "derived from pyproject.toml entry-point script metadata", ["pyproject.toml"]⟩] }

def packageManager : PackageManager :=
  { id := "pkgmgr:python:root"
    name := "python"
    manager := "python"
    lockfilePath := some "pyproject.toml"
    provenance := [⟨.derived, .manifest, none,
      "derived from Python project package-management configuration", ["pyproject.toml"]⟩] }

def file (path ownerId : String) (language : Option ProgrammingLanguage)
    (evidence : List String) : FileInfo :=
  { id := "file:" ++ path
    name := path
    repositoryRelPath := path
    language := language
    ownerId := ownerId
    provenance := [⟨.derived, .ownership, none,
      "assigned to an owner using Python provider ownership derivation", evidence⟩] }

def moduleFile : FileInfo :=
  file "shop/__init__.py" component.id (some .python) ["shop/__init__.py", "pyproject.toml"]

def scriptFile : FileInfo :=
  file "shop/cli.py" runner.id (some .python) ["shop/cli.py", "pyproject.toml"]

def testProvenance : List ProvenanceEntry :=
  [⟨.heuristic, .heuristic, none,
    "derived from pytest configuration and test file glob heuristics",
    ["pyproject.toml", "tests/test_shop.py"]⟩]

def test : DiscoveredTestDefinition :=
  ⟨⟨"test:python:pytest:root", "pytest", .pytest, ["tests/test_shop.py"], testProvenance⟩,
    testProvenance⟩

def inventory : Provider :=
  { providerId := "python"
    components := [component]
    runners := [runner]
    packageManagers := [packageManager]
    files :=
      [file "pyproject.toml" packageManager.id none ["pyproject.toml"], moduleFile, scriptFile]
    discoveredTests := [test] }

def roles : List ProviderRole := [.architecture, .code, .test, .quality]

def listing : Repository := ⟨"/w", [inventory], fun _ => roles⟩

def provider : Provider :=
  { inventory with relatedTests := attachment.getRelatedTests listing }

def repository : Repository := ⟨"/w", [provider], fun _ => roles⟩

theorem related_eq (target : RelatedTestTarget) :
    attachment.getRelatedTests listing target = attachment.getRelatedTests repository target := by
  have hindex : listing.buildOwnershipIndex = repository.buildOwnershipIndex := rfl
  cases target with
  | owner ownerId =>
      simp only [PythonAttachment.getRelatedTests, PythonAttachment.relatedTestsOfOwner,
        Repository.resolveOwner, hindex]
  | file path =>
      simp only [PythonAttachment.getRelatedTests, PythonAttachment.relatedTestsOfFile,
        Repository.getFileOwner, hindex]

theorem isProject : attachment.IsProject repository provider := by
  constructor
  case providers_eq => rfl
  case providerId_eq => rfl
  case architecture => decide
  case test => decide
  case components_eq => decide +kernel
  case runners_eq => decide +kernel
  case packageManagers_eq => decide +kernel
  case tests_eq => decide +kernel
  case files_eq => decide +kernel
  case relatedTests_eq => exact related_eq
  case indexed =>
    have hbuilt : repository.buildOwnershipIndex.Yields fun _ => True := by
      decide +kernel
    obtain ⟨index, hindex, -⟩ := PyResult.Yields.exists_ok hbuilt
    exact ⟨index, hindex⟩

theorem names_scriptFile : attachment.EntryPointNames scriptFile.repositoryRelPath := by
  have hrunners : attachment.runnerAnalyses =
      .ok [⟨"shop", "shop.cli:main", ["python-entrypoint", "shop.cli:main"], none,
        ["shop/cli.py"]⟩] := by
    decide +kernel
  exact ⟨_, hrunners, _, List.mem_singleton_self _, List.mem_singleton_self _⟩

end ScriptSample

/-- A file of the package which the script does not name. -/
theorem entryPoints_keep_tests_iff_moduleFile :
    ScriptSample.attachment.EntryPointsKeepTests ScriptSample.repository
        ScriptSample.moduleFile.repositoryRelPath ScriptSample.component.id ↔
      ScriptSample.provider.discoveredTests = [] ∨
        ¬ ScriptSample.attachment.EntryPointNames ScriptSample.moduleFile.repositoryRelPath ∧
          ¬ ScriptSample.attachment.ManagerOwns ScriptSample.moduleFile.repositoryRelPath :=
  entryPoints_keep_tests_iff ScriptSample.isProject
    (List.mem_cons_of_mem _ List.mem_cons_self) (List.mem_singleton_self _)

/-- The file which a script names has lost the tests of its package. -/
theorem entryPoints_not_always_keep_tests :
    ¬ ∀ (python : PythonAttachment) (repository : Repository) (provider : Provider)
      (file : FileInfo) (component : Component), python.IsProject repository provider →
        file ∈ provider.files → component ∈ provider.components →
          (∃ root ∈ component.sourceRoots,
            startsWith file.repositoryRelPath (root ++ "/") = true) →
              python.EntryPointsKeepTests repository file.repositoryRelPath component.id := by
  intro halways
  have hfile : ScriptSample.scriptFile ∈ ScriptSample.provider.files :=
    List.mem_cons_of_mem _ (List.mem_cons_of_mem _ List.mem_cons_self)
  have hcomponent : ScriptSample.component ∈ ScriptSample.provider.components :=
    List.mem_singleton_self _
  have hkept := halways _ _ _ _ _ ScriptSample.isProject hfile hcomponent
    ⟨"shop", List.mem_singleton_self _, by decide⟩
  cases (ScriptSample.isProject.keepTests_iff hfile hcomponent).mp hkept with
  | inl hnone => exact List.cons_ne_nil _ _ hnone
  | inr hunnamed => exact hunnamed.1 ScriptSample.names_scriptFile

end SuitCode
