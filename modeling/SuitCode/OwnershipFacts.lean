import SuitCode.MinimumVerifiedService

/-!
# Facts about the ownership index

An index which could be built has distinct owner ids and distinct file paths,
so the owner of a file is determined by its id and the file by its path.
-/

namespace SuitCode

open PosixText KeyedList ExceptList

variable {component : Component} {fileOwner : FileOwnerInfo} {index : OwnershipIndex}
  {nodes : List OwnedNodeInfo} {repository : Repository} {repositoryRelPath : String}

namespace Repository

theorem buildOwnerIndex_eq_ok {root : String} {owners result : List OwnedNodeInfo}
    (hok : buildOwnerIndex root owners nodes = .ok result)
    (hdistinct : (owners.map OwnedNodeInfo.id).Nodup) :
    result = owners ++ nodes ∧ (result.map OwnedNodeInfo.id).Nodup := by
  induction nodes generalizing owners with
  | nil =>
      have heq : owners = result := by simpa [buildOwnerIndex] using hok
      subst heq
      simp [hdistinct]
  | cons node nodes ih =>
      unfold buildOwnerIndex at hok
      by_cases hseen : owners.any (fun owner => owner.id = node.id) = true
      · simp [hseen, raiseValueError] at hok
      · rw [if_neg hseen] at hok
        have hfresh : node.id ∉ owners.map OwnedNodeInfo.id := by
          simpa using hseen
        have hextended : ((owners ++ [node]).map OwnedNodeInfo.id).Nodup := by
          simp [List.nodup_append, hdistinct]
          intro owner howner heq
          apply hfresh
          simpa [heq] using List.mem_map_of_mem (f := OwnedNodeInfo.id) howner
        have happend := ih hok hextended
        simpa using happend

theorem buildFileIndexes_eq_ok
    {owners : List OwnedNodeInfo} {files rest result : List FileInfo}
    (hok : buildFileIndexes owners files rest = .ok result)
    (hdistinct : (files.map FileInfo.repositoryRelPath).Nodup) :
    result = files ++ rest ∧ (result.map FileInfo.repositoryRelPath).Nodup := by
  induction rest generalizing files with
  | nil =>
      have heq : files = result := by simpa [buildFileIndexes] using hok
      subst heq
      simp [hdistinct]
  | cons fileInfo rest ih =>
      unfold buildFileIndexes at hok
      by_cases howner : (!owners.any fun owner => owner.id = fileInfo.ownerId) = true
      · simp [howner, raiseValueError] at hok
      · rw [if_neg howner] at hok
        by_cases hseen : files.any
            (fun file => file.repositoryRelPath = fileInfo.repositoryRelPath) = true
        · simp [hseen, raiseValueError] at hok
        · rw [if_neg hseen] at hok
          have hfresh :
              fileInfo.repositoryRelPath ∉ files.map FileInfo.repositoryRelPath := by
            simpa using hseen
          have hextended :
              ((files ++ [fileInfo]).map FileInfo.repositoryRelPath).Nodup := by
            simp [List.nodup_append, hdistinct]
            intro file hfile heq
            apply hfresh
            simpa [heq] using List.mem_map_of_mem (f := FileInfo.repositoryRelPath) hfile
          have happend := ih hok hextended
          simpa using happend

structure OwnershipIndexFacts (repository : Repository) (index : OwnershipIndex) : Prop where
  ownerNodes_eq : repository.ownerNodes = .ok index.owners
  ownerIds_nodup : (index.owners.map OwnedNodeInfo.id).Nodup
  files_eq : index.files = repository.getFiles
  paths_nodup : (index.files.map FileInfo.repositoryRelPath).Nodup

theorem buildOwnershipIndex_facts (hok : repository.buildOwnershipIndex = .ok index) :
    OwnershipIndexFacts repository index := by
  unfold buildOwnershipIndex at hok
  simp only [bind_eq_ok, pure_eq_ok] at hok
  rcases hok with ⟨nodes, hnodes, owners, howners, files, hfiles, heq⟩
  have hindexed := buildOwnerIndex_eq_ok howners (by simp)
  have hlisted := buildFileIndexes_eq_ok hfiles (by simp)
  simp only [List.nil_append] at hindexed hlisted
  subst heq
  constructor
  case ownerNodes_eq => simp [hnodes, hindexed.1]
  case ownerIds_nodup => exact hindexed.2
  case files_eq => exact hlisted.1
  case paths_nodup => exact hlisted.2

theorem ownerInfo_eq_ok {ownerId : String} {owner : OwnedNodeInfo}
    (hok : index.ownerInfo ownerId = .ok owner) :
    owner ∈ index.owners ∧ owner.id = ownerId := by
  unfold OwnershipIndex.ownerInfo at hok
  cases hfind : index.owners.find? fun owner => owner.id = ownerId with
  | none => simp [hfind, raiseValueError] at hok
  | some found =>
      have heq : found = owner := by simpa [hfind] using hok
      subst heq
      have hid := List.find?_some hfind
      exact ⟨List.mem_of_find?_eq_some hfind, by simpa using hid⟩

structure FileOwnerFacts (repository : Repository) (index : OwnershipIndex)
    (repositoryRelPath : String) (fileOwner : FileOwnerInfo) : Prop where
  index_eq : repository.buildOwnershipIndex = .ok index
  file_mem : fileOwner.fileInfo ∈ repository.getFiles
  path_eq : fileOwner.fileInfo.repositoryRelPath = repositoryRelPath
  ownerInfo_eq : index.ownerInfo fileOwner.owner.id = .ok fileOwner.owner
  ownerId_eq : fileOwner.owner.id = fileOwner.fileInfo.ownerId

/-- What the owner of a file is, from the index of the repository. -/
theorem getFileOwner_facts (hok : repository.getFileOwner repositoryRelPath = .ok fileOwner) :
    ∃ index, FileOwnerFacts repository index repositoryRelPath fileOwner := by
  unfold getFileOwner at hok
  rcases bind_eq_ok.mp hok with ⟨index, hindex, howner⟩
  have hfacts := buildOwnershipIndex_facts hindex
  unfold OwnershipIndex.ownerForFile at howner
  cases hfind : index.files.find? fun file => file.repositoryRelPath = repositoryRelPath with
  | none => simp [hfind, raiseValueError] at howner
  | some fileInfo =>
      simp only [hfind, bind_eq_ok, pure_eq_ok] at howner
      rcases howner with ⟨owner, hinfo, heq⟩
      have hfound := ownerInfo_eq_ok hinfo
      subst heq
      use index
      constructor
      case index_eq => exact hindex
      case file_mem =>
        rw [← hfacts.files_eq]
        exact List.mem_of_find?_eq_some hfind
      case path_eq =>
        have hpath := List.find?_some hfind
        simpa using hpath
      case ownerInfo_eq =>
        rw [hfound.2]
        exact hinfo
      case ownerId_eq => exact hfound.2

theorem componentNode_mem (hnodes : repository.ownerNodes = .ok nodes)
    (hcomponent : component ∈ repository.getComponents) :
    ⟨component.id, .component, component.name⟩ ∈ nodes := by
  unfold ownerNodes at hnodes
  rcases bind_eq_ok.mp hnodes with ⟨tests, -, hnodes⟩
  have heq := pure_eq_ok.mp hnodes
  subst heq
  simp only [List.mem_append, List.mem_map]
  exact .inl (.inl (.inl (.inl ⟨component, hcomponent, rfl⟩)))

theorem componentIds_nodup (hnodes : repository.ownerNodes = .ok nodes)
    (hdistinct : (nodes.map OwnedNodeInfo.id).Nodup) :
    (repository.getComponents.map Component.id).Nodup := by
  unfold ownerNodes at hnodes
  rcases bind_eq_ok.mp hnodes with ⟨tests, -, hnodes⟩
  have heq := pure_eq_ok.mp hnodes
  subst heq
  simp only [List.append_assoc, List.map_append, List.map_map] at hdistinct
  exact hdistinct.of_append_left

theorem FileOwnerFacts.owner_component
    (hfacts : FileOwnerFacts repository index repositoryRelPath fileOwner)
    (hcomponent : component ∈ repository.getComponents) (hid : component.id = fileOwner.owner.id) :
    fileOwner.owner.kind = .component ∧
      repository.getComponents.find? (fun item => item.id = fileOwner.owner.id) =
        some component := by
  have hindex := buildOwnershipIndex_facts hfacts.index_eq
  constructor
  · have hnode := componentNode_mem hindex.ownerNodes_eq hcomponent
    have howner := (ownerInfo_eq_ok hfacts.ownerInfo_eq).1
    have heq := List.inj_on_of_nodup_map hindex.ownerIds_nodup howner hnode hid.symm
    rw [heq]
  · have hcomponents := componentIds_nodup hindex.ownerNodes_eq hindex.ownerIds_nodup
    exact (leader?_eq_some_iff hcomponents).mpr ⟨hcomponent, hid⟩

theorem resolveTarget_file {resolved : ResolvedMinimumTarget}
    (hok : repository.resolveTarget (.file repositoryRelPath) = .ok resolved) :
    ∃ fileOwner, repository.getFileOwner repositoryRelPath = .ok fileOwner ∧
      resolved.targetKind = .file ∧ resolved.owner = fileOwner.owner ∧
        resolved.evidencePath = some repositoryRelPath := by
  unfold resolveTarget at hok
  simp only [bind_eq_ok, pure_eq_ok] at hok
  rcases hok with ⟨fileOwner, hfileOwner, component, -, files, -, heq⟩
  rcases getFileOwner_facts hfileOwner with ⟨index, hfacts⟩
  subst heq
  exact ⟨fileOwner, hfileOwner, rfl, rfl, by simp [hfacts.path_eq]⟩

theorem exists_resolveTarget_of_component
    (hok : repository.getFileOwner repositoryRelPath = .ok fileOwner)
    (hcomponent : component ∈ repository.getComponents) (hid : component.id = fileOwner.owner.id) :
    ∃ resolved, repository.resolveTarget (.file repositoryRelPath) = .ok resolved := by
  rcases getFileOwner_facts hok with ⟨index, hfacts⟩
  have howner := hfacts.owner_component hcomponent hid
  have hprimary :
      repository.primaryComponentForFile fileOwner.fileInfo.repositoryRelPath
        fileOwner.owner.id = .ok (some component) := by
    simp only [primaryComponentForFile, primaryComponentIdForFile, hfacts.index_eq, ok_bind,
      hfacts.ownerInfo_eq, howner.1, if_true]
    change repository.componentById (some fileOwner.owner.id) = _
    simp only [componentById, howner.2]
  have hfiles : ∃ files, repository.listFilesByOwner fileOwner.owner.id = .ok files := by
    simp only [listFilesByOwner, OwnershipIndex.filesForOwner, hfacts.index_eq, ok_bind,
      hfacts.ownerInfo_eq]
    exact ⟨_, rfl⟩
  rcases hfiles with ⟨files, hfiles⟩
  simp only [resolveTarget, hok, hprimary, hfiles, ok_bind]
  exact ⟨_, rfl⟩

end Repository

end SuitCode
