import SuitCode.CandidateIds
import SuitCode.EvidencePaths
import SuitCode.OwnershipFacts

/-!
# Requests about one file

Requests about a file go to the instances of its provider whose attachment root
holds the path, the file itself belongs to the instance which lists it.  With
nested attachments more than one root holds the path, and the answers of all of
them are put together.
-/

namespace SuitCode

open PosixText KeyedList ExceptList

/-! ## What the requests should do -/

namespace Provider

structure Lists (repository : Repository) (provider : Provider) (file : FileInfo) : Prop where
  file_mem : file ∈ provider.files
  owner_names : repository.providerIdForOwner file.ownerId = .ok provider.providerId
  within : Repository.attachmentContainsPath provider.attachmentRootRelPath
    file.repositoryRelPath = true
  normal : normalizeRepositoryRelativePath file.repositoryRelPath = .ok file.repositoryRelPath

/-- The answers of one instance about a path: ids made of the path, nothing twice, and
tests of its own. -/
structure AnswersApart (provider : Provider) (path : String) : Prop where
  symbolIds_nodup : ∀ symbols, provider.symbolsInFile path = .ok symbols →
    (symbols.map EntityInfo.id).Nodup
  symbolIds_name : ∀ symbols, provider.symbolsInFile path = .ok symbols →
    ∀ symbol ∈ symbols, ∃ entityKind rest,
      symbol.id = "entity:" ++ path ++ ":" ++ entityKind ++ ":" ++ rest
  locations_nodup : ∀ line column locations,
    provider.references path line column = .ok locations → locations.Nodup
  ownTests : ∀ related, provider.relatedTests (.file path) = .ok related →
    ∀ item ∈ related, ∃ test ∈ provider.discoveredTests,
      test.testDefinition.id = item.testDefinition.id

end Provider

namespace Repository

def attachedProviders (repository : Repository) (providerId path : String) : List Provider :=
  (repository.providersById providerId).filter fun provider =>
    attachmentContainsPath provider.attachmentRootRelPath path

/-- Requests about the path reach the one instance. -/
structure ReachesOnly (repository : Repository) (provider : Provider) (path : String) :
    Prop where
  routed : ∀ role ∈ repository.providerRoles provider.providerId,
    repository.providersForFileRole path role = .ok [provider]
  symbolIds_nodup : ∀ symbols, repository.listSymbolsInFile path = .ok symbols →
    (symbols.map EntityInfo.id).Nodup
  locations_nodup : ∀ line column locations,
    repository.findReferences path line column = .ok locations → locations.Nodup
  resolved : ∀ symbols, repository.listSymbolsInFile path = .ok symbols →
    ∀ symbol ∈ symbols, ∀ line column, symbol.lineStart = some line →
      symbol.columnStart = some column →
        repository.resolveSymbolTarget symbol.id = .ok (path, line, column)
  ownTests : ∀ related, repository.getRelatedTests (.file path) = .ok related →
    ∀ test ∈ related, test.discoveredTest ∈ provider.discoveredTests

/-- No other instance of the provider is attached around the path, and no colon of the
path breaks the ids of its symbols. -/
structure AttachedAlone (repository : Repository) (provider : Provider) (path : String) :
    Prop where
  alone : repository.attachedProviders provider.providerId path = [provider]
  colonFree : .code ∈ repository.providerRoles provider.providerId →
    ∀ symbols, provider.symbolsInFile path = .ok symbols →
      ∀ symbol ∈ symbols, symbol.lineStart.isSome → symbol.columnStart.isSome →
        ':' ∉ path.toList

/-! ## The owner of a listed file -/

theorem buildFileIndexes_owner_known
    {owners : List OwnedNodeInfo} {files rest result : List FileInfo}
    (hok : buildFileIndexes owners files rest = .ok result) {file : FileInfo}
    (hfile : file ∈ rest) : ∃ owner ∈ owners, owner.id = file.ownerId := by
  induction rest generalizing files with
  | nil => cases hfile
  | cons fileInfo rest ih =>
      unfold buildFileIndexes at hok
      by_cases howner : (!owners.any fun owner => owner.id = fileInfo.ownerId) = true
      · simp [howner, raiseValueError] at hok
      · rw [if_neg howner] at hok
        by_cases hseen : files.any
            (fun file => file.repositoryRelPath = fileInfo.repositoryRelPath) = true
        · simp [hseen, raiseValueError] at hok
        · rw [if_neg hseen] at hok
          rcases List.mem_cons.mp hfile with rfl | htail
          · simpa using howner
          · exact ih hok htail

theorem getFileOwner_of_mem
    {repository : Repository} {index : OwnershipIndex} {file : FileInfo}
    (hindex : repository.buildOwnershipIndex = .ok index) (hfile : file ∈ repository.getFiles) :
    ∃ owner, repository.getFileOwner file.repositoryRelPath = .ok ⟨file, owner⟩ ∧
      owner.id = file.ownerId := by
  have hfacts := buildOwnershipIndex_facts hindex
  have hknown : ∃ owner ∈ index.owners, owner.id = file.ownerId := by
    unfold buildOwnershipIndex at hindex
    simp only [bind_eq_ok, pure_eq_ok] at hindex
    obtain ⟨nodes, -, owners, -, files, hfiles, rfl⟩ := hindex
    exact buildFileIndexes_owner_known hfiles hfile
  obtain ⟨owner, howner, hid⟩ := hknown
  have hlisted : index.files.find? (fun item =>
      item.repositoryRelPath = file.repositoryRelPath) = some file := by
    have hmem : file ∈ index.files := by rwa [hfacts.files_eq]
    exact (leader?_eq_some_iff hfacts.paths_nodup).mpr ⟨hmem, rfl⟩
  have hinfo : index.ownerInfo file.ownerId = .ok owner := by
    have hleader := (leader?_eq_some_iff hfacts.ownerIds_nodup).mpr ⟨howner, hid⟩
    have hfind : index.owners.find? (fun owner => owner.id = file.ownerId) = some owner :=
      hleader
    unfold OwnershipIndex.ownerInfo
    rw [hfind]
  use owner
  constructor
  · simp only [getFileOwner, hindex, ok_bind, OwnershipIndex.ownerForFile, hlisted, hinfo]
    rfl
  · exact hid

theorem exists_ownerFiles
    {repository : Repository} {index : OwnershipIndex} {file : FileInfo}
    (hindex : repository.buildOwnershipIndex = .ok index) (hfile : file ∈ repository.getFiles) :
    ∃ ownerFiles, repository.listFilesByOwner file.ownerId = .ok ownerFiles ∧
      file ∈ ownerFiles := by
  have hfacts := buildOwnershipIndex_facts hindex
  obtain ⟨owner, howner, hid⟩ := getFileOwner_of_mem hindex hfile
  obtain ⟨other, hother⟩ := getFileOwner_facts howner
  have hsame : index = other := Except.ok.inj (hindex.symm.trans hother.index_eq)
  have hinfo : index.ownerInfo file.ownerId = .ok owner := by
    have hinfo := hother.ownerInfo_eq
    rwa [← hsame, hid] at hinfo
  refine ⟨sortedBy FileInfo.repositoryRelPath
    (index.files.filter fun item => item.ownerId = file.ownerId), ?_, ?_⟩
  · simp only [listFilesByOwner, hindex, ok_bind, OwnershipIndex.filesForOwner, hinfo]
    rfl
  · rw [hfacts.files_eq]
    simp [hfile]

/-! ## Where requests go -/

theorem orAll_of_mem {matched providers : List Provider} {provider : Provider}
    (hmem : provider ∈ matched) : orAll matched providers = matched := by
  unfold orAll
  cases matched with
  | nil => cases hmem
  | cons head tail => rfl

theorem providersForFileRole_eq
    {repository : Repository} {index : OwnershipIndex} {provider : Provider} {file : FileInfo}
    (hindex : repository.buildOwnershipIndex = .ok index)
    (hprovider : provider ∈ repository.providersForRole .architecture)
    (hlists : provider.Lists repository file) (role : ProviderRole) :
    repository.providersForFileRole file.repositoryRelPath role =
      .ok (if role ∈ repository.providerRoles provider.providerId then
        repository.attachedProviders provider.providerId file.repositoryRelPath
      else
        []) := by
  have hfile : file ∈ repository.getFiles := by
    simp only [getFiles, mem_sortedBy, List.mem_flatMap]
    exact ⟨provider, hprovider, hlists.file_mem⟩
  obtain ⟨owner, howner, hid⟩ := getFileOwner_of_mem hindex hfile
  have hinstance : provider ∈ repository.providersById provider.providerId := by
    simp [providersById, List.mem_of_mem_filter hprovider]
  have hattached : provider ∈
      repository.attachedProviders provider.providerId file.repositoryRelPath :=
    List.mem_filter.mpr ⟨hinstance, hlists.within⟩
  simp only [providersForFileRole, providersForOwnerRole, howner, ok_bind, hid,
    hlists.owner_names]
  by_cases hrole : role ∈ repository.providerRoles provider.providerId
  · simp only [hrole, not_true_eq_false, if_false, if_true]
    by_cases hlength : (repository.providersById provider.providerId).length ≤ 1
    · simp only [hlength, if_true]
      exact congrArg Except.ok (orAll_of_mem hattached)
    · obtain ⟨ownerFiles, hownerFiles, hmem⟩ := exists_ownerFiles hindex hfile
      have hnonempty : ownerFiles.isEmpty = false := by
        cases ownerFiles with
        | nil => cases hmem
        | cons head tail => rfl
      have haround : ∀ item : Provider, attachmentContainsPath item.attachmentRootRelPath
          file.repositoryRelPath = true → ownerFiles.any (fun owned =>
            attachmentContainsPath item.attachmentRootRelPath owned.repositoryRelPath) =
              true := by
        intro item hitem
        exact List.any_eq_true.mpr ⟨file, hmem, hitem⟩
      have hmatched : provider ∈ (repository.providersById provider.providerId).filter
          fun item => ownerFiles.any fun owned =>
            attachmentContainsPath item.attachmentRootRelPath owned.repositoryRelPath :=
        List.mem_filter.mpr ⟨hinstance, haround provider hlists.within⟩
      simp only [hlength, if_false, hownerFiles, ok_bind, hnonempty, Bool.false_eq_true,
        orAll_of_mem hmatched]
      have hnarrowed : ((repository.providersById provider.providerId).filter
          fun item => ownerFiles.any fun owned =>
            attachmentContainsPath item.attachmentRootRelPath owned.repositoryRelPath).filter
              (fun item => attachmentContainsPath item.attachmentRootRelPath
                file.repositoryRelPath) =
          repository.attachedProviders provider.providerId file.repositoryRelPath := by
        rw [List.filter_filter, attachedProviders]
        apply List.filter_congr
        intro item _
        cases hitem : attachmentContainsPath item.attachmentRootRelPath
          file.repositoryRelPath with
        | false => rfl
        | true => rw [haround item hitem, Bool.and_self]
      have hpure : ∀ providers : List Provider,
          (pure providers : PyResult (List Provider)) = .ok providers := fun _ => rfl
      simp only [hpure, ok_bind, hnarrowed, orAll_of_mem hattached]
  · simp only [hrole, not_false_eq_true, if_true, if_false]
    rfl

/-! ## Symbol ids and paths -/

theorem exists_two_pieces {chars : List Char} (hcolon : ':' ∈ chars) :
    ∃ first second rest, chars.splitOn ':' = first :: second :: rest := by
  obtain ⟨before, after, rfl, hbefore⟩ := List.eq_append_cons_of_mem hcolon
  obtain ⟨second, rest, hrest⟩ := List.exists_cons_of_ne_nil (List.splitOn_ne_nil ':' after)
  exact ⟨before, second, rest, by rw [List.splitOn_append_cons_self_of_not_mem hbefore, hrest]⟩

theorem symbolIdPath_eq (path entityKind rest : String) :
    symbolIdPath ("entity:" ++ path ++ ":" ++ entityKind ++ ":" ++ rest) =
      .ok (String.ofList (path.toList.takeWhile (· ≠ ':'))) := by
  have htag : startsWith ("entity:" ++ path ++ ":" ++ entityKind ++ ":" ++ rest) "entity:" =
      true := by
    simp [startsWith]
  have htaken : ':' ∉ path.toList.takeWhile (· ≠ ':') := by
    intro hmem
    simpa using List.mem_takeWhile_imp hmem
  have hpieces : ∃ third fourth more,
      ("entity:" ++ path ++ ":" ++ entityKind ++ ":" ++ rest).toList.splitOn ':' =
        "entity".toList :: path.toList.takeWhile (· ≠ ':') :: third :: fourth :: more := by
    have hstart : ("entity:" ++ path ++ ":" ++ entityKind ++ ":" ++ rest).toList =
        "entity".toList ++ ':' :: (path.toList ++ ':' ::
          (entityKind.toList ++ ':' :: rest.toList)) := by
      simp
    rw [hstart, List.splitOn_append_cons_self_of_not_mem (by decide)]
    by_cases hcolon : ':' ∈ path.toList
    · obtain ⟨before, after, hpath, hbefore⟩ := List.eq_append_cons_of_mem hcolon
      have hbefore' : path.toList.takeWhile (· ≠ ':') = before := by
        have hkept : ∀ c ∈ before, decide (c ≠ ':') = true := by
          intro c hc
          have hne : c ≠ ':' := fun h => hbefore (h ▸ hc)
          simpa using hne
        rw [hpath, List.takeWhile_append_of_pos hkept]
        simp
      have hcolons : ':' ∈ after ++ ':' :: (entityKind.toList ++ ':' :: rest.toList) := by
        simp
      obtain ⟨third, fourth, more, hmore⟩ := exists_two_pieces hcolons
      refine ⟨third, fourth, more, ?_⟩
      rw [hbefore', hpath, List.append_assoc, List.cons_append,
        List.splitOn_append_cons_self_of_not_mem hbefore, hmore]
    · have hall : path.toList.takeWhile (· ≠ ':') = path.toList := by
        rw [List.takeWhile_eq_self_iff]
        intro c hc
        have hne : c ≠ ':' := fun h => hcolon (h ▸ hc)
        simpa using hne
      have hcolons : ':' ∈ entityKind.toList ++ ':' :: rest.toList := by simp
      obtain ⟨third, fourth, more, hmore⟩ := exists_two_pieces hcolons
      refine ⟨third, fourth, more, ?_⟩
      rw [hall, List.splitOn_append_cons_self_of_not_mem hcolon, hmore]
  obtain ⟨third, fourth, more, hmore⟩ := hpieces
  unfold symbolIdPath
  rw [htag, hmore]
  rfl

theorem colon_mem_of_normalized {text path : String}
    (hpath : normalizeRepositoryRelativePath text = .ok path) (hmem : ':' ∈ path.toList) :
    ':' ∈ text.toList := by
  obtain ⟨hstored, hslash, -⟩ := normalizeRepositoryRelativePath_eq_ok.mp hpath
  have hroot : startsWith (removePrefix "./" (strip (replaceChar '\\' '/' text))) "/" =
      false := by
    by_contra h
    rw [Bool.not_eq_false] at h
    have hstart := startsWith_slash_purePosixPath h
    rw [← hstored, hslash] at hstart
    cases hstart
  rw [hstored] at hmem
  rcases mem_toList_purePosixPath hroot hmem with hmem | hmem | hmem
  · have hreplaced := mem_of_mem_strip (mem_of_mem_removePrefix hmem)
    rw [toList_replaceChar, List.mem_map] at hreplaced
    obtain ⟨c, hc, heq⟩ := hreplaced
    by_cases hback : c = '\\'
    · simp [hback] at heq
    · rw [if_neg hback] at heq
      rw [← heq]
      exact hc
  · cases hmem
  · cases hmem

theorem colon_not_mem_of_symbolIdPath
    {symbolId part path : String} (hpart : symbolIdPath symbolId = .ok part)
    (hpath : normalizeRepositoryRelativePath part = .ok path) : ':' ∉ path.toList := by
  have hpiece : ':' ∉ part.toList := by
    unfold symbolIdPath at hpart
    split at hpart
    · simp at hpart
    · split at hpart
      · next hpieces =>
          rw [Except.ok.injEq] at hpart
          have hmem : part ∈ (symbolId.toList.splitOn ':').map String.ofList := by
            rw [hpieces, ← hpart]
            simp
          obtain ⟨chars, hchars, rfl⟩ := List.mem_map.mp hmem
          simpa using not_mem_of_mem_splitOn hchars
      · simp at hpart
  intro hmem
  exact hpiece (colon_mem_of_normalized hpath hmem)

/-! ## Answers of one instance -/

theorem collectAnswers_singleton
    {α : Type} {answer : Provider → PyResult (List α)} {provider : Provider} {items : List α}
    (hok : collectAnswers answer [provider] = .ok items) :
    answer provider = .ok items ∨ items = [] := by
  unfold collectAnswers at hok
  split at hok
  · next found hfound =>
      simp only [collectAnswers, ok_bind, pure_eq_ok, List.append_nil] at hok
      exact .inl (by rw [hfound, hok])
  · exact .inr (by simpa [collectAnswers] using hok.symm)
  · cases hok

theorem discoveredIds_nodup
    {repository : Repository} {index : OwnershipIndex}
    {discovered : List DiscoveredTestDefinition}
    (hfacts : OwnershipIndexFacts repository index)
    (hdiscovered : repository.getDiscoveredTests = .ok discovered) :
    (discovered.map fun test => test.testDefinition.id).Nodup := by
  have hnodes := hfacts.ownerNodes_eq
  simp only [ownerNodes, getTests, hdiscovered, ok_bind, bind_eq_ok, pure_eq_ok,
    exists_eq_left'] at hnodes
  have hdistinct := hfacts.ownerIds_nodup
  rw [← hnodes] at hdistinct
  simp only [List.map_append, List.map_map] at hdistinct
  exact hdistinct.of_append_right

section OneFile

variable {repository : Repository} {index : OwnershipIndex} {provider : Provider}
  {file : FileInfo}
  (hindex : repository.buildOwnershipIndex = .ok index)
  (hprovider : provider ∈ repository.providersForRole .architecture)
  (hlists : provider.Lists repository file)
include hindex hprovider hlists

theorem providersForFileRole_of_alone
    (halone : repository.attachedProviders provider.providerId file.repositoryRelPath =
      [provider]) (role : ProviderRole) :
    repository.providersForFileRole file.repositoryRelPath role =
      .ok (if role ∈ repository.providerRoles provider.providerId then [provider] else []) := by
  rw [providersForFileRole_eq hindex hprovider hlists role, halone]

theorem listSymbolsInFile_of_alone
    (halone : repository.attachedProviders provider.providerId file.repositoryRelPath =
      [provider]) {symbols : List EntityInfo}
    (hok : repository.listSymbolsInFile file.repositoryRelPath = .ok symbols) :
    symbols = [] ∨ (.code ∈ repository.providerRoles provider.providerId ∧
      ∃ own, provider.symbolsInFile file.repositoryRelPath = .ok own ∧
        symbols = sortedBy symbolSortKey own) := by
  simp only [listSymbolsInFile, hlists.normal, ok_bind,
    providersForFileRole_of_alone hindex hprovider hlists halone, bind_eq_ok, pure_eq_ok] at hok
  obtain ⟨items, hitems, rfl⟩ := hok
  by_cases hcode : .code ∈ repository.providerRoles provider.providerId
  · rw [if_pos hcode] at hitems
    rcases collectAnswers_singleton hitems with hown | rfl
    · exact .inr ⟨hcode, items, hown, rfl⟩
    · exact .inl rfl
  · rw [if_neg hcode] at hitems
    have hnil : items = [] := by simpa [collectAnswers] using hitems.symm
    subst hnil
    exact .inl rfl

theorem findReferences_nodup
    (hanswers : provider.AnswersApart file.repositoryRelPath)
    (halone : repository.attachedProviders provider.providerId file.repositoryRelPath =
      [provider]) {line column : ℕ} {locations : List CodeLocation}
    (hok : repository.findReferences file.repositoryRelPath line column = .ok locations) :
    locations.Nodup := by
  simp only [findReferences, hlists.normal, ok_bind,
    providersForFileRole_of_alone hindex hprovider hlists halone, bind_eq_ok, pure_eq_ok] at hok
  obtain ⟨items, hitems, rfl⟩ := hok
  rw [(sortedBy_perm locationSortKey items).nodup_iff]
  by_cases hcode : .code ∈ repository.providerRoles provider.providerId
  · rw [if_pos hcode] at hitems
    rcases collectAnswers_singleton hitems with hown | rfl
    · exact hanswers.locations_nodup line column items hown
    · exact List.nodup_nil
  · rw [if_neg hcode] at hitems
    have hnil : items = [] := by simpa [collectAnswers] using hitems.symm
    rw [hnil]
    exact List.nodup_nil

omit hindex hprovider in
theorem resolveSymbolTarget_of_listed
    (hanswers : provider.AnswersApart file.repositoryRelPath)
    {symbols own : List EntityInfo}
    (hown : provider.symbolsInFile file.repositoryRelPath = .ok own)
    (hsymbols : repository.listSymbolsInFile file.repositoryRelPath = .ok symbols)
    (hsorted : symbols = sortedBy symbolSortKey own)
    {symbol : EntityInfo} (hsymbol : symbol ∈ symbols) {line column : ℕ}
    (hline : symbol.lineStart = some line) (hcolumn : symbol.columnStart = some column)
    (hcolon : ':' ∉ file.repositoryRelPath.toList) :
    repository.resolveSymbolTarget symbol.id = .ok (file.repositoryRelPath, line, column) := by
  have hmem : symbol ∈ own := by
    rw [hsorted, mem_sortedBy] at hsymbol
    exact hsymbol
  obtain ⟨entityKind, rest, hid⟩ := hanswers.symbolIds_name own hown symbol hmem
  have hpart : symbolIdPath symbol.id = .ok file.repositoryRelPath := by
    have hall : file.repositoryRelPath.toList.takeWhile (· ≠ ':') =
        file.repositoryRelPath.toList := by
      rw [List.takeWhile_eq_self_iff]
      intro c hc
      have hne : c ≠ ':' := fun h => hcolon (h ▸ hc)
      simpa using hne
    rw [hid, symbolIdPath_eq, hall, String.ofList_toList]
  have hnodup : (symbols.map EntityInfo.id).Nodup := by
    rw [hsorted, ((sortedBy_perm symbolSortKey own).map EntityInfo.id).nodup_iff]
    exact hanswers.symbolIds_nodup own hown
  have honly : symbols.filter (fun item => item.id = symbol.id) = [symbol] := by
    exact filter_key_eq_singleton hnodup hsymbol
  have hmatches : repository.symbolMatches symbol.id file.repositoryRelPath = .ok [symbol] := by
    simp only [symbolMatches, hsymbols, ok_bind, honly, List.isEmpty_cons, Bool.false_eq_true,
      if_false]
    rfl
  simp only [resolveSymbolTarget, hpart, hlists.normal, hmatches, ok_bind, theOnlyMatch, hline,
    hcolumn]
  rfl

theorem relatedTests_of_alone
    (hanswers : provider.AnswersApart file.repositoryRelPath)
    (halone : repository.attachedProviders provider.providerId file.repositoryRelPath =
      [provider]) {related : List ResolvedRelatedTest}
    (hok : repository.getRelatedTests (.file file.repositoryRelPath) = .ok related)
    {test : ResolvedRelatedTest} (htest : test ∈ related) :
    test.discoveredTest ∈ provider.discoveredTests := by
  simp only [getRelatedTests, testProvidersFor, bind_eq_ok, pure_eq_ok,
    providersForFileRole_of_alone hindex hprovider hlists halone, Except.ok.injEq,
    exists_eq_left'] at hok
  obtain ⟨discovered, hdiscovered, items, hitems, rfl⟩ := hok
  rw [mem_sortedBy, List.mem_flatten] at htest
  obtain ⟨resolved, hresolved, htest⟩ := htest
  obtain ⟨source, hsource, hrun⟩ := exists_input_of_mem hitems hresolved
  have htestRole : .test ∈ repository.providerRoles provider.providerId := by
    by_contra hrole
    simp [hrole] at hsource
  rw [if_pos htestRole, List.mem_singleton] at hsource
  subst hsource
  simp only [bind_eq_ok] at hrun
  obtain ⟨related, hrelated, hrun⟩ := hrun
  obtain ⟨item, hitem, hresolve⟩ := exists_input_of_mem hrun htest
  obtain ⟨own, hown, hownId⟩ := hanswers.ownTests related hrelated item hitem
  have hmem := Repository.resolveRelatedTest_mem hresolve
  have hid : test.discoveredTest.testDefinition.id = item.testDefinition.id := by
    unfold resolveRelatedTest at hresolve
    split at hresolve
    · next found hfound =>
        rw [Except.ok.injEq] at hresolve
        rw [← hresolve]
        simpa using List.find?_some hfound
    · simp at hresolve
  have hownListed : own ∈ discovered := by
    simp only [getDiscoveredTests, discoveredTestIndex, bind_eq_ok, pure_eq_ok] at hdiscovered
    obtain ⟨entries, hentries, rfl⟩ := hdiscovered
    rw [mem_sortedBy, indexDiscoveredTests_eq hentries]
    apply List.mem_map.mpr
    refine ⟨(own, source), List.mem_flatMap.mpr ⟨source, ?_, List.mem_map_of_mem hown⟩, rfl⟩
    exact List.mem_filter.mpr ⟨List.mem_of_mem_filter hprovider, by simpa using htestRole⟩
  have hnodup := discoveredIds_nodup (buildOwnershipIndex_facts hindex) hdiscovered
  have hsame := List.inj_on_of_nodup_map hnodup hmem hownListed (hid.trans hownId.symm)
  rw [hsame]
  exact hown

theorem colonFree_of_resolved
    (halone : repository.attachedProviders provider.providerId file.repositoryRelPath =
      [provider]) (hcode : .code ∈ repository.providerRoles provider.providerId)
    (hreaches : repository.ReachesOnly provider file.repositoryRelPath)
    {own : List EntityInfo} (hown : provider.symbolsInFile file.repositoryRelPath = .ok own)
    {symbol : EntityInfo} (hsymbol : symbol ∈ own) (hline : symbol.lineStart.isSome)
    (hcolumn : symbol.columnStart.isSome) : ':' ∉ file.repositoryRelPath.toList := by
  obtain ⟨line, hline⟩ := Option.isSome_iff_exists.mp hline
  obtain ⟨column, hcolumn⟩ := Option.isSome_iff_exists.mp hcolumn
  have hlisted : repository.listSymbolsInFile file.repositoryRelPath =
      .ok (sortedBy symbolSortKey own) := by
    have hcollected : collectAnswers
        (fun provider => provider.symbolsInFile file.repositoryRelPath) [provider] = .ok own := by
      simp [collectAnswers, hown]
    simp only [listSymbolsInFile, hlists.normal, ok_bind,
      providersForFileRole_of_alone hindex hprovider hlists halone, if_pos hcode, hcollected]
    rfl
  have hresolved := hreaches.resolved _ hlisted symbol (mem_sortedBy.mpr hsymbol) line column
    hline hcolumn
  unfold resolveSymbolTarget at hresolved
  obtain ⟨part, hpart, hresolved⟩ := bind_eq_ok.mp hresolved
  obtain ⟨path, hpath, hresolved⟩ := bind_eq_ok.mp hresolved
  obtain ⟨candidates, -, hresolved⟩ := bind_eq_ok.mp hresolved
  obtain ⟨found, -, hfound⟩ := bind_eq_ok.mp hresolved
  have heq : path = file.repositoryRelPath := by
    split at hfound
    · rw [pure_eq_ok, Prod.mk.injEq] at hfound
      exact hfound.1
    · simp at hfound
  rw [heq] at hpath
  exact colon_not_mem_of_symbolIdPath hpart hpath

/-- Requests about a listed file reach only the instance which lists it exactly when no
other instance of the provider is attached around the path. -/
theorem reachesOnly_iff (hanswers : provider.AnswersApart file.repositoryRelPath) :
    repository.ReachesOnly provider file.repositoryRelPath ↔
      repository.AttachedAlone provider file.repositoryRelPath := by
  constructor
  · intro hreaches
    have harchitecture : .architecture ∈ repository.providerRoles provider.providerId := by
      simpa using (List.mem_filter.mp hprovider).2
    have halone : repository.attachedProviders provider.providerId file.repositoryRelPath =
        [provider] := by
      have hrouted := hreaches.routed .architecture harchitecture
      rw [providersForFileRole_eq hindex hprovider hlists, if_pos harchitecture,
        Except.ok.injEq] at hrouted
      exact hrouted
    constructor
    case alone => exact halone
    case colonFree =>
      intro hcode own hown symbol hsymbol hline hcolumn
      exact colonFree_of_resolved hindex hprovider hlists halone hcode hreaches hown hsymbol
        hline hcolumn
  · intro hattached
    have halone := hattached.alone
    constructor
    case routed =>
      intro role hrole
      rw [providersForFileRole_of_alone hindex hprovider hlists halone, if_pos hrole]
    case symbolIds_nodup =>
      intro symbols hsymbols
      rcases listSymbolsInFile_of_alone hindex hprovider hlists halone hsymbols with
        rfl | ⟨-, own, hown, rfl⟩
      · exact List.nodup_nil
      · rw [((sortedBy_perm symbolSortKey own).map EntityInfo.id).nodup_iff]
        exact hanswers.symbolIds_nodup own hown
    case locations_nodup =>
      intro line column locations hlocations
      exact findReferences_nodup hindex hprovider hlists hanswers halone hlocations
    case resolved =>
      intro symbols hsymbols symbol hsymbol line column hline hcolumn
      rcases listSymbolsInFile_of_alone hindex hprovider hlists halone hsymbols with
        rfl | ⟨hcode, own, hown, hsorted⟩
      · cases hsymbol
      · have hmem : symbol ∈ own := by rwa [hsorted, mem_sortedBy] at hsymbol
        have hcolon := hattached.colonFree hcode own hown symbol hmem (by simp [hline])
          (by simp [hcolumn])
        exact resolveSymbolTarget_of_listed hlists hanswers hown hsymbols hsorted hsymbol hline
          hcolumn hcolon
    case ownTests =>
      intro related hrelated test htest
      exact relatedTests_of_alone hindex hprovider hlists hanswers halone hrelated htest

end OneFile

end Repository

namespace RoutingSample

def outer : Provider :=
  { providerId := "python" }

def component : Component :=
  { id := "component:python:app"
    name := "app"
    componentKind := .package
    language := .python
    sourceRoots := ["sub/app"]
    artifactPaths := []
    provenance := [] }

def file : FileInfo :=
  { id := "file:sub/app/main.py"
    name := "sub/app/main.py"
    repositoryRelPath := "sub/app/main.py"
    language := some .python
    ownerId := "component:python:app"
    provenance := [] }

def inner : Provider :=
  { providerId := "python"
    attachmentRootRelPath := "sub"
    components := [component]
    files := [file] }

def repository : Repository :=
  ⟨"/w", [outer, inner], fun _ => [.architecture, .code, .test, .quality]⟩

theorem inner_mem : inner ∈ repository.providersForRole .architecture := by
  simp [Repository.providersForRole, repository]

theorem exists_index : ∃ index, repository.buildOwnershipIndex = .ok index := by
  have hbuilds : repository.buildOwnershipIndex.isOk = true := by
    decide
  cases hindex : repository.buildOwnershipIndex with
  | error exception =>
      rw [hindex] at hbuilds
      cases hbuilds
  | ok index => exact ⟨index, rfl⟩

theorem inner_lists : inner.Lists repository file := by
  constructor
  case file_mem => exact List.mem_singleton_self _
  case owner_names => decide
  case within => decide
  case normal => decide

theorem inner_answersApart : inner.AnswersApart file.repositoryRelPath := by
  constructor
  case symbolIds_nodup =>
    rintro symbols ⟨⟩
    exact List.nodup_nil
  case symbolIds_name =>
    rintro symbols ⟨⟩ symbol hsymbol
    cases hsymbol
  case locations_nodup =>
    rintro line column locations ⟨⟩
    exact List.nodup_nil
  case ownTests =>
    rintro related ⟨⟩ item hitem
    cases hitem

end RoutingSample

/-- Nested attachments share the requests about a file of the inner one. -/
theorem requests_reach_outer_attachment :
    ¬ ∀ (repository : Repository) (index : Repository.OwnershipIndex) (provider : Provider)
        (file : FileInfo),
      repository.buildOwnershipIndex = .ok index →
        provider ∈ repository.providersForRole .architecture →
          provider.Lists repository file →
            provider.AnswersApart file.repositoryRelPath →
              repository.ReachesOnly provider file.repositoryRelPath := by
  intro hall
  obtain ⟨index, hindex⟩ := RoutingSample.exists_index
  have hreaches := hall RoutingSample.repository index RoutingSample.inner RoutingSample.file
    hindex RoutingSample.inner_mem RoutingSample.inner_lists RoutingSample.inner_answersApart
  have hrouted := hreaches.routed .code (by decide)
  have hroots : (List.map Provider.attachmentRootRelPath) <$>
      RoutingSample.repository.providersForFileRole RoutingSample.file.repositoryRelPath .code =
        .ok [".", "sub"] := by
    decide
  rw [hrouted, map_eq_ok] at hroots
  obtain ⟨found, hfound, hmap⟩ := hroots
  rw [Except.ok.injEq] at hfound
  rw [← hfound] at hmap
  simpa using congrArg List.length hmap

/-- The characterization at the file of the inner attachment. -/
theorem reachesOnly_iff_inner :
    ∃ index, RoutingSample.repository.buildOwnershipIndex = .ok index ∧
      (RoutingSample.repository.ReachesOnly RoutingSample.inner
          RoutingSample.file.repositoryRelPath ↔
        RoutingSample.repository.AttachedAlone RoutingSample.inner
          RoutingSample.file.repositoryRelPath) := by
  obtain ⟨index, hindex⟩ := RoutingSample.exists_index
  exact ⟨index, hindex, Repository.reachesOnly_iff hindex RoutingSample.inner_mem
    RoutingSample.inner_lists RoutingSample.inner_answersApart⟩

end SuitCode
