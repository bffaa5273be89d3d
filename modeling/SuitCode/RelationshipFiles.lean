import SuitCode.CodeQueries

/-!
# The files which relationships name

The relationships of a file are those its providers answer.  Without an answer they
are projected from the dependencies of its component to the artifact paths of other
components, which may be directories.
-/

namespace SuitCode

open PosixText KeyedList KeyedTable ExceptList

namespace Repository

def Owned (repository : Repository) (path : String) : Prop :=
  ∃ file ∈ repository.getFiles, file.repositoryRelPath = path

/-- The relationships name owned files besides the file itself. -/
def NamesFiles (repository : Repository) (path : String)
    (items : List FileRelationshipRef) : Prop :=
  ∀ item ∈ items, repository.Owned item.repositoryRelPath ∧ item.repositoryRelPath ≠ path

def ProvidersNameFiles (repository : Repository) (path : String)
    (evidenceTier : CodeEvidenceTier) : Prop :=
  ∀ provider ∈ repository.providers, ∀ items,
    provider.relationshipsOfTier evidenceTier path = .ok items →
      repository.NamesFiles path items

/-! ## What is projected -/

/-- The providers answer a relationship of the wanted kind themselves. -/
def ProvidersAnswer (repository : Repository) (path : String)
    (relationshipKind : Option FileRelationshipKind) (evidenceTier : CodeEvidenceTier) :
    Prop :=
  ∃ items, repository.codeAnswers path (Provider.relationshipsOfTier evidenceTier) =
      .ok items ∧
    ∃ item ∈ items, relationshipKind.all fun kind => item.relationshipKind = kind

def ImportsFrom (repository : Repository) (primaryComponent component : Component) : Prop :=
  ∃ dependencies,
    repository.getComponentDependencies primaryComponent.id = .ok dependencies ∧
      ∃ dependency ∈ dependencies, dependency.targetKind = .component ∧
        repository.componentWithId dependency.targetId = some component

def ImportedBy (repository : Repository) (primaryComponent component : Component) : Prop :=
  ∃ dependents, repository.getComponentDependents primaryComponent.id = .ok dependents ∧
    ∃ dependentId ∈ dependents, repository.componentWithId dependentId = some component ∧
      ∃ edges, repository.componentDependencyEdgesOf dependentId = .ok edges ∧
        ∃ edge ∈ edges, edge.targetKind = .component ∧ edge.targetId = primaryComponent.id

/-- A component to whose artifacts the relationships of the file are projected. -/
def ProjectsTo (repository : Repository) (path : String)
    (relationshipKind : Option FileRelationshipKind) (component : Component) : Prop :=
  ∃ fileOwner primaryComponent,
    repository.getFileOwner path = .ok fileOwner ∧
      repository.primaryComponentForFile path fileOwner.owner.id =
          .ok (some primaryComponent) ∧
        (((relationshipKind.all fun kind => kind = .imports) ∧
            repository.ImportsFrom primaryComponent component) ∨
          ((relationshipKind.all fun kind => kind = .importedBy) ∧
            repository.ImportedBy primaryComponent component))

/-- The artifact paths of the components projected to are owned files. -/
def ProjectedArtifactsOwned (repository : Repository) (path : String)
    (relationshipKind : Option FileRelationshipKind) : Prop :=
  ∀ component, repository.ProjectsTo path relationshipKind component →
    ∀ artifactPath ∈ component.artifactPaths, artifactPath ≠ path →
      repository.Owned artifactPath

end Repository

/-! ## Merged relationships -/

theorem mem_keys_foldl_upsertRows {α κ : Type} [DecidableEq κ] (key : α → κ)
    {before items : List α} {wanted : κ} :
    wanted ∈ (items.foldl (fun rows item => upsertRows key item rows) before).map key ↔
      wanted ∈ before.map key ∨ wanted ∈ items.map key := by
  induction items generalizing before with
  | nil => simp
  | cons item items ih =>
      rw [List.foldl_cons, ih, map_key_upsertRows, List.map_cons, List.mem_cons]
      by_cases hmem : key item ∈ before.map key
      · rw [if_pos hmem]
        constructor
        · rintro (hbefore | hitems)
          · exact .inl hbefore
          · exact .inr (.inr hitems)
        · rintro (hbefore | heq | hitems)
          · exact .inl hbefore
          · exact .inl (heq ▸ hmem)
          · exact .inr hitems
      · rw [if_neg hmem, List.mem_append, List.mem_singleton]
        tauto

section Snoc

variable {α κ : Type} [DecidableEq κ] {key : α → κ} {merge : α → α → α} {items : List α} {item : α}

theorem mergedByKey_snoc_of_none
    (hfree : leader? key (mergedByKey key merge items) (key item) = none) :
    mergedByKey key merge (items ++ [item]) = mergedByKey key merge items ++ [item] := by
  unfold mergedByKey at hfree ⊢
  simp only [List.foldl_append, List.foldl_cons, List.foldl_nil, hfree]

theorem mergedByKey_snoc_of_some {kept : α}
    (hkept : leader? key (mergedByKey key merge items) (key item) = some kept) :
    mergedByKey key merge (items ++ [item]) =
      upsertRows key (merge kept item) (mergedByKey key merge items) := by
  unfold mergedByKey at hkept ⊢
  simp only [List.foldl_append, List.foldl_cons, List.foldl_nil, hkept]

end Snoc

theorem mem_keys_mergedByKey {α κ : Type} [DecidableEq κ] {key : α → κ} {merge : α → α → α}
    (hmerge : ∀ kept item, key (merge kept item) = key item) {items : List α} {wanted : κ} :
    wanted ∈ (mergedByKey key merge items).map key ↔ wanted ∈ items.map key := by
  induction items using List.reverseRecOn with
  | nil => rfl
  | append_singleton items item ih =>
      rw [List.map_append, List.mem_append, ← ih, List.map_singleton, List.mem_singleton]
      cases hkept : leader? key (mergedByKey key merge items) (key item) with
      | none =>
          rw [mergedByKey_snoc_of_none hkept, List.map_append, List.mem_append,
            List.map_singleton, List.mem_singleton]
      | some kept =>
          have hmem : key item ∈ (mergedByKey key merge items).map key :=
            List.mem_map.mpr ⟨kept, leader?_mem hkept, leader?_key hkept⟩
          simp only [mergedByKey_snoc_of_some hkept, map_key_upsertRows, hmerge, if_pos hmem]
          constructor
          · exact .inl
          · rintro (hbefore | rfl)
            · exact hbefore
            · exact hmem

theorem exists_path_congr
    {items others : List FileRelationshipRef}
    (hkeys : ∀ wanted,
      wanted ∈ items.map fileRelationshipKey ↔ wanted ∈ others.map fileRelationshipKey)
    (target : String) :
    (∃ item ∈ items, item.repositoryRelPath = target) ↔
      ∃ item ∈ others, item.repositoryRelPath = target := by
  have hpaths : ∀ rows : List FileRelationshipRef,
      (∃ item ∈ rows, item.repositoryRelPath = target) ↔
        ∃ wanted ∈ rows.map fileRelationshipKey, wanted.2 = target := by
    intro rows
    simp [fileRelationshipKey]
  rw [hpaths, hpaths]
  simp only [hkeys]

variable {path repositoryRelPath : String} {providers : List Provider}

theorem Repository.namesFiles_iff {repository : Repository} {items : List FileRelationshipRef} :
    repository.NamesFiles path items ↔
      ∀ target, (∃ item ∈ items, item.repositoryRelPath = target) →
        repository.Owned target ∧ target ≠ path := by
  constructor
  · rintro hnames target ⟨item, hitem, rfl⟩
    exact hnames item hitem
  · intro hall item hitem
    exact hall item.repositoryRelPath ⟨item, hitem, rfl⟩

/-! ## Projected relationships -/

namespace Repository

theorem projectedRelationship_eq_ok
    {sourcePath targetPath targetComponentName : String}
    {relationshipKind : FileRelationshipKind} {provenance : List ProvenanceEntry}
    {item : FileRelationshipRef}
    (hok : projectedRelationship sourcePath targetPath relationshipKind targetComponentName
      provenance = .ok item) :
    item.repositoryRelPath = targetPath ∧ item.relationshipKind = relationshipKind := by
  unfold projectedRelationship at hok
  obtain ⟨sourceTool, -, hok⟩ := bind_eq_ok.mp hok
  cases hempty : provenance.isEmpty with
  | true =>
      simp only [hempty, if_true, bind_eq_ok] at hok
      obtain ⟨evidencePaths, -, projected, -, hok⟩ := hok
      rw [eq_of_validated hok]
      exact ⟨rfl, rfl⟩
  | false =>
      simp only [hempty, Bool.false_eq_true, if_false, bind_eq_ok] at hok
      obtain ⟨evidencePaths, -, projected, -, hok⟩ := hok
      rw [eq_of_validated hok]
      exact ⟨rfl, rfl⟩

theorem exists_projectedToArtifacts_iff {relationshipKind : FileRelationshipKind}
    {component : Component} {provenance : List ProvenanceEntry} {items : List FileRelationshipRef}
    (hok : projectedToArtifacts repositoryRelPath relationshipKind component provenance =
      .ok items) (target : String) :
    (∃ item ∈ items, item.repositoryRelPath = target) ↔
      target ∈ component.artifactPaths ∧ target ≠ repositoryRelPath := by
  unfold projectedToArtifacts at hok
  constructor
  · rintro ⟨item, hitem, rfl⟩
    obtain ⟨artifactPath, hartifact, hrun⟩ := exists_input_of_mem hok hitem
    rw [(projectedRelationship_eq_ok hrun).1]
    simpa using hartifact
  · rintro ⟨hmem, hne⟩
    have hartifact : target ∈ component.artifactPaths.filter fun artifactPath =>
        artifactPath ≠ repositoryRelPath := by
      simp [hmem, hne]
    obtain ⟨item, hitem, hrun⟩ := exists_output_of_mem hok hartifact
    exact ⟨item, hitem, (projectedRelationship_eq_ok hrun).1⟩

theorem exists_projectedImports_iff {repository : Repository} {primaryComponent : Component}
    {items : List FileRelationshipRef}
    (hok : repository.projectedImports repositoryRelPath primaryComponent = .ok items)
    (target : String) :
    (∃ item ∈ items, item.repositoryRelPath = target) ↔
      ∃ component, repository.ImportsFrom primaryComponent component ∧
        target ∈ component.artifactPaths ∧ target ≠ repositoryRelPath := by
  simp only [projectedImports, bind_eq_ok, pure_eq_ok] at hok
  obtain ⟨dependencies, hdependencies, groups, hgroups, rfl⟩ := hok
  constructor
  · rintro ⟨item, hitem, hpath⟩
    obtain ⟨group, hgroup, hitem⟩ := List.mem_flatten.mp hitem
    obtain ⟨dependency, hdependency, hrun⟩ := exists_input_of_mem hgroups hgroup
    by_cases hkind : dependency.targetKind = .component
    · rw [if_neg (not_not.mpr hkind)] at hrun
      cases hcomponent : repository.componentWithId dependency.targetId with
      | none =>
          simp only [hcomponent, pure_eq_ok] at hrun
          rw [← hrun] at hitem
          cases hitem
      | some component =>
          simp only [hcomponent] at hrun
          refine ⟨component, ?_, (exists_projectedToArtifacts_iff hrun target).mp
            ⟨item, hitem, hpath⟩⟩
          exact ⟨dependencies, hdependencies, dependency, hdependency, hkind, hcomponent⟩
    · rw [if_pos hkind, pure_eq_ok] at hrun
      rw [← hrun] at hitem
      cases hitem
  · rintro ⟨component, ⟨others, hothers, dependency, hdependency, hkind, hcomponent⟩,
      htarget⟩
    have hsame : others = dependencies := Except.ok.inj (hothers.symm.trans hdependencies)
    subst hsame
    obtain ⟨group, hgroup, hrun⟩ := exists_output_of_mem hgroups hdependency
    rw [if_neg (not_not.mpr hkind)] at hrun
    simp only [hcomponent] at hrun
    obtain ⟨item, hitem, hpath⟩ := (exists_projectedToArtifacts_iff hrun target).mpr htarget
    exact ⟨item, List.mem_flatten.mpr ⟨group, hgroup, hitem⟩, hpath⟩

theorem exists_projectedImportedBy_iff {repository : Repository} {primaryComponent : Component}
    {items : List FileRelationshipRef}
    (hok : repository.projectedImportedBy repositoryRelPath primaryComponent = .ok items)
    (target : String) :
    (∃ item ∈ items, item.repositoryRelPath = target) ↔
      ∃ component, repository.ImportedBy primaryComponent component ∧
        target ∈ component.artifactPaths ∧ target ≠ repositoryRelPath := by
  simp only [projectedImportedBy, bind_eq_ok, pure_eq_ok] at hok
  obtain ⟨dependents, hdependents, groups, hgroups, rfl⟩ := hok
  constructor
  · rintro ⟨item, hitem, hpath⟩
    obtain ⟨group, hgroup, hitem⟩ := List.mem_flatten.mp hitem
    obtain ⟨dependentId, hdependent, hrun⟩ := exists_input_of_mem hgroups hgroup
    cases hcomponent : repository.componentWithId dependentId with
    | none =>
        simp only [hcomponent, pure_eq_ok] at hrun
        rw [← hrun] at hitem
        cases hitem
    | some component =>
        simp only [hcomponent] at hrun
        obtain ⟨edges, hedges, hrun⟩ := bind_eq_ok.mp hrun
        split at hrun
        · rw [← pure_eq_ok.mp hrun] at hitem
          cases hitem
        · rename_i hsome
          refine ⟨component, ?_, (exists_projectedToArtifacts_iff hrun target).mp
            ⟨item, hitem, hpath⟩⟩
          have hedge : ∃ edge ∈ edges, edge.targetKind = .component ∧
              edge.targetId = primaryComponent.id := by
            simpa using hsome
          exact ⟨dependents, hdependents, dependentId, hdependent, hcomponent, edges, hedges,
            hedge⟩
  · rintro ⟨component, ⟨others, hothers, dependentId, hdependent, hcomponent, edges, hedges,
      hedge⟩, htarget⟩
    have hsame : others = dependents := Except.ok.inj (hothers.symm.trans hdependents)
    subst hsame
    obtain ⟨group, hgroup, hrun⟩ := exists_output_of_mem hgroups hdependent
    simp only [hcomponent, hedges, ok_bind] at hrun
    have hsome : ¬ (edges.filter fun edge =>
        edge.targetKind = .component && edge.targetId = primaryComponent.id).isEmpty = true := by
      simpa using hedge
    rw [if_neg hsome] at hrun
    obtain ⟨item, hitem, hpath⟩ := (exists_projectedToArtifacts_iff hrun target).mpr htarget
    exact ⟨item, List.mem_flatten.mpr ⟨group, hgroup, hitem⟩, hpath⟩

def whenAsked (asked : Bool) (projected : PyResult (List FileRelationshipRef)) :
    PyResult (List FileRelationshipRef) :=
  if asked then projected else .ok []

structure ProjectionOf (repository : Repository) (path : String)
    (relationshipKind : Option FileRelationshipKind) (primaryComponent : Component)
    (imports importedBy : List FileRelationshipRef) : Prop where
  imports_eq : whenAsked (relationshipKind.all fun kind => kind = .imports)
    (repository.projectedImports path primaryComponent) = .ok imports
  importedBy_eq : whenAsked (relationshipKind.all fun kind => kind = .importedBy)
    (repository.projectedImportedBy path primaryComponent) = .ok importedBy

variable {relationshipKind : Option FileRelationshipKind}

theorem architectureProjected_eq_ok {repository : Repository} {items : List FileRelationshipRef}
    (hok : repository.architectureProjectedFileRelationships path relationshipKind =
      .ok items) :
    ∃ fileOwner primary, repository.getFileOwner path = .ok fileOwner ∧
      repository.primaryComponentForFile path fileOwner.owner.id = .ok primary ∧
        match primary with
        | none => items = []
        | some primaryComponent => ∃ imports importedBy,
            repository.ProjectionOf path relationshipKind primaryComponent imports
                importedBy ∧
              items = sortedBy fileRelationshipSortKey
                ((imports ++ importedBy).foldl
                  (fun rows item => upsertRows fileRelationshipKey item rows) []) := by
  unfold architectureProjectedFileRelationships at hok
  obtain ⟨fileOwner, hfileOwner, hok⟩ := bind_eq_ok.mp hok
  obtain ⟨primary, hprimary, hok⟩ := bind_eq_ok.mp hok
  refine ⟨fileOwner, primary, hfileOwner, hprimary, ?_⟩
  cases primary with
  | none => exact (pure_eq_ok.mp hok).symm
  | some primaryComponent =>
      have hruns : (whenAsked (relationshipKind.all fun kind => kind = .imports)
          (repository.projectedImports path primaryComponent) >>= fun imports =>
            whenAsked (relationshipKind.all fun kind => kind = .importedBy)
              (repository.projectedImportedBy path primaryComponent) >>= fun importedBy =>
                .ok (sortedBy fileRelationshipSortKey
                  ((imports ++ importedBy).foldl
                    (fun rows item => upsertRows fileRelationshipKey item rows) []))) =
          .ok items := by
        rw [← hok]
        unfold whenAsked
        cases relationshipKind.all fun kind => kind = .imports with
        | true =>
            cases relationshipKind.all fun kind => kind = .importedBy with
            | true => rfl
            | false => rfl
        | false =>
            cases relationshipKind.all fun kind => kind = .importedBy with
            | true => rfl
            | false => rfl
      obtain ⟨imports, himports, hruns⟩ := bind_eq_ok.mp hruns
      obtain ⟨importedBy, himportedBy, hruns⟩ := bind_eq_ok.mp hruns
      exact ⟨imports, importedBy, ⟨himports, himportedBy⟩, (Except.ok.inj hruns).symm⟩

theorem exists_whenAsked_iff
    {asked : Bool} {projected : PyResult (List FileRelationshipRef)}
    {items : List FileRelationshipRef} {target : String} {reached : Prop}
    (hok : whenAsked asked projected = .ok items)
    (hreached : projected = .ok items →
      ((∃ item ∈ items, item.repositoryRelPath = target) ↔ reached)) :
    (∃ item ∈ items, item.repositoryRelPath = target) ↔ asked = true ∧ reached := by
  cases asked with
  | true => simpa using hreached hok
  | false =>
      have hnil : items = [] := (Except.ok.inj hok).symm
      simp [hnil]

theorem exists_projected_iff {repository : Repository} {items : List FileRelationshipRef}
    (hok : repository.architectureProjectedFileRelationships path relationshipKind =
      .ok items) (target : String) :
    (∃ item ∈ items, item.repositoryRelPath = target) ↔
      ∃ component, repository.ProjectsTo path relationshipKind component ∧
        target ∈ component.artifactPaths ∧ target ≠ path := by
  obtain ⟨fileOwner, primary, hfileOwner, hprimary, hitems⟩ := architectureProjected_eq_ok hok
  cases primary with
  | none =>
      subst hitems
      constructor
      · rintro ⟨item, hitem, -⟩
        cases hitem
      · rintro ⟨component, ⟨other, primaryComponent, hother, hfound, -⟩, -⟩
        have hsame : other = fileOwner := Except.ok.inj (hother.symm.trans hfileOwner)
        rw [hsame, hprimary] at hfound
        cases hfound
  | some primaryComponent =>
      obtain ⟨imports, importedBy, hprojection, rfl⟩ := hitems
      have himports := exists_whenAsked_iff hprojection.imports_eq fun hrun =>
        exists_projectedImports_iff hrun target
      have himportedBy := exists_whenAsked_iff hprojection.importedBy_eq fun hrun =>
        exists_projectedImportedBy_iff hrun target
      have hprojects : ∀ component, repository.ProjectsTo path relationshipKind component ↔
          ((relationshipKind.all fun kind => kind = .imports) ∧
              repository.ImportsFrom primaryComponent component) ∨
            ((relationshipKind.all fun kind => kind = .importedBy) ∧
              repository.ImportedBy primaryComponent component) := by
        intro component
        constructor
        · rintro ⟨other, primary, hother, hfound, hdirection⟩
          have hsame : other = fileOwner := Except.ok.inj (hother.symm.trans hfileOwner)
          rw [hsame, hprimary] at hfound
          cases hfound
          exact hdirection
        · exact fun hdirection => ⟨fileOwner, primaryComponent, hfileOwner, hprimary, hdirection⟩
      have hmerged : (∃ item ∈ sortedBy fileRelationshipSortKey
            ((imports ++ importedBy).foldl
              (fun rows item => upsertRows fileRelationshipKey item rows) []),
            item.repositoryRelPath = target) ↔
          (∃ item ∈ imports, item.repositoryRelPath = target) ∨
            ∃ item ∈ importedBy, item.repositoryRelPath = target := by
        have hkeys : ∀ wanted,
            wanted ∈ ((imports ++ importedBy).foldl
                (fun rows item => upsertRows fileRelationshipKey item rows) []).map
                  fileRelationshipKey ↔
              wanted ∈ (imports ++ importedBy).map fileRelationshipKey := by
          intro wanted
          rw [mem_keys_foldl_upsertRows]
          simp
        simp only [mem_sortedBy]
        rw [exists_path_congr hkeys]
        simp only [List.mem_append, or_and_right, exists_or]
      rw [hmerged, himports, himportedBy]
      simp only [hprojects]
      constructor
      · rintro (⟨hasked, component, himport, htarget⟩ | ⟨hasked, component, himport, htarget⟩)
        · exact ⟨component, .inl ⟨hasked, himport⟩, htarget⟩
        · exact ⟨component, .inr ⟨hasked, himport⟩, htarget⟩
      · rintro ⟨component, ⟨hasked, himport⟩ | ⟨hasked, himport⟩, htarget⟩
        · exact .inl ⟨hasked, component, himport, htarget⟩
        · exact .inr ⟨hasked, component, himport, htarget⟩

theorem namesFiles_projected_iff {repository : Repository} {items : List FileRelationshipRef}
    (hok : repository.architectureProjectedFileRelationships path relationshipKind =
      .ok items) :
    repository.NamesFiles path items ↔
      repository.ProjectedArtifactsOwned path relationshipKind := by
  rw [namesFiles_iff]
  simp only [exists_projected_iff hok]
  constructor
  · intro hall component hprojects artifactPath hartifact hne
    exact (hall artifactPath ⟨component, hprojects, hartifact, hne⟩).1
  · rintro howned target ⟨component, hprojects, hartifact, hne⟩
    exact ⟨howned component hprojects target hartifact hne, hne⟩

/-! ## Answered relationships -/

theorem namesFiles_collectAnswers {repository : Repository}
    {answer : Provider → PyResult (List FileRelationshipRef)} {items : List FileRelationshipRef}
    (hanswers : ∀ provider ∈ providers, ∀ found, answer provider = .ok found →
      repository.NamesFiles path found) (hok : collectAnswers answer providers = .ok items) :
    repository.NamesFiles path items := by
  induction providers generalizing items with
  | nil =>
      cases hok
      intro item hitem
      cases hitem
  | cons provider providers ih =>
      have hrest := fun other hother => hanswers other (List.mem_cons_of_mem provider hother)
      unfold collectAnswers at hok
      cases hanswer : answer provider with
      | ok found =>
          simp only [hanswer] at hok
          obtain ⟨rest, hfound, hok⟩ := bind_eq_ok.mp hok
          cases hok
          intro item hitem
          cases List.mem_append.mp hitem with
          | inl hown => exact hanswers provider List.mem_cons_self found hanswer item hown
          | inr hother => exact ih hrest hfound item hother
      | error exception =>
          cases exception with
          | valueError message =>
              simp only [hanswer] at hok
              exact ih hrest hok
          | _ => simp [hanswer] at hok

theorem mem_of_orAll {matched all : List Provider} (hmatched : ∀ provider ∈ matched, provider ∈ all)
    (hproviders : ∀ provider ∈ providers, provider ∈ all) :
    ∀ provider ∈ orAll matched providers, provider ∈ all := by
  unfold orAll
  split
  · exact hproviders
  · exact hmatched

theorem providersForOwnerRole_subset {repository : Repository} {ownerId : String}
    {role : ProviderRole} (hok : repository.providersForOwnerRole ownerId role = .ok providers) :
    ∀ provider ∈ providers, provider ∈ repository.providers := by
  have hbyId : ∀ providerId, ∀ provider ∈ repository.providersById providerId,
      provider ∈ repository.providers :=
    fun providerId provider hprovider => List.mem_of_mem_filter hprovider
  unfold providersForOwnerRole at hok
  obtain ⟨providerId, -, hok⟩ := bind_eq_ok.mp hok
  split at hok
  · cases hok
    simp
  · simp only [] at hok
    split at hok
    · cases hok
      exact hbyId providerId
    · obtain ⟨files, -, hok⟩ := bind_eq_ok.mp hok
      split at hok
      · cases hok
        exact hbyId providerId
      · cases hok
        apply mem_of_orAll
        · exact fun provider hprovider =>
            hbyId providerId provider (List.mem_of_mem_filter hprovider)
        · exact hbyId providerId

theorem providersForFileRole_subset {repository : Repository} {role : ProviderRole}
    (hok : repository.providersForFileRole path role = .ok providers) :
    ∀ provider ∈ providers, provider ∈ repository.providers := by
  unfold providersForFileRole at hok
  obtain ⟨fileOwner, -, hok⟩ := bind_eq_ok.mp hok
  obtain ⟨owned, howned, hok⟩ := bind_eq_ok.mp hok
  have hsubset := providersForOwnerRole_subset howned
  cases hok
  apply mem_of_orAll
  · exact fun provider hprovider => hsubset provider (List.mem_of_mem_filter hprovider)
  · exact hsubset

theorem namesFiles_codeAnswers {repository : Repository} {evidenceTier : CodeEvidenceTier}
    {items : List FileRelationshipRef}
    (hpath : normalizeRepositoryRelativePath repositoryRelPath = .ok path)
    (hproviders : repository.ProvidersNameFiles path evidenceTier)
    (hitems : repository.codeAnswers repositoryRelPath
      (Provider.relationshipsOfTier evidenceTier) = .ok items) :
    repository.NamesFiles path items := by
  unfold codeAnswers at hitems
  rw [hpath, ok_bind] at hitems
  obtain ⟨providers, hfile, hitems⟩ := bind_eq_ok.mp hitems
  apply namesFiles_collectAnswers _ hitems
  intro provider hprovider found hfound
  exact hproviders provider (providersForFileRole_subset hfile provider hprovider) found hfound

/-- The relationships of a file name files exactly when the providers answer some of
the wanted ones, or the artifact paths they are projected to are files. -/
theorem fileRelationships_nameFiles_iff
    {repository : Repository} {repositoryRelPath path : String}
    {relationshipKind : Option FileRelationshipKind} {evidenceTier : CodeEvidenceTier}
    {items : List FileRelationshipRef}
    (hpath : normalizeRepositoryRelativePath repositoryRelPath = .ok path)
    (hproviders : repository.ProvidersNameFiles path evidenceTier)
    (hitems : repository.getFileRelationships repositoryRelPath relationshipKind
      evidenceTier = .ok items) :
    repository.NamesFiles path items ↔
      repository.ProvidersAnswer repositoryRelPath relationshipKind evidenceTier ∨
        repository.ProjectedArtifactsOwned path relationshipKind := by
  unfold getFileRelationships at hitems
  rw [hpath, ok_bind] at hitems
  obtain ⟨answered, hanswered, hitems⟩ := bind_eq_ok.mp hitems
  have hnames := namesFiles_codeAnswers hpath hproviders hanswered
  have hanswers : repository.ProvidersAnswer repositoryRelPath relationshipKind evidenceTier ↔
      ∃ item ∈ answered, relationshipKind.all fun kind => item.relationshipKind = kind := by
    unfold ProvidersAnswer
    simp only [hanswered, Except.ok.injEq, exists_eq_left']
  by_cases hwanted : ∃ item ∈ answered,
      relationshipKind.all fun kind => item.relationshipKind = kind
  · have hsome : ¬ (answered.filter fun item =>
        relationshipKind.all fun kind => item.relationshipKind = kind).isEmpty = true := by
      simpa using hwanted
    simp only [if_neg hsome, pure_eq_ok] at hitems
    rw [iff_true_right (.inl (hanswers.mpr hwanted)), ← hitems, namesFiles_iff]
    have hkeys : ∀ wanted,
        wanted ∈ (mergedByKey fileRelationshipKey mergeFileRelationship
            (answered.filter fun item =>
              relationshipKind.all fun kind => item.relationshipKind = kind)).map
              fileRelationshipKey ↔
          wanted ∈ (answered.filter fun item =>
            relationshipKind.all fun kind => item.relationshipKind = kind).map
              fileRelationshipKey := by
      intro wanted
      apply mem_keys_mergedByKey
      intro kept item
      rfl
    simp only [mem_sortedBy]
    intro target htarget
    rw [exists_path_congr hkeys] at htarget
    obtain ⟨item, hitem, rfl⟩ := htarget
    exact hnames item (List.mem_of_mem_filter hitem)
  · have hnone : (answered.filter fun item =>
        relationshipKind.all fun kind => item.relationshipKind = kind).isEmpty = true := by
      simpa using hwanted
    simp only [if_pos hnone] at hitems
    obtain ⟨projected, hprojected, hitems⟩ := bind_eq_ok.mp hitems
    rw [pure_eq_ok] at hitems
    rw [hanswers, or_iff_right hwanted, ← namesFiles_projected_iff hprojected, ← hitems]
    simp only [NamesFiles, mem_sortedBy]

end Repository

def RelationshipsNameFiles : Prop :=
  ∀ (repository : Repository) (path : String)
    (relationshipKind : Option FileRelationshipKind) (evidenceTier : CodeEvidenceTier)
    (items : List FileRelationshipRef),
    repository.Owned path →
      normalizeRepositoryRelativePath path = .ok path →
        repository.ProvidersNameFiles path evidenceTier →
          repository.getFileRelationships path relationshipKind evidenceTier = .ok items →
            repository.NamesFiles path items

namespace RelationshipSample

def manifestEntry (path : String) : ProvenanceEntry :=
  ⟨.authoritative, .manifest, none, "derived from npm workspace package metadata", [path]⟩

def component (name : String) (artifactPaths : List String) : Component :=
  { id := "component:npm:" ++ name
    name := name
    componentKind := .package
    language := .typescript
    sourceRoots := ["packages/" ++ name ++ "/src"]
    artifactPaths := artifactPaths
    provenance := [manifestEntry ("packages/" ++ name ++ "/package.json")] }

def file (name path : String) : FileInfo :=
  { id := "file:" ++ path
    name := path
    repositoryRelPath := path
    language := some .typescript
    ownerId := "component:npm:" ++ name
    provenance := [manifestEntry ("packages/" ++ name ++ "/package.json")] }

def edge : ComponentDependencyEdge :=
  { sourceComponentId := "component:npm:app"
    targetId := "component:npm:lib"
    targetKind := .component
    dependencyScope := .runtime
    provenance := [manifestEntry "packages/app/package.json"] }

def repository (artifactPath : String) : Repository :=
  ⟨"/w",
    [{ providerId := "npm"
       components := [component "app" [], component "lib" [artifactPath]]
       files := [file "app" "packages/app/src/app.ts", file "lib" "packages/lib/dist/lib.js"]
       componentDependencyEdges := fun _ => .ok [edge] }],
    fun _ => [.architecture, .code]⟩

def paths (artifactPath : String) : PyResult (List String) :=
  List.map FileRelationshipRef.repositoryRelPath <$>
    (repository artifactPath).getFileRelationships "packages/app/src/app.ts" (some .imports)
      .semantic

theorem providersNameFiles (artifactPath : String) :
    (repository artifactPath).ProvidersNameFiles "packages/app/src/app.ts" .semantic := by
  intro provider hprovider items hitems
  rw [List.mem_singleton.mp hprovider] at hitems
  cases hitems
  intro item hitem
  cases hitem

end RelationshipSample

/-- A dependency is projected to the artifact directory of the library. -/
theorem relationships_not_always_files : ¬ RelationshipsNameFiles := by
  intro hall
  have hpaths : RelationshipSample.paths "packages/lib/dist" = .ok ["packages/lib/dist"] := by
    decide +kernel
  obtain ⟨items, hitems, hmap⟩ := map_eq_ok.mp hpaths
  have howned : (RelationshipSample.repository "packages/lib/dist").Owned
      "packages/app/src/app.ts" :=
    ⟨RelationshipSample.file "app" "packages/app/src/app.ts", by decide +kernel, by decide⟩
  have hnames := hall _ _ _ _ items howned (by decide +kernel)
    (RelationshipSample.providersNameFiles _) hitems
  have hmem : "packages/lib/dist" ∈ items.map FileRelationshipRef.repositoryRelPath := by
    rw [hmap]
    exact List.mem_singleton_self _
  obtain ⟨item, hitem, hpath⟩ := List.mem_map.mp hmem
  obtain ⟨⟨found, hfound, hsame⟩, -⟩ := hnames item hitem
  have hnone : ∀ file ∈ (RelationshipSample.repository "packages/lib/dist").getFiles,
      file.repositoryRelPath ≠ "packages/lib/dist" := by
    decide +kernel
  exact hnone found hfound (hsame.trans hpath)

/-- The relationship to a library whose artifact is an owned file. -/
theorem fileRelationships_nameFiles_ofLibrary :
    ∃ items,
      (RelationshipSample.repository "packages/lib/dist/lib.js").getFileRelationships
          "packages/app/src/app.ts" (some .imports) .semantic = .ok items ∧
        ((RelationshipSample.repository "packages/lib/dist/lib.js").NamesFiles
            "packages/app/src/app.ts" items ↔
          (RelationshipSample.repository "packages/lib/dist/lib.js").ProvidersAnswer
              "packages/app/src/app.ts" (some .imports) .semantic ∨
            (RelationshipSample.repository
              "packages/lib/dist/lib.js").ProjectedArtifactsOwned
                "packages/app/src/app.ts" (some .imports)) := by
  have hpaths : RelationshipSample.paths "packages/lib/dist/lib.js" =
      .ok ["packages/lib/dist/lib.js"] := by
    decide +kernel
  obtain ⟨items, hitems, -⟩ := map_eq_ok.mp hpaths
  exact ⟨items, hitems, Repository.fileRelationships_nameFiles_iff (by decide +kernel)
    (RelationshipSample.providersNameFiles _) hitems⟩

end SuitCode
