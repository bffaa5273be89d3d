import SuitCode.RelationshipFiles
import SuitCode.Library.StableOrder

/-!
# Kinds of relationships and render edges

The edges of a kind are the sublist of all edges.  The relationships of a kind are not always
the sublist of all relationships, since what is projected without an answer is projected where
no answer is of the kind.
-/

namespace SuitCode

open PosixText KeyedList KeyedTable ExceptList StableOrder

namespace Repository

/-- Asking for a kind gives the sublist of the kind. -/
structure KindIsFilter (repository : Repository) (repositoryRelPath : String)
    (relationshipKind : FileRelationshipKind) (evidenceTier : CodeEvidenceTier)
    (renderKind : RenderEdgeKind) : Prop where
  relationships : ∀ items,
    repository.getFileRelationships repositoryRelPath none evidenceTier = .ok items →
      repository.getFileRelationships repositoryRelPath (some relationshipKind) evidenceTier =
        .ok (items.filter fun item => item.relationshipKind = relationshipKind)
  renderEdges : ∀ edges, repository.getFileRenderEdges repositoryRelPath none = .ok edges →
    repository.getFileRenderEdges repositoryRelPath (some renderKind) =
      .ok (edges.filter fun edge => edge.relationshipKind = renderKind)

/-- The providers of the file answer nothing or something of the kind, or nothing of the kind is
projected from the dependencies of components. -/
def KindSettled (repository : Repository) (repositoryRelPath : String)
    (relationshipKind : FileRelationshipKind) (evidenceTier : CodeEvidenceTier) : Prop :=
  ∀ path answered, normalizeRepositoryRelativePath repositoryRelPath = .ok path →
    repository.codeAnswers repositoryRelPath (Provider.relationshipsOfTier evidenceTier) =
        .ok answered →
      answered = [] ∨ (∃ item ∈ answered, item.relationshipKind = relationshipKind) ∨
        repository.architectureProjectedFileRelationships path (some relationshipKind) = .ok []

end Repository

/-! ## Merging what a filter keeps -/

section Merging

variable {α κ : Type} [DecidableEq κ] {key : α → κ} (kept : κ → Bool)

theorem filter_upsertRows (row : α) (rows : List α) :
    (upsertRows key row rows).filter (fun item => kept (key item)) =
      if kept (key row) then upsertRows key row (rows.filter fun item => kept (key item))
      else rows.filter fun item => kept (key item) := by
  induction rows with
  | nil =>
      cases hrow : kept (key row) with
      | true => simp [upsertRows, hrow]
      | false => simp [upsertRows, hrow]
  | cons head tail ih =>
      by_cases heq : key head = key row
      · rw [upsertRows, if_pos heq]
        cases hrow : kept (key row) with
        | true => simp [upsertRows, hrow, heq]
        | false => simp [hrow, heq]
      · rw [upsertRows, if_neg heq]
        cases hhead : kept (key head) with
        | false => simp [hhead, ih]
        | true =>
            cases hrow : kept (key row) with
            | true => simp [upsertRows, hhead, hrow, heq, ih]
            | false => simp [hhead, hrow, ih]

theorem leader?_filter {wanted : κ} (hwanted : kept wanted = true) (rows : List α) :
    leader? key (rows.filter fun item => kept (key item)) wanted = leader? key rows wanted := by
  unfold leader?
  rw [List.find?_filter]
  congr 1
  funext item
  by_cases heq : key item = wanted
  · simp [heq, hwanted]
  · simp [heq]

theorem filter_mergedByKey {merge : α → α → α}
    (hmerge : ∀ one item, key (merge one item) = key item) (items : List α) :
    (mergedByKey key merge items).filter (fun item => kept (key item)) =
      mergedByKey key merge (items.filter fun item => kept (key item)) := by
  induction items using List.reverseRecOn with
  | nil => rfl
  | append_singleton items item ih =>
      cases hitem : kept (key item) with
      | true =>
          have hsnoc : (items ++ [item]).filter (fun item => kept (key item)) =
              (items.filter fun item => kept (key item)) ++ [item] := by
            simp [hitem]
          have hleader :
              leader? key (mergedByKey key merge (items.filter fun item => kept (key item)))
                  (key item) =
                leader? key (mergedByKey key merge items) (key item) := by
            rw [← ih]
            exact leader?_filter kept hitem _
          rw [hsnoc]
          cases hone : leader? key (mergedByKey key merge items) (key item) with
          | none =>
              rw [mergedByKey_snoc_of_none hone, mergedByKey_snoc_of_none (hleader.trans hone),
                ← ih]
              simp [hitem]
          | some one =>
              rw [mergedByKey_snoc_of_some hone, mergedByKey_snoc_of_some (hleader.trans hone),
                ← ih]
              simp [filter_upsertRows, hmerge, hitem]
      | false =>
          have hsnoc : (items ++ [item]).filter (fun item => kept (key item)) =
              items.filter fun item => kept (key item) := by
            simp [hitem]
          rw [hsnoc, ← ih]
          cases hone : leader? key (mergedByKey key merge items) (key item) with
          | none => simp [mergedByKey_snoc_of_none hone, hitem]
          | some one =>
              simp [mergedByKey_snoc_of_some hone, filter_upsertRows, hmerge, hitem]

theorem filter_foldl_upsertRows (items before : List α) :
    (items.foldl (fun rows item => upsertRows key item rows) before).filter
        (fun item => kept (key item)) =
      (items.filter fun item => kept (key item)).foldl
        (fun rows item => upsertRows key item rows)
        (before.filter fun item => kept (key item)) := by
  induction items generalizing before with
  | nil => rfl
  | cons item items ih =>
      rw [List.foldl_cons, ih, filter_upsertRows]
      cases hitem : kept (key item) with
      | true => simp [hitem]
      | false => simp [hitem]

end Merging

variable {items : List FileRelationshipRef} {repositoryRelPath : String}

/-! ## Projections of one kind -/

namespace Repository

theorem kind_of_projectedToArtifacts {relationshipKind : FileRelationshipKind}
    {component : Component} {provenance : List ProvenanceEntry}
    (hok : projectedToArtifacts repositoryRelPath relationshipKind component provenance =
      .ok items) : ∀ item ∈ items, item.relationshipKind = relationshipKind := by
  intro item hitem
  obtain ⟨artifactPath, -, hrun⟩ := exists_input_of_mem hok hitem
  exact (projectedRelationship_eq_ok hrun).2

theorem kind_of_projectedImports {repository : Repository} {primaryComponent : Component}
    (hok : repository.projectedImports repositoryRelPath primaryComponent = .ok items) :
    ∀ item ∈ items, item.relationshipKind = .imports := by
  intro item hitem
  simp only [projectedImports, bind_eq_ok, pure_eq_ok] at hok
  obtain ⟨dependencies, -, groups, hgroups, rfl⟩ := hok
  obtain ⟨group, hgroup, hmem⟩ := List.mem_flatten.mp hitem
  obtain ⟨dependency, -, hrun⟩ := exists_input_of_mem hgroups hgroup
  split at hrun
  · rw [← pure_eq_ok.mp hrun] at hmem
    cases hmem
  · split at hrun
    · rw [← pure_eq_ok.mp hrun] at hmem
      cases hmem
    · exact kind_of_projectedToArtifacts hrun item hmem

theorem kind_of_projectedImportedBy {repository : Repository} {primaryComponent : Component}
    (hok : repository.projectedImportedBy repositoryRelPath primaryComponent = .ok items) :
    ∀ item ∈ items, item.relationshipKind = .importedBy := by
  intro item hitem
  simp only [projectedImportedBy, bind_eq_ok, pure_eq_ok] at hok
  obtain ⟨dependents, -, groups, hgroups, rfl⟩ := hok
  obtain ⟨group, hgroup, hmem⟩ := List.mem_flatten.mp hitem
  obtain ⟨dependentId, -, hrun⟩ := exists_input_of_mem hgroups hgroup
  split at hrun
  · rw [← pure_eq_ok.mp hrun] at hmem
    cases hmem
  · obtain ⟨edges, -, hrun⟩ := bind_eq_ok.mp hrun
    split at hrun
    · rw [← pure_eq_ok.mp hrun] at hmem
      cases hmem
    · exact kind_of_projectedToArtifacts hrun item hmem

theorem architectureProjected_filter {repository : Repository} {path : String}
    (relationshipKind : FileRelationshipKind)
    (hok : repository.architectureProjectedFileRelationships path none = .ok items) :
    repository.architectureProjectedFileRelationships path (some relationshipKind) =
      .ok (items.filter fun item => item.relationshipKind = relationshipKind) := by
  obtain ⟨fileOwner, primary, hfileOwner, hprimary, hitems⟩ := architectureProjected_eq_ok hok
  unfold architectureProjectedFileRelationships
  rw [hfileOwner, ok_bind, hprimary, ok_bind]
  cases primary with
  | none =>
      simp only at hitems
      rw [hitems]
      rfl
  | some primaryComponent =>
      obtain ⟨imports, importedBy, hprojection, rfl⟩ := hitems
      have himports : repository.projectedImports path primaryComponent = .ok imports :=
        hprojection.imports_eq
      have himportedBy : repository.projectedImportedBy path primaryComponent = .ok importedBy :=
        hprojection.importedBy_eq
      have hfiltered : (sortedBy fileRelationshipSortKey ((imports ++ importedBy).foldl
          (fun rows item => upsertRows fileRelationshipKey item rows) [])).filter
            (fun item => item.relationshipKind = relationshipKind) =
          sortedBy fileRelationshipSortKey
            (((imports ++ importedBy).filter fun item =>
              item.relationshipKind = relationshipKind).foldl
                (fun rows item => upsertRows fileRelationshipKey item rows) []) := by
        rw [filter_sortedBy]
        congr 1
        exact @filter_foldl_upsertRows _ _ _ fileRelationshipKey
          (fun wanted => wanted.1 = relationshipKind) (imports ++ importedBy) []
      rw [hfiltered]
      have hnone : ∀ {items : List FileRelationshipRef} {one other : FileRelationshipKind},
          one ≠ other → (∀ item ∈ items, item.relationshipKind = one) →
            items.filter (fun item => item.relationshipKind = other) = [] := by
        intro items one other hne hkind
        rw [List.filter_eq_nil_iff]
        intro item hitem
        simpa [hkind item hitem] using hne
      have hall : ∀ {items : List FileRelationshipRef} {one : FileRelationshipKind},
          (∀ item ∈ items, item.relationshipKind = one) →
            items.filter (fun item => item.relationshipKind = one) = items := by
        intro items one hkind
        rw [List.filter_eq_self]
        intro item hitem
        simpa using hkind item hitem
      have himportKinds := kind_of_projectedImports himports
      have himportedByKinds := kind_of_projectedImportedBy himportedBy
      cases relationshipKind with
      | imports =>
          rw [List.filter_append, hall himportKinds, hnone (by decide) himportedByKinds]
          simp [himports]
      | importedBy =>
          rw [List.filter_append, hnone (by decide) himportKinds, hall himportedByKinds]
          simp [himportedBy]

/-! ## Filtered queries -/

theorem getFileRenderEdges_filter {repository : Repository} {edges : List RenderEdgeRef}
    (renderKind : RenderEdgeKind)
    (hok : repository.getFileRenderEdges repositoryRelPath none = .ok edges) :
    repository.getFileRenderEdges repositoryRelPath (some renderKind) =
      .ok (edges.filter fun edge => edge.relationshipKind = renderKind) := by
  unfold getFileRenderEdges at hok ⊢
  obtain ⟨answered, hanswered, hedges⟩ := bind_eq_ok.mp hok
  rw [hanswered, ok_bind]
  have hall : sortedBy renderEdgeKey (mergedByKey renderEdgeKey mergeRenderEdge answered) =
      edges := by
    simpa [pure_eq_ok] using hedges
  have hvalue : ∀ edge : RenderEdgeRef, decide (edge.relationshipKind = renderKind) =
      decide ((ofLex (renderEdgeKey edge)).1 = renderKind.value) := by
    intro edge
    have hinj : edge.relationshipKind.value = renderKind.value ↔
        edge.relationshipKind = renderKind := by
      cases edge.relationshipKind with
      | renders =>
          cases renderKind with
          | renders => decide
          | renderedBy => decide
      | renderedBy =>
          cases renderKind with
          | renders => decide
          | renderedBy => decide
    exact decide_eq_decide.mpr hinj.symm
  have hmerged := @filter_mergedByKey _ _ _ renderEdgeKey
    (fun wanted => decide ((ofLex wanted).1 = renderKind.value)) mergeRenderEdge
    (fun _ _ => rfl) answered
  rw [← hall]
  simp only [Option.all_some, hvalue]
  rw [filter_sortedBy, hmerged]
  rfl

theorem getFileRelationships_filter_iff {repository : Repository} {path : String}
    {evidenceTier : CodeEvidenceTier} {answered : List FileRelationshipRef}
    (relationshipKind : FileRelationshipKind)
    (hpath : normalizeRepositoryRelativePath repositoryRelPath = .ok path)
    (hanswered : repository.codeAnswers repositoryRelPath
      (Provider.relationshipsOfTier evidenceTier) = .ok answered)
    (hok : repository.getFileRelationships repositoryRelPath none evidenceTier = .ok items) :
    repository.getFileRelationships repositoryRelPath (some relationshipKind) evidenceTier =
        .ok (items.filter fun item => item.relationshipKind = relationshipKind) ↔
      answered = [] ∨ (∃ item ∈ answered, item.relationshipKind = relationshipKind) ∨
        repository.architectureProjectedFileRelationships path (some relationshipKind) =
          .ok [] := by
  have hmerged : (sortedBy fileRelationshipSortKey
      (mergedByKey fileRelationshipKey mergeFileRelationship answered)).filter
        (fun item => item.relationshipKind = relationshipKind) =
      sortedBy fileRelationshipSortKey
        (mergedByKey fileRelationshipKey mergeFileRelationship
          (answered.filter fun item => item.relationshipKind = relationshipKind)) := by
    have hkinds := @filter_mergedByKey _ _ _ fileRelationshipKey
      (fun wanted => decide (wanted.1 = relationshipKind)) mergeFileRelationship
      (fun _ _ => rfl) answered
    rw [filter_sortedBy]
    exact congrArg (sortedBy fileRelationshipSortKey) hkinds
  unfold getFileRelationships at hok ⊢
  rw [hpath, ok_bind, hanswered, ok_bind] at hok ⊢
  simp only [Option.all_none, List.filter_true, Option.all_some] at hok ⊢
  by_cases hnil : answered = []
  · rw [iff_true_right (Or.inl hnil)]
    rw [hnil] at hok ⊢
    simp only [List.isEmpty_nil, if_true, List.filter_nil] at hok ⊢
    obtain ⟨projected, hprojected, hitems⟩ := bind_eq_ok.mp hok
    rw [architectureProjected_filter relationshipKind hprojected, ok_bind,
      ← pure_eq_ok.mp hitems, filter_sortedBy]
    rfl
  · have hsome : ¬ answered.isEmpty = true := by simpa using hnil
    rw [if_neg hsome, pure_eq_ok] at hok
    rw [← hok, hmerged, or_iff_right hnil]
    by_cases hkind : ∃ item ∈ answered, item.relationshipKind = relationshipKind
    · have hanswers : ¬ (answered.filter fun item =>
          item.relationshipKind = relationshipKind).isEmpty = true := by
        simpa using hkind
      rw [if_neg hanswers, iff_true_right (Or.inl hkind)]
      rfl
    · have hnone : answered.filter (fun item => item.relationshipKind = relationshipKind) = [] := by
        rw [List.filter_eq_nil_iff]
        intro item hitem hitemKind
        exact hkind ⟨item, hitem, by simpa using hitemKind⟩
      have hempty : sortedBy fileRelationshipSortKey
          (mergedByKey fileRelationshipKey mergeFileRelationship []) = [] := rfl
      rw [hnone, or_iff_right hkind, hempty, List.isEmpty_nil, if_pos rfl]
      constructor
      · intro hrun
        obtain ⟨projected, hprojected, hsorted⟩ := bind_eq_ok.mp hrun
        rw [hprojected, sortedBy_eq_nil.mp (pure_eq_ok.mp hsorted)]
      · intro hprojected
        rw [hprojected]
        rfl

/-- Asking for one kind of relationship filters the whole answer exactly where the kind is settled.
-/
theorem kindIsFilter_iff (repository : Repository) (repositoryRelPath : String)
    (relationshipKind : FileRelationshipKind) (evidenceTier : CodeEvidenceTier)
    (renderKind : RenderEdgeKind) :
    repository.KindIsFilter repositoryRelPath relationshipKind evidenceTier renderKind ↔
      repository.KindSettled repositoryRelPath relationshipKind evidenceTier := by
  constructor
  · intro hfilter path answered hpath hanswered
    by_cases hnil : answered = []
    · exact Or.inl hnil
    · obtain ⟨items, hitems⟩ : ∃ items,
          repository.getFileRelationships repositoryRelPath none evidenceTier = .ok items := by
        unfold getFileRelationships
        rw [hpath, ok_bind, hanswered, ok_bind]
        simp only [Option.all_none, List.filter_true]
        rw [if_neg (by simpa using hnil)]
        exact ⟨_, rfl⟩
      exact (getFileRelationships_filter_iff relationshipKind hpath hanswered hitems).mp
        (hfilter.relationships items hitems)
  · intro hsettled
    constructor
    case relationships =>
      intro items hitems
      have hruns := hitems
      unfold getFileRelationships at hruns
      obtain ⟨path, hpath, hruns⟩ := bind_eq_ok.mp hruns
      obtain ⟨answered, hanswered, -⟩ := bind_eq_ok.mp hruns
      exact (getFileRelationships_filter_iff relationshipKind hpath hanswered hitems).mpr
        (hsettled path answered hpath hanswered)
    case renderEdges =>
      intro edges hedges
      exact getFileRenderEdges_filter renderKind hedges

end Repository

namespace KindSample

open RelationshipSample (manifestEntry)

/-- The library imports the app, which answers no import of its own. -/
def provider : Provider :=
  { providerId := "npm"
    components :=
      [RelationshipSample.component "app" [],
        RelationshipSample.component "lib" ["packages/lib/dist"]]
    files := [RelationshipSample.file "app" "packages/app/src/app.ts"]
    componentDependencyEdges := fun _ => .ok [RelationshipSample.edge]
    fileRelationships := fun _ =>
      .ok [⟨"packages/lib/src/lib.ts", .importedBy, [manifestEntry "packages/lib/src/lib.ts"]⟩] }

def repository : Repository := ⟨"/w", [provider], fun _ => [.architecture, .code]⟩

def paths (relationshipKind : Option FileRelationshipKind) : PyResult (List String) :=
  List.map FileRelationshipRef.repositoryRelPath <$>
    repository.getFileRelationships "packages/app/src/app.ts" relationshipKind .semantic

end KindSample

/-- A file which is imported but imports nothing is said to import the library. -/
theorem kindIsFilter_not_always :
    ¬ ∀ (repository : Repository) (repositoryRelPath : String)
      (relationshipKind : FileRelationshipKind) (evidenceTier : CodeEvidenceTier)
      (renderKind : RenderEdgeKind),
        repository.KindIsFilter repositoryRelPath relationshipKind evidenceTier renderKind := by
  intro hall
  have hfilter := hall KindSample.repository "packages/app/src/app.ts" .imports .semantic .renders
  have hpaths : KindSample.paths none = .ok ["packages/lib/src/lib.ts"] := by decide +kernel
  have himports : KindSample.paths (some .imports) = .ok ["packages/lib/dist"] := by
    decide +kernel
  obtain ⟨items, hitems, hmap⟩ := map_eq_ok.mp hpaths
  obtain ⟨imports, himported, himportMap⟩ := map_eq_ok.mp himports
  have hsame := hfilter.relationships items hitems
  rw [himported] at hsame
  have hmem : "packages/lib/dist" ∈ imports.map FileRelationshipRef.repositoryRelPath := by
    rw [himportMap]
    exact List.mem_singleton_self _
  rw [Except.ok.inj hsame] at hmem
  obtain ⟨item, hitem, hpath⟩ := List.mem_map.mp hmem
  have hlisted := List.mem_map_of_mem (f := FileRelationshipRef.repositoryRelPath)
    (List.mem_of_mem_filter hitem)
  rw [hmap, hpath] at hlisted
  exact absurd hlisted (by decide)

end SuitCode
