import SuitCode.StaticAnalysis

/-!
# Records of the static analysis

The line and the column of whatever the probe records are those of the node for which it is
recorded.  Its path is that of the node's file, but for the edges of calls.
-/

namespace SuitCode

open ExceptList KeyedTable PosixText

variable {child ref : NodeRef} {fieldName : String}

/-! ## Nodes keep their file -/

theorem NodeRef.file_child? {place : ℕ} (hchild : ref.child? place = some child) :
    child.file = ref.file := by
  unfold NodeRef.child? at hchild
  split at hchild
  · cases hchild
  · rw [← Option.some.inj hchild]

theorem NodeRef.file_part {role : ChildRole} (hpart : ref.part role = some child) :
    child.file = ref.file :=
  NodeRef.file_child? hpart

theorem NodeRef.file_of_mem_parts {role : ChildRole} (hmem : child ∈ ref.parts role) :
    child.file = ref.file := by
  obtain ⟨place, -, hchild⟩ := List.mem_filterMap.mp (List.mem_of_mem_filter hmem)
  exact NodeRef.file_child? hchild

theorem SourceFile.file_of_mem_nodes {file : SourceFile} (hmem : ref ∈ file.nodes) :
    ref.file = file := by
  obtain ⟨visit, -, rfl⟩ := List.mem_map.mp hmem
  rfl

theorem SourceFile.nodeAt?_eq {file : SourceFile} {address : LabelledTree.Address}
    (hfound : file.nodeAt? address = some ref) : ref.file = file := by
  unfold SourceFile.nodeAt? at hfound
  split at hfound
  · cases hfound
  · rw [← Option.some.inj hfound]

/-! ## What the probe records -/

section

variable {ι σ : Type} {checker : TypeChecker σ} {roots : AnalysisRoots}

/-- The item has the path of the file of its node and the place of the node. -/
def RecordedHere (roots : AnalysisRoots) (location : ι → String × ℕ × ℕ)
    (recorded : Recorded ι) : Prop :=
  location recorded.item =
    (roots.toRepositoryRelative recorded.ref.file.fileName, locationOf recorded.ref.node)

def FlowEdge.location (edge : FlowEdge) : String × ℕ × ℕ :=
  (edge.path, edge.lineStart, edge.columnStart)

def InvariantFinding.location (finding : InvariantFinding) : String × ℕ × ℕ :=
  (finding.path, finding.lineStart, finding.columnStart)

def AnalysisStep.location (step : AnalysisStep) : String × ℕ × ℕ :=
  (step.path, step.lineStart, step.columnStart)

def ProducerSite.location (site : ProducerSite) : String × ℕ × ℕ :=
  (site.path, site.lineStart, site.columnStart)

def callEdge (roots : AnalysisRoots) (call callee : NodeRef) (target : DeclarationTarget) :
    Recorded FlowEdge :=
  flowEdgeAt (roots.toRepositoryRelative target.declaration.file.fileName) "calls_local_symbol"
    (currentLabel call) target.label callee

theorem callEdge_edgeKind (call callee : NodeRef) (target : DeclarationTarget) :
    (callEdge roots call callee target).item.edgeKind = "calls_local_symbol" := rfl

structure ResolvedCall (checker : TypeChecker σ) (roots : AnalysisRoots)
    (call callee : NodeRef) (target : DeclarationTarget) : Prop where
  isCall : call.kind = .callExpression
  calls : call.part .expression = some callee
  resolves : resolveCallTarget checker roots callee = some target

variable {recorded : Recorded FlowEdge} {sites : List (Recorded AnalysisStep)}

theorem mem_directCallEdges {call : NodeRef} (hkind : call.kind = .callExpression) :
    recorded ∈ directCallEdges checker roots call ↔
      ∃ callee target, ResolvedCall checker roots call callee target ∧
        recorded = callEdge roots call callee target := by
  unfold directCallEdges
  constructor
  · intro hmem
    cases hcallee : call.part .expression with
    | none => simp [hcallee] at hmem
    | some callee =>
        cases htarget : resolveCallTarget checker roots callee with
        | none => simp [hcallee, htarget] at hmem
        | some target =>
            simp only [hcallee, htarget, List.mem_singleton] at hmem
            exact ⟨callee, target, ⟨hkind, hcallee, htarget⟩, hmem⟩
  · rintro ⟨callee, target, hresolved, rfl⟩
    simp only [hresolved.calls, hresolved.resolves, List.mem_singleton]
    rfl

theorem of_mem_producedEdges {call : NodeRef} {label : String}
    (hmem : recorded ∈ producedEdges checker roots call label) :
    recorded.ref.file = call.file ∧ RecordedHere roots FlowEdge.location recorded ∧
      recorded.item.edgeKind = "produces_value_for" := by
  unfold producedEdges at hmem
  split at hmem
  · cases hmem
  · cases hcallee : call.part .expression with
    | none => simp [hcallee] at hmem
    | some callee =>
        cases htarget : resolveCallTarget checker roots callee with
        | none => simp [hcallee, htarget] at hmem
        | some target =>
            simp only [hcallee, htarget, List.mem_singleton] at hmem
            have hfile := NodeRef.file_part hcallee
            rw [hmem]
            refine ⟨hfile, ?_, rfl⟩
            simp only [RecordedHere, flowEdgeAt, FlowEdge.location, hfile]

theorem of_mem_flowEdgesAt (hmem : recorded ∈ flowEdgesAt checker roots ref) :
    (∃ callee target, ResolvedCall checker roots ref callee target ∧
        recorded = callEdge roots ref callee target) ∨
      (recorded.ref.file = ref.file ∧ RecordedHere roots FlowEdge.location recorded ∧
        recorded.item.edgeKind = "produces_value_for") := by
  unfold flowEdgesAt at hmem
  split at hmem
  next hkind =>
    rw [List.mem_append] at hmem
    cases hmem with
    | inl hcall => exact .inl ((mem_directCallEdges hkind).mp hcall)
    | inr hproduced =>
        obtain ⟨argument, hargument, hproduced⟩ := List.mem_flatMap.mp hproduced
        obtain ⟨hfile, hhere⟩ := of_mem_producedEdges hproduced
        exact .inr ⟨hfile.trans (NodeRef.file_of_mem_parts hargument), hhere⟩
  next =>
    split at hmem
    next name initializer _ hinitializer =>
      split at hmem
      · obtain ⟨hfile, hhere⟩ := of_mem_producedEdges hmem
        exact .inr ⟨hfile.trans (NodeRef.file_part hinitializer), hhere⟩
      · cases hmem
    next => cases hmem
  next =>
    split at hmem
    next left operator right _ _ hright =>
      split at hmem
      · obtain ⟨hfile, hhere⟩ := of_mem_producedEdges hmem
        exact .inr ⟨hfile.trans (NodeRef.file_part hright), hhere⟩
      · cases hmem
    next => cases hmem
  next => cases hmem

/-! ### Sites and findings -/

theorem of_mem_targetProducerSites {target : DeclarationTarget} {recorded : Recorded ProducerSite}
    (hmem : recorded ∈ targetProducerSites roots target fieldName) :
    RecordedHere roots ProducerSite.location recorded := by
  unfold targetProducerSites at hmem
  obtain ⟨found, -, hfound⟩ := List.mem_filterMap.mp hmem
  obtain ⟨literal, hliteral, rfl⟩ := Option.map_eq_some_iff.mp hfound
  simp only [RecordedHere, siteOf, ProducerSite.location, SourceFile.nodeAt?_eq hliteral]

theorem of_declarationSites {declaration : NodeRef} {sites : List (Recorded ProducerSite)}
    (hsites : declarationSites checker roots fieldName declaration = some sites)
    {recorded : Recorded ProducerSite} (hmem : recorded ∈ sites) :
    RecordedHere roots ProducerSite.location recorded := by
  unfold declarationSites at hsites
  split at hsites
  · cases hsites
  split at hsites
  · cases hsites
  next initializer hinitializer =>
    split at hsites
    · cases hsites
    split at hsites
    · split at hsites
      · rw [← Option.some.inj hsites] at hmem
        cases hmem
      · rw [← Option.some.inj hsites, List.mem_singleton] at hmem
        rw [hmem]
        simp only [RecordedHere, siteOf, ProducerSite.location, NodeRef.file_part hinitializer]
    · split at hsites
      · split at hsites
        · rw [← Option.some.inj hsites] at hmem
          exact of_mem_targetProducerSites hmem
        · cases hsites
      · cases hsites

theorem of_mem_producerSites {expression : NodeRef} {recorded : Recorded ProducerSite}
    (hmem : recorded ∈ producerSitesForExpression checker roots expression fieldName) :
    RecordedHere roots ProducerSite.location recorded := by
  unfold producerSitesForExpression at hmem
  split at hmem
  · split at hmem
    · cases hmem
    next symbol _ =>
      cases hsites : ((checker.declarations symbol).getD []).findSome?
          (declarationSites checker roots fieldName) with
      | none => simp [hsites] at hmem
      | some sites =>
          rw [hsites, Option.getD_some] at hmem
          obtain ⟨declaration, -, hdeclaration⟩ := List.exists_of_findSome?_eq_some hsites
          exact of_declarationSites hdeclaration hmem
  · split at hmem
    · split at hmem
      · exact of_mem_targetProducerSites hmem
      · cases hmem
    · cases hmem

theorem of_mem_findingsAt {recorded : Recorded InvariantFinding}
    (hmem : recorded ∈ findingsAt checker roots ref) :
    recorded.ref.file = ref.file ∧ RecordedHere roots InvariantFinding.location recorded ∧
      ∀ site ∈ recorded.item.producerSites, RecordedHere roots ProducerSite.location site := by
  unfold findingsAt at hmem
  split at hmem
  · cases hmem
  split at hmem
  next name expression hname _ =>
    split at hmem
    · rw [List.mem_singleton] at hmem
      have hfile := NodeRef.file_part hname
      rw [hmem]
      refine ⟨hfile, ?_, fun site hsite => of_mem_producerSites hsite⟩
      simp only [RecordedHere, InvariantFinding.location, hfile]
    · cases hmem
  next => cases hmem

/-! ### Steps -/

theorem stepAt_here {stepKind sourceLabel detailLabel summary : String}
    {targetLabel : Option String} :
    RecordedHere roots AnalysisStep.location
      (stepAt roots stepKind sourceLabel targetLabel detailLabel summary ref) := rfl

theorem of_mem_hookSitesAt {callee : NodeRef} {hookName : String}
    (hsites : hookSitesAt roots ref callee hookName = .ok sites) {recorded : Recorded AnalysisStep}
    (hmem : recorded ∈ sites) :
    recorded.ref.file = callee.file ∧ RecordedHere roots AnalysisStep.location recorded := by
  unfold hookSitesAt at hsites
  split at hsites
  · rw [← Except.ok.inj hsites] at hmem
    cases hmem
  · split at hsites
    · simp only [bind_eq_ok, pure_eq_ok] at hsites
      obtain ⟨source, -, target, -, rfl⟩ := hsites
      rw [List.mem_singleton.mp hmem]
      exact ⟨rfl, stepAt_here⟩
    · split at hsites
      · rw [← Except.ok.inj hsites, List.mem_singleton] at hmem
        rw [hmem]
        exact ⟨rfl, stepAt_here⟩
      · rw [← Except.ok.inj hsites] at hmem
        cases hmem

/-- State sites are recorded at the callee of the initializer. -/
theorem exists_hookSitesAt (hsites : stateSitesAt checker roots ref = .ok sites) :
    sites = [] ∨ ∃ call callee hookName, ref.part .initializer = some call ∧
      call.part .expression = some callee ∧
        hookSitesAt roots ref callee hookName = .ok sites := by
  unfold stateSitesAt at hsites
  split at hsites
  · exact .inl (Except.ok.inj hsites).symm
  · split at hsites
    · exact .inl (Except.ok.inj hsites).symm
    next call hcall =>
      split at hsites
      · exact .inl (Except.ok.inj hsites).symm
      · split at hsites
        · exact .inl (Except.ok.inj hsites).symm
        next callee hcallee =>
          obtain ⟨isStateHook, -, hsites⟩ := bind_eq_ok.mp hsites
          obtain ⟨isReducerHook, -, hsites⟩ := bind_eq_ok.mp hsites
          split at hsites
          · exact .inr ⟨call, callee, "useState", hcall, hcallee, hsites⟩
          · split at hsites
            · exact .inr ⟨call, callee, "useReducer", hcall, hcallee, hsites⟩
            · exact .inl (Except.ok.inj hsites).symm

theorem of_mem_stateSitesAt (hsites : stateSitesAt checker roots ref = .ok sites)
    {recorded : Recorded AnalysisStep} (hmem : recorded ∈ sites) :
    recorded.ref.file = ref.file ∧ RecordedHere roots AnalysisStep.location recorded := by
  rcases exists_hookSitesAt hsites with rfl | ⟨call, callee, hookName, hcall, hcallee, hhook⟩
  · cases hmem
  · obtain ⟨hfile, hhere⟩ := of_mem_hookSitesAt hhook hmem
    rw [hfile, NodeRef.file_part hcallee, NodeRef.file_part hcall]
    exact ⟨rfl, hhere⟩

theorem of_mem_eventStepsAt {recorded : Recorded AnalysisStep}
    (hmem : recorded ∈ eventStepsAt checker roots ref) :
    recorded.ref.file = ref.file ∧ RecordedHere roots AnalysisStep.location recorded := by
  unfold eventStepsAt at hmem
  split at hmem
  · cases hmem
  next access haccess =>
    split at hmem
    next name receiver argument hname _ _ =>
      have hfile : name.file = ref.file :=
        (NodeRef.file_part hname).trans (NodeRef.file_part haccess)
      split at hmem
      · cases hmem
      · simp only [List.mem_append] at hmem
        cases hmem with
        | inl hsubscribe =>
            split at hsubscribe
            · rw [List.mem_singleton.mp hsubscribe]
              exact ⟨hfile, stepAt_here⟩
            · cases hsubscribe
        | inr hpublish =>
            split at hpublish
            · rw [List.mem_singleton.mp hpublish]
              exact ⟨hfile, stepAt_here⟩
            · cases hpublish
    next => cases hmem

end

end SuitCode
