import SuitCode.StaticAnalysisService
import SuitCode.StaticRecords

/-!
# Locations of the static analysis

What is reported for a node should name the file of the node and the place where it starts.
The line and the column always are those of the node; the path of a call is that of the file
in which the callee is declared.
-/

namespace SuitCode

open ExceptList KeyedList KeyedTable PosixText

/-! ## What is located -/

section

variable {ι ο : Type} (roots : AnalysisRoots)

def reportedPath (path : String) : PyResult String := do
  let path ← requiredPath path
  pure (strip path)

/-- A location is the path of the file of the node and the place where the node starts. -/
def Located (ref : NodeRef) (location : String × ℕ × ℕ) : Prop :=
  location = (roots.toRepositoryRelative ref.file.fileName, locationOf ref.node)

/-- Every output is built for some record, and located for each record it is built for. -/
def LocatedAll (records : List (Recorded ι)) (build : ι → PyResult ο)
    (location : ο → String × ℕ × ℕ) (outputs : List ο) : Prop :=
  ∀ output ∈ outputs, (∃ recorded ∈ records, build recorded.item = .ok output) ∧
    ∀ recorded ∈ records, build recorded.item = .ok output →
      Located roots recorded.ref (location output)

end

def siteReference (repositoryRelPath : String) (site : ProducerSite) :
    PyResult StaticAnalysisSiteRef :=
  coerceSite site >>= translateSite repositoryRelPath

def findingReference (repositoryRelPath : String) (finding : InvariantFinding) :
    PyResult InvariantFindingRef :=
  coerceFinding finding >>= translateFinding repositoryRelPath

def edgeReference (repositoryRelPath : String) (edge : FlowEdge) : PyResult StaticFlowEdgeRef :=
  coerceFlowEdge edge >>= translateFlowEdge repositoryRelPath

def stepReference (repositoryRelPath : String) (step : AnalysisStep) : PyResult FlowStep :=
  coerceStep step >>= translateStep repositoryRelPath

def localFlowReference (repositoryRelPath : String) (edge : FlowEdge) : PyResult FlowStep :=
  edgeReference repositoryRelPath edge >>= localFlowStep

def StaticAnalysisSiteRef.location (site : StaticAnalysisSiteRef) : String × ℕ × ℕ :=
  (site.repositoryRelPath, site.lineStart, site.columnStart)

def InvariantFindingRef.location (finding : InvariantFindingRef) : String × ℕ × ℕ :=
  (finding.repositoryRelPath, finding.lineStart, finding.columnStart)

def StaticFlowEdgeRef.location (edge : StaticFlowEdgeRef) : String × ℕ × ℕ :=
  (edge.repositoryRelPath, edge.lineStart, edge.columnStart)

def FlowStep.location (step : FlowStep) : String × ℕ × ℕ :=
  (step.repositoryRelPath, step.lineStart, step.columnStart)

/-- Every item which the service reports is located. -/
structure AnalysisLocated (roots : AnalysisRoots) (repositoryRelPath : String)
    (report : AnalysisReport) (result : AnalysisResult) : Prop where
  edges : LocatedAll roots report.edges (edgeReference repositoryRelPath)
    StaticFlowEdgeRef.location result.edges
  findings : LocatedAll roots report.findings (findingReference repositoryRelPath)
    InvariantFindingRef.location result.findings
  sites : ∀ recorded ∈ report.findings, ∀ finding ∈ result.findings,
    findingReference repositoryRelPath recorded.item = .ok finding →
      LocatedAll roots recorded.item.producerSites (siteReference repositoryRelPath)
        StaticAnalysisSiteRef.location finding.producerSitesPreview
  steps : LocatedAll roots report.steps (stepReference repositoryRelPath) FlowStep.location
    result.steps
  localSteps : ∀ steps, localFlowSteps result.edges = .ok steps →
    LocatedAll roots report.edges (localFlowReference repositoryRelPath) FlowStep.location steps

/-! ## Records which are coerced, kept once and translated -/

section

variable {ι γ ο κ : Type} [DecidableEq κ] {roots : AnalysisRoots}
  {records : List (Recorded ι)} {coerce : ι → PyResult γ} {translate : γ → PyResult ο}
  {key : γ → κ} {coerced : List γ} {outputs : List ο}

theorem exists_record_of_output
    (hcoerce : (records.mapM fun recorded => coerce recorded.item) = .ok coerced)
    (htranslate : (dedupeBy key coerced).mapM translate = .ok outputs)
    {output : ο} (houtput : output ∈ outputs) :
    ∃ recorded ∈ records, (coerce recorded.item >>= translate) = .ok output := by
  obtain ⟨item, hitem, hbuilt⟩ := exists_input_of_mem htranslate houtput
  obtain ⟨recorded, hrecorded, hitem⟩ :=
    exists_input_of_mem hcoerce (mem_of_mem_dedupeBy hitem)
  use recorded, hrecorded
  rw [hitem, ok_bind]
  exact hbuilt

theorem exists_output_of_record
    (hcoerce : (records.mapM fun recorded => coerce recorded.item) = .ok coerced)
    (htranslate : (dedupeBy key coerced).mapM translate = .ok outputs)
    {recorded : Recorded ι} (hrecorded : recorded ∈ records) :
    ∃ item other kept output, coerce recorded.item = .ok item ∧ other ∈ records ∧
      coerce other.item = .ok kept ∧ key kept = key item ∧ translate kept = .ok output ∧
      output ∈ outputs := by
  obtain ⟨item, hitem, hcoerced⟩ := exists_output_of_mem hcoerce hrecorded
  have hkey : key item ∈ (dedupeBy key coerced).map key :=
    mem_map_dedupeBy_iff.mpr (List.mem_map_of_mem hitem)
  obtain ⟨kept, hkept, hsame⟩ := List.mem_map.mp hkey
  obtain ⟨output, houtput, hbuilt⟩ := exists_output_of_mem htranslate hkept
  obtain ⟨other, hother, hotherItem⟩ :=
    exists_input_of_mem hcoerce (mem_of_mem_dedupeBy hkept)
  exact ⟨item, other, kept, output, hcoerced, hother, hotherItem, hsame, hbuilt, houtput⟩

variable {path : ι → String} {location : ο → String × ℕ × ℕ}

/-- An output has the place of its record, under the record's reported path. -/
def PlacedBy (path : ι → String) (location : ο → String × ℕ × ℕ) (build : ι → PyResult ο)
    (records : List (Recorded ι)) : Prop :=
  ∀ recorded ∈ records, ∀ output, build recorded.item = .ok output →
    ∃ reported, reportedPath (path recorded.item) = .ok reported ∧
      location output = (reported, locationOf recorded.ref.node)

def OwnPath (roots : AnalysisRoots) (path : ι → String) (recorded : Recorded ι) : Prop :=
  reportedPath (path recorded.item) = .ok (roots.toRepositoryRelative recorded.ref.file.fileName)

theorem located_iff_ownPath {build : ι → PyResult ο}
    (hplaced : PlacedBy path location build records) {recorded : Recorded ι}
    (hrecorded : recorded ∈ records) {output : ο} (hbuilt : build recorded.item = .ok output) :
    Located roots recorded.ref (location output) ↔ OwnPath roots path recorded := by
  obtain ⟨reported, hreported, hlocation⟩ := hplaced recorded hrecorded output hbuilt
  unfold Located OwnPath
  rw [hlocation, hreported]
  simp

theorem locatedAll_iff
    (hcoerce : (records.mapM fun recorded => coerce recorded.item) = .ok coerced)
    (htranslate : (dedupeBy key coerced).mapM translate = .ok outputs)
    (hplaced : PlacedBy path location (fun item => coerce item >>= translate) records)
    (hsame : ∀ recorded ∈ records, ∀ other ∈ records, ∀ item kept,
      coerce recorded.item = .ok item → coerce other.item = .ok kept → key kept = key item →
      translate item = translate kept ∨
        (OwnPath roots path other → OwnPath roots path recorded)) :
    LocatedAll roots records (fun item => coerce item >>= translate) location outputs ↔
      ∀ recorded ∈ records, OwnPath roots path recorded := by
  constructor
  · intro hlocated recorded hrecorded
    obtain ⟨item, other, kept, output, hitem, hother, hkept, hkey, hbuilt, houtput⟩ :=
      exists_output_of_record hcoerce htranslate hrecorded
    cases hsame recorded hrecorded other hother item kept hitem hkept hkey with
    | inl hequal =>
        have hown : (coerce recorded.item >>= translate) = .ok output := by
          rw [hitem, ok_bind, hequal, hbuilt]
        exact (located_iff_ownPath hplaced hrecorded hown).mp
          ((hlocated output houtput).2 recorded hrecorded hown)
    | inr hpaths =>
        have hown : (coerce other.item >>= translate) = .ok output := by
          rw [hkept, ok_bind, hbuilt]
        apply hpaths
        exact (located_iff_ownPath hplaced hother hown).mp
          ((hlocated output houtput).2 other hother hown)
  · intro hpaths output houtput
    constructor
    · exact exists_record_of_output hcoerce htranslate houtput
    · intro recorded hrecorded hbuilt
      exact (located_iff_ownPath hplaced hrecorded hbuilt).mpr (hpaths recorded hrecorded)

end

/-! ## Places of the references -/

theorem requiredInt_eq_ok {value result : ℕ} {fieldName : String}
    (hok : requiredInt value fieldName = .ok result) : result = value := by
  unfold requiredInt at hok
  split at hok
  · exact absurd hok raiseValueError_ne_ok
  · exact (Except.ok.inj hok).symm

theorem reportedPath_of_requiredPath {path required : String}
    (hok : requiredPath path = .ok required) : reportedPath path = .ok (strip required) := by
  unfold reportedPath
  rw [hok, ok_bind]
  rfl

theorem siteReference_placed {repositoryRelPath : String} {site : ProducerSite}
    {reference : StaticAnalysisSiteRef}
    (hok : siteReference repositoryRelPath site = .ok reference) :
    reportedPath site.path = .ok reference.repositoryRelPath ∧
      reference.lineStart = site.lineStart ∧ reference.columnStart = site.columnStart := by
  simp only [siteReference, coerceSite, bind_eq_ok, pure_eq_ok] at hok
  obtain ⟨item, ⟨path, hpath, line, hline, column, hcolumn, label, -, rfl⟩, hok⟩ := hok
  simp only [translateSite, bind_eq_ok, validated_eq_ok] at hok
  obtain ⟨entry, -, rfl, -⟩ := hok
  exact ⟨reportedPath_of_requiredPath hpath, requiredInt_eq_ok hline, requiredInt_eq_ok hcolumn⟩

theorem findingReference_placed {repositoryRelPath : String} {finding : InvariantFinding}
    {reference : InvariantFindingRef}
    (hok : findingReference repositoryRelPath finding = .ok reference) :
    reportedPath finding.path = .ok reference.repositoryRelPath ∧
      reference.lineStart = finding.lineStart ∧
      reference.columnStart = finding.columnStart := by
  simp only [findingReference, coerceFinding, bind_eq_ok, pure_eq_ok] at hok
  obtain ⟨item, ⟨path, hpath, accessKind, -, line, hline, column, hcolumn, fieldName, -, subject,
    -, sites, -, rfl⟩, hok⟩ := hok
  simp only [translateFinding, bind_eq_ok, validated_eq_ok] at hok
  obtain ⟨references, -, entry, -, rfl, -⟩ := hok
  exact ⟨reportedPath_of_requiredPath hpath, requiredInt_eq_ok hline, requiredInt_eq_ok hcolumn⟩

theorem edgeReference_placed {repositoryRelPath : String} {edge : FlowEdge}
    {reference : StaticFlowEdgeRef}
    (hok : edgeReference repositoryRelPath edge = .ok reference) :
    reportedPath edge.path = .ok reference.repositoryRelPath ∧
      reference.lineStart = edge.lineStart ∧ reference.columnStart = edge.columnStart := by
  simp only [edgeReference, coerceFlowEdge, bind_eq_ok, pure_eq_ok] at hok
  obtain ⟨item, ⟨path, hpath, edgeKind, -, line, hline, column, hcolumn, source, -, target, -,
    rfl⟩, hok⟩ := hok
  simp only [translateFlowEdge, bind_eq_ok, validated_eq_ok] at hok
  obtain ⟨kind, -, entry, -, rfl, -⟩ := hok
  exact ⟨reportedPath_of_requiredPath hpath, requiredInt_eq_ok hline, requiredInt_eq_ok hcolumn⟩

theorem stepReference_placed {repositoryRelPath : String} {step : AnalysisStep}
    {reference : FlowStep}
    (hok : stepReference repositoryRelPath step = .ok reference) :
    reportedPath step.path = .ok reference.repositoryRelPath ∧
      reference.lineStart = step.lineStart ∧ reference.columnStart = step.columnStart := by
  simp only [stepReference, coerceStep, bind_eq_ok, pure_eq_ok] at hok
  obtain ⟨item, ⟨path, hpath, stepKind, -, line, hline, column, hcolumn, source, -, target, -,
    detail, -, summary, -, rfl⟩, hok⟩ := hok
  simp only [translateStep, FlowStep.create, bind_eq_ok, validated_eq_ok] at hok
  obtain ⟨kind, -, entry, -, rfl, -⟩ := hok
  exact ⟨reportedPath_of_requiredPath hpath, requiredInt_eq_ok hline, requiredInt_eq_ok hcolumn⟩

theorem localFlowStep_location {edge : StaticFlowEdgeRef} {step : FlowStep}
    (hok : localFlowStep edge = .ok step) :
    step.repositoryRelPath = strip edge.repositoryRelPath ∧ step.lineStart = edge.lineStart ∧
      step.columnStart = edge.columnStart := by
  simp only [localFlowStep, FlowStep.create, validated_eq_ok] at hok
  obtain ⟨rfl, -⟩ := hok
  exact ⟨rfl, rfl, rfl⟩

/-! ## When every item is located -/

section

variable {σ : Type} (checker : TypeChecker σ) (roots : AnalysisRoots) (file : SourceFile)

/-- The file is one which the probe analyses. -/
def IsTargetFile : Prop :=
  roots.inProject file.fileName = true ∧ isSupportedFile file.fileName = true ∧
    endsWith (joinedPath file.fileName) ".d.ts" = false

/-- The service reports the file under its own path: nothing is trimmed from it. -/
def KeepsPath : Prop :=
  reportedPath (roots.toRepositoryRelative file.fileName) =
    .ok (roots.toRepositoryRelative file.fileName)

def edgeRecords : List (Recorded FlowEdge) := file.nodes.flatMap (flowEdgesAt checker roots)

def findingRecords : List (Recorded InvariantFinding) :=
  file.nodes.flatMap (findingsAt checker roots)

def HasProduced : Prop :=
  ∃ recorded, LastOfKey (fun recorded => flowEdgeKey recorded.item)
    (edgeRecords checker roots file) recorded ∧ recorded.item.edgeKind = "produces_value_for"

def HasFinding : Prop := ∃ ref ∈ file.nodes, findingsAt checker roots ref ≠ []

def HasStep : Prop :=
  ∃ ref ∈ file.nodes, (∃ sites, stateSitesAt checker roots ref = .ok sites ∧ sites ≠ []) ∨
    eventStepsAt checker roots ref ≠ []

/-- The callees of the calls are declared in the file itself, and no path is trimmed. -/
structure PathsOwn : Prop where
  calls : ∀ call ∈ file.nodes, ∀ callee target, ResolvedCall checker roots call callee target →
    LastOfKey (fun recorded => flowEdgeKey recorded.item) (edgeRecords checker roots file)
      (callEdge roots call callee target) →
    reportedPath (roots.toRepositoryRelative target.declaration.file.fileName) =
      .ok (roots.toRepositoryRelative file.fileName)
  own : HasProduced checker roots file ∨ HasFinding checker roots file ∨
    HasStep checker roots file → KeepsPath roots file
  sites : ∀ recorded, LastOfKey (fun recorded => findingKey recorded.item)
      (findingRecords checker roots file) recorded →
    ∀ site ∈ recorded.item.producerSites, KeepsPath roots site.ref.file

end

variable {states : List (Recorded AnalysisStep)}

section

variable {σ : Type} {checker : TypeChecker σ} {roots : AnalysisRoots} {file : SourceFile}
  {report : AnalysisReport} {repositoryRelPath : String} {result : AnalysisResult}

theorem analyzeFile_of_target (htarget : IsTargetFile roots file) :
    analyzeFile checker roots file = .ok report ↔
      ∃ states, collectStateSites checker roots file = .ok states ∧
        ⟨collectInvariantFindings checker roots file, collectFlowEdges checker roots file,
          states ++ collectEventFlowSteps checker roots file⟩ = report := by
  unfold analyzeFile
  rw [htarget.1, htarget.2.1, htarget.2.2]
  simp only [Bool.not_true, Bool.or_false, Bool.false_eq_true, if_false, bind_eq_ok, pure_eq_ok]

/-! ### Edges -/

theorem mem_edgeRecords {recorded : Recorded FlowEdge}
    (hmem : recorded ∈ collectFlowEdges checker roots file) :
    recorded.ref.file = file ∧
      (recorded.item.lineStart, recorded.item.columnStart) = locationOf recorded.ref.node ∧
      ((∃ call ∈ file.nodes, ∃ callee target, ResolvedCall checker roots call callee target ∧
          recorded = callEdge roots call callee target) ∨
        (recorded.item.path = roots.toRepositoryRelative file.fileName ∧
          recorded.item.edgeKind = "produces_value_for")) := by
  obtain ⟨ref, href, hedge⟩ := List.mem_flatMap.mp (mem_of_mem_fill hmem)
  have hvisited := SourceFile.file_of_mem_nodes href
  cases of_mem_flowEdgesAt hedge with
  | inl hcall =>
      obtain ⟨callee, target, hresolved, rfl⟩ := hcall
      refine ⟨?_, rfl, .inl ⟨ref, href, callee, target, hresolved, rfl⟩⟩
      exact (NodeRef.file_part hresolved.calls).trans hvisited
  | inr hproduced =>
      obtain ⟨hfile, hhere, hkind⟩ := hproduced
      obtain ⟨hpath, hplace⟩ := Prod.mk.inj hhere
      refine ⟨hfile.trans hvisited, hplace, .inr ⟨?_, hkind⟩⟩
      rw [← hvisited, ← hfile]
      exact hpath

theorem edges_ownPath_iff :
    (∀ recorded ∈ collectFlowEdges checker roots file, OwnPath roots FlowEdge.path recorded) ↔
      (∀ call ∈ file.nodes, ∀ callee target, ResolvedCall checker roots call callee target →
        LastOfKey (fun recorded => flowEdgeKey recorded.item) (edgeRecords checker roots file)
          (callEdge roots call callee target) →
        reportedPath (roots.toRepositoryRelative target.declaration.file.fileName) =
          .ok (roots.toRepositoryRelative file.fileName)) ∧
      (HasProduced checker roots file → KeepsPath roots file) := by
  constructor
  · intro hown
    constructor
    · intro call hcall callee target hresolved hlast
      have hmem : callEdge roots call callee target ∈ collectFlowEdges checker roots file :=
        mem_fill_iff.mpr hlast
      have hpath := hown _ hmem
      unfold OwnPath at hpath
      rwa [(mem_edgeRecords hmem).1] at hpath
    · rintro ⟨recorded, hlast, hproduces⟩
      have hmem : recorded ∈ collectFlowEdges checker roots file := mem_fill_iff.mpr hlast
      obtain ⟨hfile, -, hedge⟩ := mem_edgeRecords hmem
      have hpath := hown _ hmem
      cases hedge with
      | inl hcall =>
          obtain ⟨call, -, callee, target, -, rfl⟩ := hcall
          rw [callEdge_edgeKind] at hproduces
          exact absurd hproduces (by decide)
      | inr hproduced =>
          unfold OwnPath at hpath
          rwa [hfile, hproduced.1] at hpath
  · rintro ⟨hcalls, hproduced⟩ recorded hmem
    obtain ⟨hfile, -, hedge⟩ := mem_edgeRecords hmem
    unfold OwnPath
    rw [hfile]
    cases hedge with
    | inl hcall =>
        obtain ⟨call, hnode, callee, target, hresolved, rfl⟩ := hcall
        exact hcalls call hnode callee target hresolved (mem_fill_iff.mp hmem)
    | inr hown =>
        rw [hown.1]
        exact hproduced ⟨recorded, mem_fill_iff.mp hmem, hown.2⟩

theorem edges_placed : PlacedBy FlowEdge.path StaticFlowEdgeRef.location
    (edgeReference repositoryRelPath) (collectFlowEdges checker roots file) := by
  intro recorded hmem output hbuilt
  obtain ⟨hpath, hline, hcolumn⟩ := edgeReference_placed hbuilt
  refine ⟨_, hpath, ?_⟩
  rw [StaticFlowEdgeRef.location, hline, hcolumn, ← (mem_edgeRecords hmem).2.1]

theorem edges_locatedAll_iff {coerced : List FlowEdge} {edges : List StaticFlowEdgeRef}
    (hcoerce : ((collectFlowEdges checker roots file).mapM fun recorded =>
      coerceFlowEdge recorded.item) = .ok coerced)
    (htranslate : (dedupeBy id coerced).mapM (translateFlowEdge repositoryRelPath) = .ok edges) :
    LocatedAll roots (collectFlowEdges checker roots file) (edgeReference repositoryRelPath)
        StaticFlowEdgeRef.location edges ↔
      ∀ recorded ∈ collectFlowEdges checker roots file, OwnPath roots FlowEdge.path recorded := by
  apply locatedAll_iff hcoerce htranslate edges_placed
  intro recorded _ other _ item kept _ _ hkey
  left
  rw [show kept = item from hkey]

variable {recorded : Recorded InvariantFinding}

/-! ### Findings -/

theorem mem_findingRecords (hmem : recorded ∈ collectInvariantFindings checker roots file) :
    recorded.ref.file = file ∧ RecordedHere roots InvariantFinding.location recorded ∧
      ∀ site ∈ recorded.item.producerSites, RecordedHere roots ProducerSite.location site := by
  obtain ⟨ref, href, hfinding⟩ := List.mem_flatMap.mp (mem_of_mem_fill hmem)
  obtain ⟨hfile, hhere, hsites⟩ := of_mem_findingsAt hfinding
  exact ⟨hfile.trans (SourceFile.file_of_mem_nodes href), hhere, hsites⟩

theorem ownPath_iff_keepsPath {ι : Type} {path : ι → String} {location : ι → String × ℕ × ℕ}
    {recorded : Recorded ι} (hpath : (location recorded.item).1 = path recorded.item)
    (hhere : RecordedHere roots location recorded) :
    OwnPath roots path recorded ↔ KeepsPath roots recorded.ref.file := by
  unfold OwnPath KeepsPath
  rw [← hpath, hhere]

theorem findings_ownPath_iff :
    (∀ recorded ∈ collectInvariantFindings checker roots file,
        OwnPath roots InvariantFinding.path recorded) ↔
      (HasFinding checker roots file → KeepsPath roots file) := by
  have hkeeps : ∀ recorded ∈ collectInvariantFindings checker roots file,
      (OwnPath roots InvariantFinding.path recorded ↔ KeepsPath roots file) := by
    intro recorded hmem
    obtain ⟨hfile, hhere, -⟩ := mem_findingRecords hmem
    rw [ownPath_iff_keepsPath rfl hhere, hfile]
  have hsome : (∃ recorded, recorded ∈ collectInvariantFindings checker roots file) ↔
      HasFinding checker roots file := by
    unfold collectInvariantFindings
    rw [exists_mem_fill_iff]
    constructor
    · rintro ⟨recorded, hmem⟩
      obtain ⟨ref, href, hfound⟩ := List.mem_flatMap.mp hmem
      exact ⟨ref, href, List.ne_nil_of_mem hfound⟩
    · rintro ⟨ref, href, hfound⟩
      obtain ⟨recorded, hmem⟩ := List.exists_mem_of_ne_nil _ hfound
      exact ⟨recorded, List.mem_flatMap.mpr ⟨ref, href, hmem⟩⟩
  rw [← hsome]
  constructor
  · rintro hown ⟨recorded, hmem⟩
    exact (hkeeps recorded hmem).mp (hown recorded hmem)
  · intro hpath recorded hmem
    exact (hkeeps recorded hmem).mpr (hpath ⟨recorded, hmem⟩)

theorem findings_placed : PlacedBy InvariantFinding.path InvariantFindingRef.location
    (findingReference repositoryRelPath) (collectInvariantFindings checker roots file) := by
  intro recorded hmem output hbuilt
  obtain ⟨hpath, hline, hcolumn⟩ := findingReference_placed hbuilt
  obtain ⟨-, hhere, -⟩ := mem_findingRecords hmem
  refine ⟨_, hpath, ?_⟩
  rw [InvariantFindingRef.location, hline, hcolumn, ← (Prod.mk.inj hhere).2]

theorem translateFinding_congr {item kept : CoercedFinding}
    (hkey : coercedFindingKey kept = coercedFindingKey item) :
    translateFinding repositoryRelPath item = translateFinding repositoryRelPath kept := by
  have hitem : ∀ finding, translateFinding repositoryRelPath finding =
      translateFinding repositoryRelPath (coercedFindingKey finding) := by
    intro finding
    rfl
  rw [hitem item, hitem kept, hkey]

theorem findings_locatedAll_iff {coerced : List CoercedFinding}
    {findings : List InvariantFindingRef}
    (hcoerce : ((collectInvariantFindings checker roots file).mapM fun recorded =>
      coerceFinding recorded.item) = .ok coerced)
    (htranslate : (dedupeBy coercedFindingKey coerced).mapM
      (translateFinding repositoryRelPath) = .ok findings) :
    LocatedAll roots (collectInvariantFindings checker roots file)
        (findingReference repositoryRelPath) InvariantFindingRef.location findings ↔
      ∀ recorded ∈ collectInvariantFindings checker roots file,
        OwnPath roots InvariantFinding.path recorded := by
  apply locatedAll_iff hcoerce htranslate findings_placed
  intro recorded _ other _ item kept _ _ hkey
  left
  exact translateFinding_congr hkey

theorem exists_finding {coerced : List CoercedFinding} {findings : List InvariantFindingRef}
    (hcoerce : ((collectInvariantFindings checker roots file).mapM fun recorded =>
      coerceFinding recorded.item) = .ok coerced)
    (htranslate : (dedupeBy coercedFindingKey coerced).mapM
      (translateFinding repositoryRelPath) = .ok findings)
    (hmem : recorded ∈ collectInvariantFindings checker roots file) :
    ∃ finding ∈ findings, findingReference repositoryRelPath recorded.item = .ok finding := by
  obtain ⟨item, other, kept, output, hitem, -, -, hkey, hbuilt, houtput⟩ :=
    exists_output_of_record hcoerce htranslate hmem
  use output, houtput
  unfold findingReference
  rw [hitem, ok_bind, translateFinding_congr hkey, hbuilt]

/-! ### Sites -/

theorem sites_locatedAll_iff {finding : InvariantFindingRef}
    (hmem : recorded ∈ collectInvariantFindings checker roots file)
    (hbuilt : findingReference repositoryRelPath recorded.item = .ok finding) :
    LocatedAll roots recorded.item.producerSites (siteReference repositoryRelPath)
        StaticAnalysisSiteRef.location finding.producerSitesPreview ↔
      ∀ site ∈ recorded.item.producerSites, KeepsPath roots site.ref.file := by
  obtain ⟨-, -, hhere⟩ := mem_findingRecords hmem
  simp only [findingReference, coerceFinding, coerceSites, List.mapM_map, bind_eq_ok,
    pure_eq_ok] at hbuilt
  obtain ⟨item, ⟨path, -, accessKind, -, line, -, column, -, fieldName, -, subject, -, sites,
    ⟨coerced, hcoerce, hsites⟩, rfl⟩, hbuilt⟩ := hbuilt
  simp only [translateFinding, bind_eq_ok, validated_eq_ok] at hbuilt
  obtain ⟨references, htranslate, entry, -, rfl, -⟩ := hbuilt
  rw [← hsites] at htranslate
  have hplaced : PlacedBy ProducerSite.path StaticAnalysisSiteRef.location
      (siteReference repositoryRelPath) recorded.item.producerSites := by
    intro site hsite output houtput
    obtain ⟨hpath, hline, hcolumn⟩ := siteReference_placed houtput
    refine ⟨_, hpath, ?_⟩
    rw [StaticAnalysisSiteRef.location, hline, hcolumn, ← (Prod.mk.inj (hhere site hsite)).2]
  have hlocated : LocatedAll roots recorded.item.producerSites (siteReference repositoryRelPath)
        StaticAnalysisSiteRef.location references ↔
      ∀ site ∈ recorded.item.producerSites, OwnPath roots ProducerSite.path site := by
    apply locatedAll_iff hcoerce htranslate hplaced
    intro site _ other _ item kept _ _ hkey
    left
    rw [show kept = item from hkey]
  refine hlocated.trans (forall₂_congr fun site hsite => ?_)
  exact ownPath_iff_keepsPath rfl (hhere site hsite)

/-! ### Steps -/

theorem mem_collectStateSites (hstates : collectStateSites checker roots file = .ok states)
    {recorded : Recorded AnalysisStep} (hmem : recorded ∈ states) :
    ∃ ref ∈ file.nodes, ∃ sites, stateSitesAt checker roots ref = .ok sites ∧
      recorded ∈ sites := by
  simp only [collectStateSites, bind_eq_ok, pure_eq_ok] at hstates
  obtain ⟨sites, hsites, rfl⟩ := hstates
  obtain ⟨found, hfound, hin⟩ := List.mem_flatten.mp (mem_of_mem_fill hmem)
  obtain ⟨ref, href, hok⟩ := exists_input_of_mem hsites hfound
  exact ⟨ref, href, found, hok, hin⟩

theorem exists_state (hstates : collectStateSites checker roots file = .ok states) {ref : NodeRef}
    (href : ref ∈ file.nodes) {sites : List (Recorded AnalysisStep)}
    (hsites : stateSitesAt checker roots ref = .ok sites) (hsome : sites ≠ []) :
    ∃ recorded, recorded ∈ states := by
  simp only [collectStateSites, bind_eq_ok, pure_eq_ok] at hstates
  obtain ⟨all, hall, rfl⟩ := hstates
  rw [exists_mem_fill_iff]
  obtain ⟨recorded, hmem⟩ := List.exists_mem_of_ne_nil _ hsome
  obtain ⟨found, hfound, hok⟩ := exists_output_of_mem hall href
  rw [hsites, Except.ok.injEq] at hok
  rw [← hok] at hfound
  exact ⟨recorded, List.mem_flatten.mpr ⟨sites, hfound, hmem⟩⟩

theorem mem_stepRecords (hstates : collectStateSites checker roots file = .ok states)
    {recorded : Recorded AnalysisStep}
    (hmem : recorded ∈ states ++ collectEventFlowSteps checker roots file) :
    recorded.ref.file = file ∧ RecordedHere roots AnalysisStep.location recorded := by
  rw [List.mem_append] at hmem
  cases hmem with
  | inl hstate =>
      obtain ⟨ref, href, sites, hsites, hin⟩ := mem_collectStateSites hstates hstate
      obtain ⟨hfile, hhere⟩ := of_mem_stateSitesAt hsites hin
      exact ⟨hfile.trans (SourceFile.file_of_mem_nodes href), hhere⟩
  | inr hevent =>
      obtain ⟨ref, href, hin⟩ := List.mem_flatMap.mp (mem_of_mem_fill hevent)
      obtain ⟨hfile, hhere⟩ := of_mem_eventStepsAt hin
      exact ⟨hfile.trans (SourceFile.file_of_mem_nodes href), hhere⟩

theorem exists_step_iff (hstates : collectStateSites checker roots file = .ok states) :
    (∃ recorded, recorded ∈ states ++ collectEventFlowSteps checker roots file) ↔
      HasStep checker roots file := by
  constructor
  · rintro ⟨recorded, hmem⟩
    rw [List.mem_append] at hmem
    cases hmem with
    | inl hstate =>
        obtain ⟨ref, href, sites, hsites, hin⟩ := mem_collectStateSites hstates hstate
        exact ⟨ref, href, .inl ⟨sites, hsites, List.ne_nil_of_mem hin⟩⟩
    | inr hevent =>
        obtain ⟨ref, href, hin⟩ := List.mem_flatMap.mp (mem_of_mem_fill hevent)
        exact ⟨ref, href, .inr (List.ne_nil_of_mem hin)⟩
  · rintro ⟨ref, href, hstep⟩
    cases hstep with
    | inl hstate =>
        obtain ⟨sites, hsites, hsome⟩ := hstate
        obtain ⟨recorded, hmem⟩ := exists_state hstates href hsites hsome
        exact ⟨recorded, List.mem_append_left _ hmem⟩
    | inr hevent =>
        obtain ⟨found, hfound⟩ := List.exists_mem_of_ne_nil _ hevent
        have hsome : ∃ recorded, recorded ∈ collectEventFlowSteps checker roots file := by
          unfold collectEventFlowSteps
          rw [exists_mem_fill_iff]
          exact ⟨found, List.mem_flatMap.mpr ⟨ref, href, hfound⟩⟩
        obtain ⟨recorded, hmem⟩ := hsome
        exact ⟨recorded, List.mem_append_right _ hmem⟩

theorem steps_locatedAll_iff {coerced : List AnalysisStep} {steps : List FlowStep}
    (hstates : collectStateSites checker roots file = .ok states)
    (hcoerce : ((states ++ collectEventFlowSteps checker roots file).mapM fun recorded =>
      coerceStep recorded.item) = .ok coerced)
    (htranslate : (dedupeBy coercedStepKey coerced).mapM (translateStep repositoryRelPath) =
      .ok steps) :
    LocatedAll roots (states ++ collectEventFlowSteps checker roots file)
        (stepReference repositoryRelPath) FlowStep.location steps ↔
      (HasStep checker roots file → KeepsPath roots file) := by
  have hkeeps : ∀ recorded ∈ states ++ collectEventFlowSteps checker roots file,
      (OwnPath roots AnalysisStep.path recorded ↔ KeepsPath roots file) := by
    intro recorded hmem
    obtain ⟨hfile, hhere⟩ := mem_stepRecords hstates hmem
    rw [ownPath_iff_keepsPath rfl hhere, hfile]
  have hplaced : PlacedBy AnalysisStep.path FlowStep.location (stepReference repositoryRelPath)
      (states ++ collectEventFlowSteps checker roots file) := by
    intro recorded hmem output hbuilt
    obtain ⟨hpath, hline, hcolumn⟩ := stepReference_placed hbuilt
    refine ⟨_, hpath, ?_⟩
    rw [FlowStep.location, hline, hcolumn,
      ← (Prod.mk.inj (mem_stepRecords hstates hmem).2).2]
  have hlocated : LocatedAll roots (states ++ collectEventFlowSteps checker roots file)
        (stepReference repositoryRelPath) FlowStep.location steps ↔
      ∀ recorded ∈ states ++ collectEventFlowSteps checker roots file,
        OwnPath roots AnalysisStep.path recorded := by
    apply locatedAll_iff hcoerce htranslate hplaced
    intro recorded hmem other hother item kept _ _ _
    right
    rw [hkeeps recorded hmem, hkeeps other hother]
    exact id
  refine hlocated.trans ?_
  rw [← exists_step_iff hstates]
  constructor
  · rintro hown ⟨recorded, hmem⟩
    exact (hkeeps recorded hmem).mp (hown recorded hmem)
  · intro hpath recorded hmem
    exact (hkeeps recorded hmem).mpr (hpath ⟨recorded, hmem⟩)

/-! ### Local steps -/

theorem strip_of_reportedPath {path reported : String} (hok : reportedPath path = .ok reported) :
    strip reported = reported := by
  simp only [reportedPath, bind_eq_ok, pure_eq_ok] at hok
  obtain ⟨required, -, rfl⟩ := hok
  exact strip_strip required

theorem localFlowStep_location_of_reference {edge : FlowEdge} {reference : StaticFlowEdgeRef}
    {step : FlowStep} (hbuilt : edgeReference repositoryRelPath edge = .ok reference)
    (hstep : localFlowStep reference = .ok step) : step.location = reference.location := by
  obtain ⟨hpath, hline, hcolumn⟩ := localFlowStep_location hstep
  rw [strip_of_reportedPath (edgeReference_placed hbuilt).1] at hpath
  rw [FlowStep.location, hpath, hline, hcolumn]
  rfl

theorem localSteps_locatedAll {records : List (Recorded FlowEdge)} {coerced : List FlowEdge}
    {edges : List StaticFlowEdgeRef} {steps : List FlowStep}
    (hcoerce : (records.mapM fun recorded => coerceFlowEdge recorded.item) = .ok coerced)
    (htranslate : (dedupeBy id coerced).mapM (translateFlowEdge repositoryRelPath) = .ok edges)
    (hedges : LocatedAll roots records (edgeReference repositoryRelPath)
      StaticFlowEdgeRef.location edges)
    (hsteps : localFlowSteps edges = .ok steps) :
    LocatedAll roots records (localFlowReference repositoryRelPath) FlowStep.location steps := by
  intro step hstep
  constructor
  · obtain ⟨edge, hedge, hlocal⟩ := exists_input_of_mem hsteps hstep
    obtain ⟨recorded, hrecorded, hbuilt⟩ := (hedges edge hedge).1
    use recorded, hrecorded
    rw [localFlowReference, hbuilt, ok_bind, hlocal]
  · intro recorded hrecorded hbuilt
    obtain ⟨edge, hedge, hlocal⟩ := bind_eq_ok.mp hbuilt
    obtain ⟨item, other, kept, output, hitem, -, -, hkey, htranslated, houtput⟩ :=
      exists_output_of_record hcoerce htranslate hrecorded
    have hsame : output = edge := by
      rw [edgeReference, hitem, ok_bind, show item = kept from hkey.symm, htranslated] at hedge
      exact Except.ok.inj hedge
    rw [localFlowStep_location_of_reference hedge hlocal, ← hsame]
    rw [← hsame] at hedge
    exact (hedges output houtput).2 recorded hrecorded hedge

/-! ### The report -/

theorem analysisLocated_iff_pathsOwn (htarget : IsTargetFile roots file)
    (hreport : analyzeFile checker roots file = .ok report)
    (hresult : translatePayload repositoryRelPath report = .ok result) :
    AnalysisLocated roots repositoryRelPath report result ↔ PathsOwn checker roots file := by
  obtain ⟨states, hstates, rfl⟩ := (analyzeFile_of_target htarget).mp hreport
  simp only [translatePayload, bind_eq_ok, pure_eq_ok] at hresult
  obtain ⟨coercedFindings, hcoerceFindings, coercedEdges, hcoerceEdges, coercedSteps,
    hcoerceSteps, findings, hfindings, edges, hedges, steps, hsteps, rfl⟩ := hresult
  have hlocatedEdges := (edges_locatedAll_iff hcoerceEdges hedges).trans edges_ownPath_iff
  have hlocatedFindings :=
    (findings_locatedAll_iff hcoerceFindings hfindings).trans findings_ownPath_iff
  have hlocatedSteps := steps_locatedAll_iff hstates hcoerceSteps hsteps
  constructor
  · intro hlocated
    obtain ⟨hcalls, hproduced⟩ := hlocatedEdges.mp hlocated.edges
    constructor
    · exact hcalls
    · intro hsome
      cases hsome with
      | inl hproduces => exact hproduced hproduces
      | inr hsome =>
          cases hsome with
          | inl hfinding => exact hlocatedFindings.mp hlocated.findings hfinding
          | inr hstep => exact hlocatedSteps.mp hlocated.steps hstep
    · intro recorded hlast
      have hmem : recorded ∈ collectInvariantFindings checker roots file :=
        mem_fill_iff.mpr hlast
      obtain ⟨finding, hfinding, hbuilt⟩ := exists_finding hcoerceFindings hfindings hmem
      exact (sites_locatedAll_iff hmem hbuilt).mp
        (hlocated.sites recorded hmem finding hfinding hbuilt)
  · intro hpaths
    have hedgesLocated := hlocatedEdges.mpr
      ⟨hpaths.calls, fun hproduces => hpaths.own (.inl hproduces)⟩
    constructor
    · exact hedgesLocated
    · exact hlocatedFindings.mpr fun hfinding => hpaths.own (.inr (.inl hfinding))
    · intro recorded hmem finding _ hbuilt
      exact (sites_locatedAll_iff hmem hbuilt).mpr
        (hpaths.sites recorded (mem_fill_iff.mp hmem))
    · exact hlocatedSteps.mpr fun hstep => hpaths.own (.inr (.inr hstep))
    · intro localSteps hlocal
      exact localSteps_locatedAll hcoerceEdges hedges hedgesLocated hlocal

/-- Every item is located if and only if the paths are those of the nodes. -/
theorem analysisLocated_iff (htarget : IsTargetFile roots file)
    (hreport : analyzeFile checker roots file = .ok report)
    (hresult : translatePayload repositoryRelPath report = .ok result) :
    AnalysisLocated roots repositoryRelPath report result ↔ PathsOwn checker roots file :=
  analysisLocated_iff_pathsOwn htarget hreport hresult

end

/-! ## A call across files -/

def scriptRoots : AnalysisRoots := ⟨["repo"], ["repo"]⟩

def loadFunction : SyntaxNode :=
  plainNode .functionDeclaration .other ""
    [plainNode .identifier .name "load" [], plainNode .block .body "" []]

def loadCallee : SyntaxNode :=
  .node ⟨.identifier, .expression, "load", "load", false, false, 2, 0⟩ []

/-- A call of `load` on the third line. -/
def loadCall : SyntaxNode :=
  .node ⟨.callExpression, .other, "", "load()", false, false, 2, 0⟩ [loadCallee]

/-- The script `load.ts` declares `load` on its only line. -/
def loadScript : SourceFile :=
  ⟨["repo", "src", "load.ts"], plainNode .sourceFile .other "" [loadFunction]⟩

/-- The script `app.ts` calls `load` on its third line. -/
def appScript : SourceFile :=
  ⟨["repo", "src", "app.ts"], plainNode .sourceFile .other "" [loadCall]⟩

/-- The script `home.ts` declares `load` and calls it. -/
def homeScript : SourceFile :=
  ⟨["repo", "src", "home.ts"], plainNode .sourceFile .other "" [loadFunction, loadCall]⟩

/-- The checker of a program whose one function is `load`. -/
def scriptChecker (declaration : NodeRef) : TypeChecker Unit where
  symbolAt ref := if ref.node.text = "load" then some () else none
  isAlias _ := false
  aliasedSymbol _ := none
  declarations _ := some [declaration]
  valueDeclaration _ := some declaration
  symbolName _ := "load"
  optionalFlag _ := false
  typeAt _ := none
  typeText _ := "void"
  signatureFile _ := none

def loadDeclaration : NodeRef := ⟨loadScript, [0], loadFunction, rfl⟩

def homeDeclaration : NodeRef := ⟨homeScript, [0], loadFunction, rfl⟩

/-- The edge of the call in `app.ts`. -/
def appEdge : Recorded FlowEdge :=
  callEdge scriptRoots ⟨appScript, [0], loadCall, rfl⟩ ⟨appScript, [0, 0], loadCallee, rfl⟩
    ⟨loadDeclaration, "load", 1, 1⟩

def homeEdge : Recorded FlowEdge :=
  callEdge scriptRoots ⟨homeScript, [1], loadCall, rfl⟩ ⟨homeScript, [1, 0], loadCallee, rfl⟩
    ⟨homeDeclaration, "load", 1, 1⟩

theorem analyzeFile_homeScript :
    analyzeFile (scriptChecker homeDeclaration) scriptRoots homeScript =
      .ok ⟨[], [homeEdge], []⟩ := by
  rfl

theorem analyzeFile_appScript :
    analyzeFile (scriptChecker loadDeclaration) scriptRoots appScript =
      .ok ⟨[], [appEdge], []⟩ := by
  rfl

theorem scriptChecker_target {declaration callee : NodeRef} {target : DeclarationTarget}
    (hresolved : resolveCallTarget (scriptChecker declaration) scriptRoots callee =
      some target) : target.declaration = declaration := by
  unfold resolveCallTarget at hresolved
  split at hresolved
  · cases hresolved
  · split at hresolved
    · cases hresolved
    · simp only [localDeclarationTarget, resolveAliasedSymbol, scriptChecker,
        Bool.false_eq_true, if_false] at hresolved
      split at hresolved
      · cases hresolved
      next found hfound =>
        have hmem := List.mem_of_find?_eq_some hfound
        rw [← Option.some.inj hresolved]
        exact List.mem_singleton.mp hmem

theorem homeScript_pathsOwn :
    PathsOwn (scriptChecker homeDeclaration) scriptRoots homeScript := by
  constructor
  · intro call _ callee target hresolved _
    rw [scriptChecker_target hresolved.resolves]
    decide
  · intro _
    unfold KeepsPath
    decide
  · intro recorded hlast
    have hmem : recorded ∈ collectInvariantFindings (scriptChecker homeDeclaration) scriptRoots
        homeScript := mem_fill_iff.mpr hlast
    have hnone : collectInvariantFindings (scriptChecker homeDeclaration) scriptRoots
        homeScript = [] := by
      rfl
    rw [hnone] at hmem
    cases hmem

theorem homeScript_located :
    ∃ result, translatePayload "src/home.ts" ⟨[], [homeEdge], []⟩ = .ok result ∧
      AnalysisLocated scriptRoots "src/home.ts" ⟨[], [homeEdge], []⟩ result := by
  have hok : ∃ result, translatePayload "src/home.ts" ⟨[], [homeEdge], []⟩ = .ok result :=
    ⟨_, rfl⟩
  obtain ⟨result, hresult⟩ := hok
  use result, hresult
  have htarget : IsTargetFile scriptRoots homeScript := by
    unfold IsTargetFile
    decide
  exact (analysisLocated_iff htarget analyzeFile_homeScript hresult).mpr homeScript_pathsOwn

theorem appScript_not_pathsOwn :
    ¬ PathsOwn (scriptChecker loadDeclaration) scriptRoots appScript := by
  intro hpaths
  have hrecords : edgeRecords (scriptChecker loadDeclaration) scriptRoots appScript =
      [appEdge] := by
    rfl
  have hpath := hpaths.calls ⟨appScript, [0], loadCall, rfl⟩ (by
    exact List.mem_map.mpr ⟨⟨([0], loadCall), LabelledTree.mem_visited_iff.mpr rfl⟩,
      List.mem_attach _ _, rfl⟩)
    ⟨appScript, [0, 0], loadCallee, rfl⟩ ⟨loadDeclaration, "load", 1, 1⟩
    ⟨rfl, rfl, rfl⟩ (by
      rw [hrecords]
      exact ⟨[], [], rfl, by simp⟩)
  exact absurd hpath (by decide)

/-- The edge of a call into another file is recorded at the place of the call in that file. -/
theorem analysisLocated_not_always :
    ¬ ∀ (checker : TypeChecker Unit) (roots : AnalysisRoots) (file : SourceFile)
        (repositoryRelPath : String) (report : AnalysisReport) (result : AnalysisResult),
      IsTargetFile roots file → analyzeFile checker roots file = .ok report →
      translatePayload repositoryRelPath report = .ok result →
      AnalysisLocated roots repositoryRelPath report result := by
  intro halways
  have hok : ∃ result, translatePayload "src/app.ts" ⟨[], [appEdge], []⟩ = .ok result :=
    ⟨_, rfl⟩
  obtain ⟨result, hresult⟩ := hok
  have htarget : IsTargetFile scriptRoots appScript := by
    unfold IsTargetFile
    decide
  have hlocated := halways (scriptChecker loadDeclaration) scriptRoots appScript "src/app.ts" _ _
    htarget analyzeFile_appScript hresult
  exact appScript_not_pathsOwn
    ((analysisLocated_iff_pathsOwn htarget analyzeFile_appScript hresult).mp hlocated)

end SuitCode
