import SuitCode.FlowPreview
import SuitCode.RepositoryModels
import SuitCode.StaticAnalysis

/-!
# Translating the static analysis

The service reads the report of the probe, keeps each item once, and builds the references
which the intelligence hands out.
-/

namespace SuitCode

open ExceptList KeyedList PosixText

def requiredString (value fieldName : String) : PyResult String :=
  if isBlank value then
    raiseValueError
      ("TypeScript static-analysis field `" ++ fieldName ++ "` must be a non-empty string")
  else .ok (strip value)

def optionalString (value : Option String) (fieldName : String) : PyResult (Option String) :=
  match value with
  | none => .ok none
  | some value =>
      if isBlank value then
        raiseValueError ("TypeScript static-analysis field `" ++ fieldName ++
          "` must be a non-empty string or null")
      else .ok (some (strip value))

def requiredInt (value : ℕ) (fieldName : String) : PyResult ℕ :=
  if value < 1 then
    raiseValueError
      ("TypeScript static-analysis field `" ++ fieldName ++ "` must be a positive integer")
  else .ok value

def requiredPath (value : String) : PyResult String := do
  let path ← requiredString value "path"
  normalizeRepositoryRelativePath path

/-! ## Reading the report -/

/-- One site of `_coerce_sites`. -/
def coerceSite (site : ProducerSite) : PyResult ProducerSite := do
  let path ← requiredPath site.path
  let lineStart ← requiredInt site.lineStart "line_start"
  let columnStart ← requiredInt site.columnStart "column_start"
  let label ← requiredString site.label "label"
  pure ⟨path, lineStart, columnStart, label⟩

def coerceSites (sites : List ProducerSite) : PyResult (List ProducerSite) := do
  let coerced ← sites.mapM coerceSite
  pure (dedupeBy id coerced)

structure CoercedFinding where
  path : String
  accessKind : String
  lineStart : ℕ
  columnStart : ℕ
  fieldName : String
  subjectLabel : String
  declaredType : Option String
  producerSites : List ProducerSite
  deriving DecidableEq, Repr

/-- One finding of `_coerce_findings`. -/
def coerceFinding (finding : InvariantFinding) : PyResult CoercedFinding := do
  let path ← requiredPath finding.path
  let accessKind ← requiredString finding.accessKind "access_kind"
  let lineStart ← requiredInt finding.lineStart "line_start"
  let columnStart ← requiredInt finding.columnStart "column_start"
  let fieldName ← requiredString finding.fieldName "field_name"
  let subjectLabel ← requiredString finding.subjectLabel "subject_label"
  let producerSites ← coerceSites (finding.producerSites.map Recorded.item)
  pure
    { path := path
      accessKind := accessKind
      lineStart := lineStart
      columnStart := columnStart
      fieldName := fieldName
      subjectLabel := subjectLabel
      declaredType :=
        if isBlank finding.declaredType then none else some (strip finding.declaredType)
      producerSites := producerSites }

def coercedFindingKey (finding : CoercedFinding) : CoercedFinding :=
  { finding with declaredType := none }

/-- One edge of `_coerce_flow_edges`. -/
def coerceFlowEdge (edge : FlowEdge) : PyResult FlowEdge := do
  let path ← requiredPath edge.path
  let edgeKind ← requiredString edge.edgeKind "edge_kind"
  let lineStart ← requiredInt edge.lineStart "line_start"
  let columnStart ← requiredInt edge.columnStart "column_start"
  let sourceLabel ← requiredString edge.sourceLabel "source_label"
  let targetLabel ← requiredString edge.targetLabel "target_label"
  pure ⟨path, edgeKind, lineStart, columnStart, sourceLabel, targetLabel⟩

/-- One step of `_coerce_implementation_flow_steps`. -/
def coerceStep (step : AnalysisStep) : PyResult AnalysisStep := do
  let path ← requiredPath step.path
  let stepKind ← requiredString step.stepKind "step_kind"
  let lineStart ← requiredInt step.lineStart "line_start"
  let columnStart ← requiredInt step.columnStart "column_start"
  let sourceLabel ← requiredString step.sourceLabel "source_label"
  let targetLabel ← optionalString step.targetLabel "target_label"
  let detailLabel ← optionalString step.detailLabel "detail_label"
  let evidenceSummary ← requiredString step.evidenceSummary "evidence_summary"
  pure ⟨path, stepKind, lineStart, columnStart, sourceLabel, targetLabel, detailLabel,
    evidenceSummary⟩

def coercedStepKey (step : AnalysisStep) : AnalysisStep := { step with evidenceSummary := "" }

/-! ## References -/

/-- `_flow_evidence_paths` and `_producer_evidence_paths`. -/
def flowEvidencePaths (repositoryRelPath edgePath : String) : List String :=
  if repositoryRelPath = edgePath then [repositoryRelPath] else [repositoryRelPath, edgePath]

def findingEvidencePaths (repositoryRelPath : String) (finding : CoercedFinding) : List String :=
  (finding.producerSites.foldl
    (fun paths site => if site.path ∈ paths then paths else paths ++ [site.path])
    [repositoryRelPath]).take 10

def typescriptEntry (summary : String) (evidencePaths : List String) : PyResult ProvenanceEntry :=
  derivedSummaryProvenance .dependencyGraph summary evidencePaths (some "typescript")

def translateSite (repositoryRelPath : String) (site : ProducerSite) :
    PyResult StaticAnalysisSiteRef := do
  let entry ← typescriptEntry
    ("deterministic TypeScript static analysis identifies local producer `" ++ site.label ++ "`")
    (flowEvidencePaths repositoryRelPath site.path)
  validated
    [(isBlank site.path, "repository_rel_path must not be empty"),
      (isBlank site.label, "label must not be empty"),
      (site.lineStart < 1, "line_start must be >= 1"),
      (site.columnStart < 1, "column_start must be >= 1")]
    ⟨strip site.path, site.lineStart, site.columnStart, strip site.label, [entry]⟩

def translateFinding (repositoryRelPath : String) (finding : CoercedFinding) :
    PyResult InvariantFindingRef := do
  let sites ← finding.producerSites.mapM (translateSite repositoryRelPath)
  let entry ← typescriptEntry
    ("deterministic TypeScript static analysis shows `" ++ finding.fieldName ++
      "` may be missing at access site")
    (findingEvidencePaths repositoryRelPath finding)
  validated
    [(isBlank finding.path, "repository_rel_path must not be empty"),
      (isBlank finding.fieldName, "field_name must not be empty"),
      (isBlank finding.subjectLabel, "subject_label must not be empty"),
      (finding.lineStart < 1, "line_start must be >= 1"),
      (finding.columnStart < 1, "column_start must be >= 1")]
    ⟨strip finding.path, finding.lineStart, finding.columnStart, strip finding.fieldName,
      strip finding.subjectLabel, sites, [entry]⟩

def StaticFlowEdgeKind.ofValue (value : String) : PyResult StaticFlowEdgeKind :=
  if value = "calls_local_symbol" then .ok .callsLocalSymbol
  else if value = "produces_value_for" then .ok .producesValueFor
  else raiseValueError ("'" ++ value ++ "' is not a valid StaticFlowEdgeKind")

def translateFlowEdge (repositoryRelPath : String) (edge : FlowEdge) :
    PyResult StaticFlowEdgeRef := do
  let edgeKind ← StaticFlowEdgeKind.ofValue edge.edgeKind
  let entry ← typescriptEntry
    ("deterministic TypeScript static analysis shows `" ++ edge.sourceLabel ++
      "` flows into `" ++ edge.targetLabel ++ "`")
    (flowEvidencePaths repositoryRelPath edge.path)
  validated
    [(isBlank edge.path, "repository_rel_path must not be empty"),
      (isBlank edge.sourceLabel, "source_label must not be empty"),
      (isBlank edge.targetLabel, "target_label must not be empty"),
      (edge.lineStart < 1, "line_start must be >= 1"),
      (edge.columnStart < 1, "column_start must be >= 1")]
    ⟨strip edge.path, edgeKind, edge.lineStart, edge.columnStart, strip edge.sourceLabel,
      strip edge.targetLabel, [entry]⟩

def FlowStepKind.ofValue (value : String) : PyResult FlowStepKind :=
  let kinds : List FlowStepKind :=
    [.symbolAnchor, .externalReferenceAnchor, .testSeam, .stateSite, .propEdge, .renderEdge,
      .localFlowEdge, .eventSubscribe, .eventPublish, .apiCall, .contractUse,
      .implementationAnchor, .relatedTestAnchor]
  match kinds.find? fun kind => kind.value = value with
  | some kind => .ok kind
  | none => raiseValueError ("'" ++ value ++ "' is not a valid ImplementationFlowStepKind")

/-- The checks of `ImplementationFlowStepRef` but for those of its provenance. -/
def flowStepChecks (step : FlowStep) : List (Bool × String) :=
  [(isBlank step.repositoryRelPath, "repository_rel_path must not be empty"),
    (isBlank step.sourceLabel, "source_label must not be empty"),
    (step.targetLabel.any isBlank, "target_label must not be empty"),
    (step.detailLabel.any isBlank, "detail_label must not be empty"),
    (step.lineStart < 1, "line_start must be >= 1"),
    (step.columnStart < 1, "column_start must be >= 1"),
    (step.provenance.isEmpty, "provenance must not be empty"),
    (step.provenance.any fun entry => entry.sourceKind = .heuristic,
      "implementation flow provenance must not be heuristic")]

def FlowStep.create (step : FlowStep) : PyResult FlowStep :=
  validated (flowStepChecks step)
    { step with
      repositoryRelPath := strip step.repositoryRelPath
      sourceLabel := strip step.sourceLabel
      targetLabel := step.targetLabel.map strip
      detailLabel := step.detailLabel.map strip }

def translateStep (repositoryRelPath : String) (step : AnalysisStep) : PyResult FlowStep := do
  let stepKind ← FlowStepKind.ofValue step.stepKind
  let entry ← typescriptEntry step.evidenceSummary (flowEvidencePaths repositoryRelPath step.path)
  FlowStep.create
    ⟨step.path, step.lineStart, step.columnStart, stepKind, step.sourceLabel, step.targetLabel,
      step.detailLabel, [entry]⟩

structure AnalysisResult where
  findings : List InvariantFindingRef
  edges : List StaticFlowEdgeRef
  steps : List FlowStep

def translatePayload (repositoryRelPath : String) (report : AnalysisReport) :
    PyResult AnalysisResult := do
  let findings ← report.findings.mapM fun recorded => coerceFinding recorded.item
  let edges ← report.edges.mapM fun recorded => coerceFlowEdge recorded.item
  let steps ← report.steps.mapM fun recorded => coerceStep recorded.item
  let findings ← (dedupeBy coercedFindingKey findings).mapM (translateFinding repositoryRelPath)
  let edges ← (dedupeBy id edges).mapM (translateFlowEdge repositoryRelPath)
  let steps ← (dedupeBy coercedStepKey steps).mapM (translateStep repositoryRelPath)
  pure ⟨findings, edges, steps⟩

def localFlowStep (edge : StaticFlowEdgeRef) : PyResult FlowStep :=
  FlowStep.create
    ⟨edge.repositoryRelPath, edge.lineStart, edge.columnStart, .localFlowEdge, edge.sourceLabel,
      some edge.targetLabel, none, edge.provenance⟩

def localFlowSteps (edges : List StaticFlowEdgeRef) : PyResult (List FlowStep) :=
  edges.mapM localFlowStep

end SuitCode
