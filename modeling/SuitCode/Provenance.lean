import SuitCode.Exceptions
import SuitCode.Library.PosixText

/-!
# Provenance entries

Every fact of the repository model carries the evidence it was derived from.
This module holds the entry model with its validators, the builder of derived
entries and the merging and summarising functions used by the change-set
service.
-/

namespace SuitCode

open PosixText

/-- Lexical normal form of a repository-relative path.  The result may not be
absolute or begin by leaving the root; inner `..` segments are kept. -/
def normalizeRepositoryRelativePath (path : String) : PyResult String :=
  let normalized :=
    purePosixPath (removePrefix "./" (strip (replaceChar '\\' '/' path)))
  if startsWith normalized "/" || normalized = ".." || startsWith normalized "../" then
    raiseValueError "path must be repository-root relative"
  else
    .ok normalized

inductive ConfidenceMode where
  | authoritative
  | derived
  | heuristic
  deriving DecidableEq, Repr

def ConfidenceMode.value : ConfidenceMode → String
  | .authoritative => "authoritative"
  | .derived => "derived"
  | .heuristic => "heuristic"

inductive SourceKind where
  | manifest
  | document
  | syntactic
  | lsp
  | testTool
  | qualityTool
  | ownership
  | dependencyGraph
  | heuristic
  deriving DecidableEq, Repr

def SourceKind.value : SourceKind → String
  | .manifest => "manifest"
  | .document => "document"
  | .syntactic => "syntax"
  | .lsp => "lsp"
  | .testTool => "test_tool"
  | .qualityTool => "quality_tool"
  | .ownership => "ownership"
  | .dependencyGraph => "dependency_graph"
  | .heuristic => "heuristic"

structure ProvenanceEntry where
  confidenceMode : ConfidenceMode
  sourceKind : SourceKind
  sourceTool : Option String
  evidenceSummary : String
  evidencePaths : List String
  deriving DecidableEq, Repr

/-- The `evidence_paths` validator, with the paths already accepted. -/
def validateEvidencePaths : List String → List String → PyResult (List String)
  | accepted, [] => .ok accepted
  | accepted, item :: items => do
      if isBlank item then
        raiseValueError "evidence_paths must not contain empty values"
      else
        let candidate := strip (replaceChar '\\' '/' item)
        let normalized ←
          if !containsText candidate "://" && !startsWith candidate "/" then
            normalizeRepositoryRelativePath candidate
          else
            pure candidate
        if normalized ∈ accepted then
          raiseValueError "evidence_paths must not contain duplicates"
        else
          validateEvidencePaths (accepted ++ [normalized]) items

def ProvenanceEntry.create (confidenceMode : ConfidenceMode) (sourceKind : SourceKind)
    (sourceTool : Option String) (evidenceSummary : String)
    (evidencePaths : List String) : PyResult ProvenanceEntry := do
  if sourceTool.any isBlank then
    raiseValueError "source_tool must not be empty"
  else if isBlank evidenceSummary then
    raiseValueError "evidence_summary must not be empty"
  else
    let paths ← validateEvidencePaths [] evidencePaths
    pure
      { confidenceMode := confidenceMode
        sourceKind := sourceKind
        sourceTool := sourceTool
        evidenceSummary := strip evidenceSummary
        evidencePaths := paths }

def derivedSummaryProvenance (sourceKind : SourceKind) (evidenceSummary : String)
    (evidencePaths : List String) (sourceTool : Option String) :
    PyResult ProvenanceEntry :=
  ProvenanceEntry.create .derived sourceKind sourceTool evidenceSummary evidencePaths

/-- `_merged_provenance`: the entries of all groups, each kept once. -/
def mergedProvenance (groups : List (List ProvenanceEntry)) : List ProvenanceEntry :=
  groups.flatten.foldl
    (fun merged entry => if entry ∈ merged then merged else merged ++ [entry]) []

/-- The evidence paths of the entries, each kept once, cut at `limit`. -/
def mergeProvenancePaths (entries : List ProvenanceEntry) (limit : ℕ) :
    PyResult (List String) :=
  if limit < 1 then
    raiseValueError "limit must be at least 1"
  else if entries = [] then
    raiseValueError "provenance entries must not be empty"
  else
    .ok (((entries.flatMap ProvenanceEntry.evidencePaths).foldl
      (fun merged path => if path ∈ merged then merged else merged ++ [path])
      []).take limit)

def preferredConfidenceMode (entries : List ProvenanceEntry) : PyResult ConfidenceMode :=
  if entries = [] then
    raiseValueError "provenance entries must not be empty"
  else if entries.any (·.confidenceMode = .authoritative) then
    .ok .authoritative
  else if entries.any (·.confidenceMode = .derived) then
    .ok .derived
  else
    .ok .heuristic

/-- The order in which `preferred_source_kind` chooses. -/
def sourceKindPrecedence : List SourceKind :=
  [.testTool, .qualityTool, .lsp, .manifest, .document, .dependencyGraph, .ownership,
    .heuristic]

def preferredSourceKind (entries : List ProvenanceEntry) : PyResult SourceKind :=
  match entries with
  | [] => raiseValueError "provenance entries must not be empty"
  | first :: _ =>
      .ok ((sourceKindPrecedence.find? fun kind =>
        entries.any fun entry => entry.sourceKind = kind).getD first.sourceKind)

def preferredSourceTool (entries : List ProvenanceEntry) : PyResult (Option String) :=
  if entries = [] then
    raiseValueError "provenance entries must not be empty"
  else
    .ok (entries.findSome? ProvenanceEntry.sourceTool)

def isAuthoritativeTestProvenance (provenance : List ProvenanceEntry) : Bool :=
  provenance.any (·.confidenceMode = .authoritative)

end SuitCode
