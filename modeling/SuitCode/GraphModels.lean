import SuitCode.RepositoryModels
import SuitCode.Library.JsonText

/-!
# Nodes, edges and evidence of the workspace graph

The models a workspace graph stores, with the checks of their validators.  A
node has the fields common to all kinds and a body with the fields of its own
kind.  The accepted values are those which went through the validators.
-/

namespace SuitCode

/-- `NodeKind`: the kinds of stored nodes. -/
inductive GraphNodeKind where
  | repository
  | buildSystem
  | component
  | aggregator
  | runner
  | testDefinition
  | packageManager
  | externalPackage
  | file
  | entity
  deriving DecidableEq, Repr

namespace GraphNodeKind

def value : GraphNodeKind → String
  | repository => "repository"
  | buildSystem => "build_system"
  | component => "component"
  | aggregator => "aggregator"
  | runner => "runner"
  | testDefinition => "test_definition"
  | packageManager => "package_manager"
  | externalPackage => "external_package"
  | file => "file"
  | entity => "entity"

def all : List GraphNodeKind :=
  [repository, buildSystem, component, aggregator, runner, testDefinition, packageManager,
    externalPackage, file, entity]

end GraphNodeKind

inductive EdgeKind where
  | dependsOn
  | contains
  | fileContainsEntity
  | runs
  | produces
  deriving DecidableEq, Repr

namespace EdgeKind

def value : EdgeKind → String
  | dependsOn => "depends_on"
  | contains => "contains"
  | fileContainsEntity => "file_contains_entity"
  | runs => "runs"
  | produces => "produces"

def all : List EdgeKind := [dependsOn, contains, fileContainsEntity, runs, produces]

theorem value_injective : Function.Injective value := by
  intro left right heq
  cases left <;> cases right <;> first | rfl | exact absurd heq (by decide)

end EdgeKind

inductive BuildSystemKind where
  | cmake
  | cargo
  | go
  | npm
  | pip
  | bazel
  | other
  deriving DecidableEq, Repr

def BuildSystemKind.value : BuildSystemKind → String
  | .cmake => "cmake"
  | .cargo => "cargo"
  | .go => "go"
  | .npm => "npm"
  | .pip => "pip"
  | .bazel => "bazel"
  | .other => "other"

inductive NodeBody where
  | repository (rootPath : String)
  | buildSystem (buildSystem : BuildSystemKind) (configurationName : String)
      (toolVersion structuralFingerprint : Option String)
  | component (componentKind : ComponentKind) (language : ProgrammingLanguage)
      (sourceRoots artifactPaths : List String)
  | aggregator
  | runner (argv : List String) (cwd : Option String)
  | testDefinition (framework : TestFramework) (testFiles : List String)
  | packageManager (manager : String) (lockfilePath : Option String)
  | externalPackage (managerId versionSpec : Option String)
  | file (repositoryRelPath : String) (language : Option ProgrammingLanguage)
      (ownerId : String)
  | entity (repositoryRelPath entityKind : String)
      (lineStart lineEnd columnStart columnEnd : Option ℤ) (signature : Option String)
  deriving DecidableEq, Repr

def NodeBody.kind : NodeBody → GraphNodeKind
  | .repository .. => .repository
  | .buildSystem .. => .buildSystem
  | .component .. => .component
  | .aggregator => .aggregator
  | .runner .. => .runner
  | .testDefinition .. => .testDefinition
  | .packageManager .. => .packageManager
  | .externalPackage .. => .externalPackage
  | .file .. => .file
  | .entity .. => .entity

structure GraphNode where
  id : String
  name : String
  evidenceIds : List String
  provenance : List ProvenanceEntry
  body : NodeBody
  deriving DecidableEq, Repr

def GraphNode.kind (node : GraphNode) : GraphNodeKind := node.body.kind

structure Edge where
  kind : EdgeKind
  src : String
  dst : String
  evidenceIds : List String
  deriving DecidableEq, Repr

abbrev EdgeKey := String × EdgeKind × String

def edgeKey (edge : Edge) : EdgeKey := (edge.src, edge.kind, edge.dst)

structure Evidence where
  id : String
  filePath : Option String
  lineStart : Option ℤ
  lineEnd : Option ℤ
  tool : Option String
  message : Option String
  logPath : Option String
  deriving DecidableEq, Repr

/-! ## Validators -/

/-- `end is not None and start is not None and end < start`. -/
def endsBefore (first last : Option ℤ) : Bool :=
  match first, last with
  | some first, some last => last < first
  | _, _ => false

def structuralProvenanceChecks (label : String) (provenance : List ProvenanceEntry) :
    List (Bool × String) :=
  [(provenance.isEmpty, label ++ " provenance must not be empty"),
    (provenance.any (·.sourceKind = .lsp), label ++ " provenance must not be sourced from lsp")]

def NodeBody.checks (provenance : List ProvenanceEntry) : NodeBody → List (Bool × String)
  | .repository .. => []
  | .buildSystem .. => []
  | .component .. => structuralProvenanceChecks "component" provenance
  | .aggregator => structuralProvenanceChecks "aggregator" provenance
  | .runner .. =>
      [(provenance.isEmpty, "runner provenance must not be empty"),
        (provenance.all (·.sourceKind = .ownership),
          "runner provenance must not be ownership-only")]
  | .testDefinition .. =>
      [(provenance.isEmpty, "test definition provenance must not be empty")]
  | .packageManager .. => structuralProvenanceChecks "package manager" provenance
  | .externalPackage .. => structuralProvenanceChecks "external package" provenance
  | .file .. => [(provenance.isEmpty, "file provenance must not be empty")]
  | .entity _ _ lineStart lineEnd columnStart columnEnd _ =>
      [(endsBefore lineStart lineEnd, "line_end must be >= line_start"),
        ((lineStart = none || lineEnd = none || lineStart = lineEnd) &&
            endsBefore columnStart columnEnd,
          "column_end must be >= column_start"),
        (provenance.isEmpty, "entity provenance must not be empty"),
        (provenance.all fun item => item.sourceKind ≠ .lsp && item.sourceKind ≠ .syntactic,
          "entity provenance must include lsp or syntax evidence")]

def GraphNode.validate (node : GraphNode) : PyResult GraphNode :=
  validated (node.body.checks node.provenance) node

def Evidence.validate (evidence : Evidence) : PyResult Evidence :=
  validated [(endsBefore evidence.lineStart evidence.lineEnd,
    "line_end must be >= line_start")] evidence

/-! ## Accepted values -/

/-- The entry came out of its validators. -/
def ProvenanceEntry.Accepted (entry : ProvenanceEntry) : Prop :=
  ∃ evidenceSummary evidencePaths,
    ProvenanceEntry.create entry.confidenceMode entry.sourceKind entry.sourceTool
      evidenceSummary evidencePaths = .ok entry

/-- The node came out of its validators, and so did its provenance entries. -/
structure GraphNode.Accepted (node : GraphNode) : Prop where
  entries : ∀ entry ∈ node.provenance, entry.Accepted
  checks : node.validate = .ok node

def Evidence.Accepted (evidence : Evidence) : Prop := evidence.validate = .ok evidence

instance (evidence : Evidence) : Decidable evidence.Accepted :=
  inferInstanceAs (Decidable (evidence.validate = .ok evidence))

end SuitCode
