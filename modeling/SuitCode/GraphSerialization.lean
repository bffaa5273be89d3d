import SuitCode.GraphModels

/-!
# Payloads of the workspace graph

Nodes, edges and evidence are stored as canonical JSON texts.  Reading a
payload parses the text, checks the fields of the model of its kind and runs
the validators again.
-/

namespace SuitCode

open ExceptList JsonText KeyedList

inductive GraphException where
  | integrityError (message remediation : String)
  | storeError (message remediation : String)
  | queryLimitError (message remediation : String)
  | notFoundError (message remediation : String)
  | scopeError (message remediation : String)
  | python (error : PyError)
  | jsonDecodeError
  | keyError (name : String)
  | operationalError (message : String)
  /-- An exception of the caller's own code. -/
  | raised (name : String)
  deriving DecidableEq, Repr

abbrev GraphResult := Except GraphException

def liftPy {α : Type} : PyResult α → GraphResult α
  | .ok value => .ok value
  | .error error => .error (.python error)

/-! ## Dumping -/

def dumpOptional {α : Type} (dump : α → Json) : Option α → Json
  | none => .null
  | some value => dump value

def dumpStrings (values : List String) : Json := .arr (values.map .str)

def ProvenanceEntry.dump (entry : ProvenanceEntry) : Json :=
  .obj
    [("confidence_mode", .str entry.confidenceMode.value),
      ("source_kind", .str entry.sourceKind.value),
      ("source_tool", dumpOptional .str entry.sourceTool),
      ("evidence_summary", .str entry.evidenceSummary),
      ("evidence_paths", dumpStrings entry.evidencePaths)]

def NodeBody.members : NodeBody → List (String × Json)
  | .repository rootPath => [("root_path", .str rootPath)]
  | .buildSystem system configurationName toolVersion structuralFingerprint =>
      [("build_system", .str system.value),
        ("configuration_name", .str configurationName),
        ("tool_version", dumpOptional .str toolVersion),
        ("structural_fingerprint", dumpOptional .str structuralFingerprint)]
  | .component componentKind language sourceRoots artifactPaths =>
      [("component_kind", .str componentKind.value),
        ("language", .str language.value),
        ("source_roots", dumpStrings sourceRoots),
        ("artifact_paths", dumpStrings artifactPaths)]
  | .aggregator => []
  | .runner argv cwd => [("argv", dumpStrings argv), ("cwd", dumpOptional .str cwd)]
  | .testDefinition framework testFiles =>
      [("framework", .str framework.value), ("test_files", dumpStrings testFiles)]
  | .packageManager manager lockfilePath =>
      [("manager", .str manager), ("lockfile_path", dumpOptional .str lockfilePath)]
  | .externalPackage managerId versionSpec =>
      [("manager_id", dumpOptional .str managerId),
        ("version_spec", dumpOptional .str versionSpec)]
  | .file repositoryRelPath language ownerId =>
      [("repository_rel_path", .str repositoryRelPath),
        ("language", dumpOptional (fun language => .str language.value) language),
        ("owner_id", .str ownerId)]
  | .entity repositoryRelPath entityKind lineStart lineEnd columnStart columnEnd signature =>
      [("repository_rel_path", .str repositoryRelPath),
        ("entity_kind", .str entityKind),
        ("line_start", dumpOptional .int lineStart),
        ("line_end", dumpOptional .int lineEnd),
        ("column_start", dumpOptional .int columnStart),
        ("column_end", dumpOptional .int columnEnd),
        ("signature", dumpOptional .str signature)]

def GraphNode.members (node : GraphNode) : List (String × Json) :=
  [("id", .str node.id),
    ("kind", .str node.kind.value),
    ("name", .str node.name),
    ("evidence_ids", dumpStrings node.evidenceIds),
    ("provenance", .arr (node.provenance.map ProvenanceEntry.dump))] ++ node.body.members

def Edge.members (edge : Edge) : List (String × Json) :=
  [("kind", .str edge.kind.value),
    ("src", .str edge.src),
    ("dst", .str edge.dst),
    ("evidence_ids", dumpStrings edge.evidenceIds)]

def Evidence.members (evidence : Evidence) : List (String × Json) :=
  [("id", .str evidence.id),
    ("file_path", dumpOptional .str evidence.filePath),
    ("line_start", dumpOptional .int evidence.lineStart),
    ("line_end", dumpOptional .int evidence.lineEnd),
    ("tool", dumpOptional .str evidence.tool),
    ("message", dumpOptional .str evidence.message),
    ("log_path", dumpOptional .str evidence.logPath)]

def nodePayloadJson (node : GraphNode) : String := dumps (.obj node.members)

def edgePayloadJson (edge : Edge) : String := dumps (.obj edge.members)

def evidencePayloadJson (evidence : Evidence) : String := dumps (.obj evidence.members)

/-! ## Field readers -/

def readStr : Json → PyResult String
  | .str value => .ok value
  | _ => raiseValueError "Input should be a valid string"

def readInt : Json → PyResult ℤ
  | .int value => .ok value
  | _ => raiseValueError "Input should be a valid integer"

def readOptional {α : Type} (read : Json → PyResult α) : Json → PyResult (Option α)
  | .null => .ok none
  | value => do
      let value ← read value
      pure (some value)

def readTuple {α : Type} (read : Json → PyResult α) : Json → PyResult (List α)
  | .arr items => items.mapM read
  | _ => raiseValueError "Input should be a valid tuple"

def readEnum {α : Type} (members : List α) (value : α → String) : Json → PyResult α
  | .str text =>
      match members.find? fun member => value member = text with
      | some member => .ok member
      | none => raiseValueError "Input should be a member of the enumeration"
  | _ => raiseValueError "Input should be a member of the enumeration"

def requiredField {α : Type} (members : List (String × Json)) (name : String)
    (read : Json → PyResult α) : PyResult α :=
  match member? members name with
  | some value => read value
  | none => raiseValueError "Field required"

def defaultField {α : Type} (members : List (String × Json)) (name : String) (default : α)
    (read : Json → PyResult α) : PyResult α :=
  match member? members name with
  | some value => read value
  | none => .ok default

/-- `extra="forbid"`. -/
def forbidExtra (fields : List String) (members : List (String × Json)) : PyResult Unit :=
  if members.all fun member => member.1 ∈ fields then
    .ok ()
  else
    raiseValueError "Extra inputs are not permitted"

/-! ## Reading models -/

def readProvenanceEntry : Json → PyResult ProvenanceEntry
  | .obj members => do
      let confidenceMode ← requiredField members "confidence_mode"
        (readEnum [.authoritative, .derived, .heuristic] ConfidenceMode.value)
      let sourceKind ← requiredField members "source_kind"
        (readEnum [.manifest, .document, .syntactic, .lsp, .testTool, .qualityTool, .ownership,
          .dependencyGraph, .heuristic] SourceKind.value)
      let sourceTool ← defaultField members "source_tool" none (readOptional readStr)
      let evidenceSummary ← requiredField members "evidence_summary" readStr
      let evidencePaths ← defaultField members "evidence_paths" [] (readTuple readStr)
      forbidExtra ["confidence_mode", "source_kind", "source_tool", "evidence_summary",
        "evidence_paths"] members
      ProvenanceEntry.create confidenceMode sourceKind sourceTool evidenceSummary evidencePaths
  | _ => raiseValueError "Input should be a valid dictionary"

def readLanguage : Json → PyResult ProgrammingLanguage :=
  readEnum [.python, .cpp, .c, .java, .javascript, .typescript, .go, .rust, .other]
    ProgrammingLanguage.value

def GraphNodeKind.fields : GraphNodeKind → List String
  | repository => ["root_path"]
  | buildSystem => ["build_system", "configuration_name", "tool_version", "structural_fingerprint"]
  | component => ["component_kind", "language", "source_roots", "artifact_paths"]
  | aggregator => []
  | runner => ["argv", "cwd"]
  | testDefinition => ["framework", "test_files"]
  | packageManager => ["manager", "lockfile_path"]
  | externalPackage => ["manager_id", "version_spec"]
  | file => ["repository_rel_path", "language", "owner_id"]
  | entity =>
      ["repository_rel_path", "entity_kind", "line_start", "line_end", "column_start",
        "column_end", "signature"]

def readBody (members : List (String × Json)) : GraphNodeKind → PyResult NodeBody
  | .repository => do
      let rootPath ← requiredField members "root_path" readStr
      pure (.repository rootPath)
  | .buildSystem => do
      let buildSystem ← requiredField members "build_system"
        (readEnum [.cmake, .cargo, .go, .npm, .pip, .bazel, .other] BuildSystemKind.value)
      let configurationName ← requiredField members "configuration_name" readStr
      let toolVersion ← defaultField members "tool_version" none (readOptional readStr)
      let structuralFingerprint ←
        defaultField members "structural_fingerprint" none (readOptional readStr)
      pure (.buildSystem buildSystem configurationName toolVersion structuralFingerprint)
  | .component => do
      let componentKind ← requiredField members "component_kind"
        (readEnum [.library, .binary, .service, .package, .other] ComponentKind.value)
      let language ← requiredField members "language" readLanguage
      let sourceRoots ← defaultField members "source_roots" [] (readTuple readStr)
      let artifactPaths ← defaultField members "artifact_paths" [] (readTuple readStr)
      pure (.component componentKind language sourceRoots artifactPaths)
  | .aggregator => pure .aggregator
  | .runner => do
      let argv ← defaultField members "argv" [] (readTuple readStr)
      let cwd ← defaultField members "cwd" none (readOptional readStr)
      pure (.runner argv cwd)
  | .testDefinition => do
      let framework ← requiredField members "framework"
        (readEnum [.goTest, .pytest, .unittest, .gtest, .junit, .other] TestFramework.value)
      let testFiles ← defaultField members "test_files" [] (readTuple readStr)
      pure (.testDefinition framework testFiles)
  | .packageManager => do
      let manager ← requiredField members "manager" readStr
      let lockfilePath ← defaultField members "lockfile_path" none (readOptional readStr)
      pure (.packageManager manager lockfilePath)
  | .externalPackage => do
      let managerId ← defaultField members "manager_id" none (readOptional readStr)
      let versionSpec ← defaultField members "version_spec" none (readOptional readStr)
      pure (.externalPackage managerId versionSpec)
  | .file => do
      let repositoryRelPath ← requiredField members "repository_rel_path" readStr
      let language ← defaultField members "language" none (readOptional readLanguage)
      let ownerId ← requiredField members "owner_id" readStr
      pure (.file repositoryRelPath language ownerId)
  | .entity => do
      let repositoryRelPath ← requiredField members "repository_rel_path" readStr
      let entityKind ← requiredField members "entity_kind" readStr
      let lineStart ← defaultField members "line_start" none (readOptional readInt)
      let lineEnd ← defaultField members "line_end" none (readOptional readInt)
      let columnStart ← defaultField members "column_start" none (readOptional readInt)
      let columnEnd ← defaultField members "column_end" none (readOptional readInt)
      let signature ← defaultField members "signature" none (readOptional readStr)
      pure (.entity repositoryRelPath entityKind lineStart lineEnd columnStart columnEnd
        signature)

/-- `model_validate` of the model of a kind. -/
def readNodeOfKind (kind : GraphNodeKind) (members : List (String × Json)) :
    PyResult GraphNode := do
  let id ← requiredField members "id" readStr
  let name ← requiredField members "name" readStr
  let evidenceIds ← defaultField members "evidence_ids" [] (readTuple readStr)
  let provenance ← defaultField members "provenance" [] (readTuple readProvenanceEntry)
  let body ← readBody members kind
  forbidExtra (["id", "kind", "name", "evidence_ids", "provenance"] ++ kind.fields) members
  GraphNode.validate ⟨id, name, evidenceIds, provenance, body⟩

def parseNode : Json → GraphResult GraphNode
  | .obj members =>
      match member? members "kind" with
      | none => .error (.keyError "kind")
      | some kind => do
          let kind ← liftPy (readEnum GraphNodeKind.all GraphNodeKind.value kind)
          liftPy (readNodeOfKind kind members)
  | _ => .error (.keyError "kind")

def readEdge : Json → PyResult Edge
  | .obj members => do
      let kind ← requiredField members "kind" (readEnum EdgeKind.all EdgeKind.value)
      let src ← requiredField members "src" readStr
      let dst ← requiredField members "dst" readStr
      let evidenceIds ← defaultField members "evidence_ids" [] (readTuple readStr)
      forbidExtra ["kind", "src", "dst", "evidence_ids"] members
      pure ⟨kind, src, dst, evidenceIds⟩
  | _ => raiseValueError "Input should be a valid dictionary"

def readEvidence : Json → PyResult Evidence
  | .obj members => do
      let id ← requiredField members "id" readStr
      let filePath ← defaultField members "file_path" none (readOptional readStr)
      let lineStart ← defaultField members "line_start" none (readOptional readInt)
      let lineEnd ← defaultField members "line_end" none (readOptional readInt)
      let tool ← defaultField members "tool" none (readOptional readStr)
      let message ← defaultField members "message" none (readOptional readStr)
      let logPath ← defaultField members "log_path" none (readOptional readStr)
      forbidExtra ["id", "file_path", "line_start", "line_end", "tool", "message", "log_path"]
        members
      Evidence.validate ⟨id, filePath, lineStart, lineEnd, tool, message, logPath⟩
  | _ => raiseValueError "Input should be a valid dictionary"

def loadsPayload (text : String) : GraphResult Json :=
  match loads text with
  | some payload => .ok payload
  | none => .error .jsonDecodeError

def nodeOfPayload (text : String) : GraphResult GraphNode := do
  let payload ← loadsPayload text
  parseNode payload

def edgeOfPayload (text : String) : GraphResult Edge := do
  let payload ← loadsPayload text
  liftPy (readEdge payload)

def evidenceOfPayload (text : String) : GraphResult Evidence := do
  let payload ← loadsPayload text
  liftPy (readEvidence payload)

end SuitCode
