import SuitCode.RunLogs
import SuitCode.SymbolAnchors
import SuitCode.SymbolIds

/-!
# Symbols read from syntax trees

Declarations are listed from the syntax tree of a file, without a language server.
A symbol of either origin becomes an entity in the same way.
-/

namespace SuitCode

open PosixText KeyedList ExceptList

/-! ## Entities -/

structure LocatedSymbol where
  name : String
  kind : String
  repositoryRelPath : String
  lineStart : ℕ
  lineEnd : ℕ
  columnStart : ℕ
  columnEnd : ℕ
  deriving DecidableEq, Repr

structure SymbolSource where
  sourceKind : SourceKind
  sourceTool : String
  evidenceSummary : String
  tool_named : isBlank sourceTool = false
  summarized : isBlank evidenceSummary = false

def pythonAst : SymbolSource :=
  ⟨.syntactic, "python-ast", "discovered from Python syntax structural symbol analysis",
    by decide, by decide⟩

def typescriptCompilerApi : SymbolSource :=
  ⟨.syntactic, "typescript-compiler-api",
    "discovered from TypeScript syntax structural symbol analysis", by decide, by decide⟩

def basedpyright : SymbolSource :=
  ⟨.lsp, "basedpyright", "discovered from Python LSP symbol information", by decide, by decide⟩

def typescriptLanguageServer : SymbolSource :=
  ⟨.lsp, "typescript-language-server", "discovered from TypeScript LSP symbol information",
    by decide, by decide⟩

namespace LocatedSymbol

/-- `to_entity_info` and `_structural_symbol_to_entity`, with the checks of `EntityInfo`. -/
def toEntity (source : SymbolSource) (symbol : LocatedSymbol) : PyResult EntityInfo := do
  let rel ← normalizeRepositoryRelativePath symbol.repositoryRelPath
  let id ← makeEntityId rel symbol.kind symbol.name (some symbol.lineStart) (some symbol.lineEnd)
  let entry ← ProvenanceEntry.create .authoritative source.sourceKind (some source.sourceTool)
    source.evidenceSummary [rel]
  if symbol.lineEnd < symbol.lineStart then
    raiseValueError "line_end must be >= line_start"
  else if symbol.lineStart = symbol.lineEnd ∧ symbol.columnEnd < symbol.columnStart then
    raiseValueError "column_end must be >= column_start"
  else
    pure
      { id := id
        name := symbol.name
        repositoryRelPath := rel
        entityKind := symbol.kind
        lineStart := some symbol.lineStart
        columnStart := some symbol.columnStart
        provenance := [entry] }

def listed (symbol : LocatedSymbol) : ListedEntity :=
  { entityKind := symbol.kind
    name := symbol.name
    lineStart := some symbol.lineStart
    lineEnd := some symbol.lineEnd
    columnStart := some symbol.columnStart }

/-- An entity which is accepted has the path, the kind, the name and the place of its symbol. -/
theorem toEntity_facts {source : SymbolSource} {symbol : LocatedSymbol} {entity : EntityInfo}
    (hok : symbol.toEntity source = .ok entity) :
    ∃ rel, normalizeRepositoryRelativePath symbol.repositoryRelPath = .ok rel ∧
      IsEntity rel symbol.listed entity := by
  unfold toEntity at hok
  obtain ⟨rel, hrel, hok⟩ := bind_eq_ok.mp hok
  obtain ⟨id, hid, hok⟩ := bind_eq_ok.mp hok
  obtain ⟨entry, -, hok⟩ := bind_eq_ok.mp hok
  refine ⟨rel, hrel, ?_⟩
  split at hok
  · exact absurd hok raiseValueError_ne_ok
  · split at hok
    · exact absurd hok raiseValueError_ne_ok
    · rw [← pure_eq_ok.mp hok]
      exact ⟨hid, rfl, rfl, rfl, rfl, rfl⟩

end LocatedSymbol

/-- The entities of some symbols, in the order in which they are listed. -/
def entitiesOf (source : SymbolSource) (symbols : List LocatedSymbol) :
    PyResult (List EntityInfo) := do
  let entities ← symbols.mapM (LocatedSymbol.toEntity source)
  pure (sortedBy symbolSortKey entities)

/-! ## Declarations -/

structure Identifier where
  text : String
  plain : ∀ c ∈ text.toList, isSpace c = false ∧ c ≠ ':'

inductive StructuralKind where
  | function
  | classKind
  | method
  | variableKind
  | property
  | interface
  | enum
  deriving DecidableEq, Repr

def StructuralKind.value : StructuralKind → String
  | .function => "function"
  | .classKind => "class"
  | .method => "method"
  | .variableKind => "variable"
  | .property => "property"
  | .interface => "interface"
  | .enum => "enum"

structure SymbolRange where
  lineStart : ℕ
  lineEnd : ℕ
  columnStart : ℕ
  columnEnd : ℕ
  line_lt : lineStart < 2 ^ 31
  lines_ordered : lineStart ≤ lineEnd
  columns_ordered : lineStart = lineEnd → columnStart ≤ columnEnd

/-- A declaration of a source file: its kind, its declared name, the class around it and
the line on which it starts, with the name and the range under which it is listed. -/
structure Declaration where
  kind : StructuralKind
  name : Identifier
  container : Option String
  startLine : ℕ
  listedName : Identifier
  range : SymbolRange

def Declaration.symbol (path : String) (declaration : Declaration) : LocatedSymbol :=
  { name := declaration.listedName.text
    kind := declaration.kind.value
    repositoryRelPath := path
    lineStart := declaration.range.lineStart
    lineEnd := declaration.range.lineEnd
    columnStart := declaration.range.columnStart
    columnEnd := declaration.range.columnEnd }

theorem StructuralKind.strip_value (kind : StructuralKind) : strip kind.value = kind.value := by
  cases kind
  all_goals decide

theorem StructuralKind.colonFree (kind : StructuralKind) : ':' ∉ kind.value.toList := by
  cases kind
  all_goals decide

def Identifier.dotted (first second : Identifier) : Identifier :=
  { text := first.text ++ "." ++ second.text
    plain := by
      intro c hc
      simp only [String.toList_append, List.mem_append] at hc
      rcases hc with (hc | hc) | hc
      · exact first.plain c hc
      · rw [List.mem_singleton.mp hc]
        decide
      · exact second.plain c hc }

theorem Identifier.strip_text (identifier : Identifier) :
    strip identifier.text = identifier.text :=
  strip_eq_self fun c hc => (identifier.plain c hc).1

theorem Identifier.colonFree (identifier : Identifier) : ':' ∉ identifier.text.toList := by
  intro hcolon
  exact (identifier.plain ':' hcolon).2 rfl

/-! ## Python -/

structure PythonSpan where
  lineno : ℕ
  colOffset : ℕ
  endLineno : ℕ
  endColOffset : ℕ
  lineno_lt : lineno < 2 ^ 31
  lines_ordered : lineno ≤ endLineno
  columns_ordered : lineno = endLineno → colOffset ≤ endColOffset

inductive PythonTarget where
  | name (id : Identifier)
  | other

/-- A statement of a module or of a class body.  The line of the first decorator is kept
beside the place of the definition, which begins behind the decorators. -/
inductive PythonStatement where
  | functionDef (name : Identifier) (decoratorLine : Option ℕ) (span : PythonSpan)
  | asyncFunctionDef (name : Identifier) (decoratorLine : Option ℕ) (span : PythonSpan)
  | classDef (name : Identifier) (decoratorLine : Option ℕ) (span : PythonSpan)
      (body : List PythonStatement)
  | assign (targets : List PythonTarget) (span : PythonSpan)
  | annAssign (target : PythonTarget) (span : PythonSpan)
  | other

namespace PythonSpan

def range (span : PythonSpan) : SymbolRange :=
  { lineStart := span.lineno
    lineEnd := span.endLineno
    columnStart := span.colOffset + 1
    columnEnd := span.endColOffset + 1
    line_lt := span.lineno_lt
    lines_ordered := span.lines_ordered
    columns_ordered := fun hline => Nat.succ_le_succ (span.columns_ordered hline) }

end PythonSpan

/-- `_symbol`. -/
def pythonSymbol (path name : String) (kind : StructuralKind) (span : PythonSpan) :
    LocatedSymbol :=
  { name := name
    kind := kind.value
    repositoryRelPath := path
    lineStart := span.lineno
    lineEnd := span.endLineno
    columnStart := span.colOffset + 1
    columnEnd := span.endColOffset + 1 }

def assignmentNames (targets : List PythonTarget) : List Identifier :=
  targets.filterMap fun target =>
    match target with
    | .name id => some id
    | .other => none

def pythonMethodSymbol (path className : String) : PythonStatement → Option LocatedSymbol
  | .functionDef name _ span | .asyncFunctionDef name _ span =>
      some (pythonSymbol path (className ++ "." ++ name.text) .method span)
  | _ => none

def pythonStatementSymbols (path : String) : PythonStatement → List LocatedSymbol
  | .functionDef name _ span | .asyncFunctionDef name _ span =>
      [pythonSymbol path name.text .function span]
  | .classDef name _ span body =>
      pythonSymbol path name.text .classKind span ::
        body.filterMap (pythonMethodSymbol path name.text)
  | .assign targets span =>
      (assignmentNames targets).map fun name => pythonSymbol path name.text .variableKind span
  | .annAssign target span =>
      (assignmentNames [target]).map fun name => pythonSymbol path name.text .variableKind span
  | .other => []

def locatedSymbolOrder (symbol : LocatedSymbol) : String ×ₗ String ×ₗ ℕ ×ₗ ℕ :=
  toLex (symbol.name, toLex (symbol.kind, toLex (symbol.lineStart, symbol.columnStart)))

def moduleSymbols (path : String) (body : List PythonStatement) : List LocatedSymbol :=
  sortedBy locatedSymbolOrder (body.flatMap (pythonStatementSymbols path))

def startOf (decoratorLine : Option ℕ) (span : PythonSpan) : ℕ :=
  decoratorLine.getD span.lineno

def pythonMethodDeclaration (className : Identifier) : PythonStatement → Option Declaration
  | .functionDef name decoratorLine span | .asyncFunctionDef name decoratorLine span =>
      some
        { kind := .method
          name := name
          container := some className.text
          startLine := startOf decoratorLine span
          listedName := className.dotted name
          range := span.range }
  | _ => none

def pythonDeclaration (kind : StructuralKind) (span : PythonSpan) (startLine : ℕ) (name : Identifier) :
    Declaration :=
  { kind := kind
    name := name
    container := none
    startLine := startLine
    listedName := name
    range := span.range }

def pythonStatementDeclarations : PythonStatement → List Declaration
  | .functionDef name decoratorLine span | .asyncFunctionDef name decoratorLine span =>
      [pythonDeclaration .function span (startOf decoratorLine span) name]
  | .classDef name decoratorLine span body =>
      pythonDeclaration .classKind span (startOf decoratorLine span) name ::
        body.filterMap (pythonMethodDeclaration name)
  | .assign targets span =>
      (assignmentNames targets).map (pythonDeclaration .variableKind span span.lineno)
  | .annAssign target span =>
      (assignmentNames [target]).map (pythonDeclaration .variableKind span span.lineno)
  | .other => []

theorem pythonMethodSymbol_eq (path : String) (className : Identifier)
    (node : PythonStatement) :
    pythonMethodSymbol path className.text node =
      (pythonMethodDeclaration className node).map (Declaration.symbol path) := by
  cases node with
  | functionDef name decoratorLine span => rfl
  | asyncFunctionDef name decoratorLine span => rfl
  | classDef name decoratorLine span body => rfl
  | assign targets span => rfl
  | annAssign target span => rfl
  | other => rfl

theorem pythonStatementSymbols_eq (path : String) (node : PythonStatement) :
    pythonStatementSymbols path node =
      (pythonStatementDeclarations node).map (Declaration.symbol path) := by
  cases node with
  | functionDef name decoratorLine span => rfl
  | asyncFunctionDef name decoratorLine span => rfl
  | classDef name decoratorLine span body =>
      simp only [pythonStatementSymbols, pythonStatementDeclarations, List.map_cons,
        List.map_filterMap, pythonMethodSymbol_eq]
      rfl
  | assign targets span =>
      simp only [pythonStatementSymbols, pythonStatementDeclarations, List.map_map]
      rfl
  | annAssign target span =>
      simp only [pythonStatementSymbols, pythonStatementDeclarations, List.map_map]
      rfl
  | other => rfl

theorem moduleSymbols_eq (path : String) (body : List PythonStatement) :
    moduleSymbols path body = sortedBy locatedSymbolOrder
      ((body.flatMap pythonStatementDeclarations).map (Declaration.symbol path)) := by
  unfold moduleSymbols
  rw [List.map_flatMap]
  congr 2
  funext node
  exact pythonStatementSymbols_eq path node

/-! ## TypeScript -/

/-- An identifier of the tree, with its place; lines and characters count from zero.  The
text is empty where the parser missed the identifier. -/
structure IdentifierNode where
  text : Identifier
  line : ℕ
  startCharacter : ℕ
  endCharacter : ℕ
  line_lt : line + 1 < 2 ^ 31
  ordered : startCharacter ≤ endCharacter

inductive TypescriptKind where
  | functionDeclaration
  | classDeclaration
  | interfaceDeclaration
  | typeAliasDeclaration
  | enumDeclaration
  | variableDeclaration (functionInitializer : Bool)
  | methodDeclaration
  | propertyDeclaration
  | other
  deriving DecidableEq, Repr

/-- A node of the tree.  A name which is not an identifier counts as no name, and the
members of a class are kept beside its other children. -/
structure TypescriptNode where
  kind : TypescriptKind
  name : Option IdentifierNode
  /-- The line of `getStart`, decorators and modifiers included. -/
  startLine : ℕ
  members : List TypescriptNode
  children : List TypescriptNode

/-- An item of the payload of `ts_symbols.cjs`. -/
structure TypescriptSymbol where
  name : String
  kind : String
  range : SymbolRange
  containerName : Option String

namespace IdentifierNode

/-- `locationForNode`. -/
def range (name : IdentifierNode) : SymbolRange :=
  { lineStart := name.line + 1
    lineEnd := name.line + 1
    columnStart := name.startCharacter + 1
    columnEnd := name.endCharacter + 1
    line_lt := name.line_lt
    lines_ordered := Nat.le_refl _
    columns_ordered := fun _ => Nat.succ_le_succ name.ordered }

end IdentifierNode

def addSymbol (nameNode : Option IdentifierNode) (kind : StructuralKind)
    (containerName : Option String) : List TypescriptSymbol :=
  match nameNode with
  | none => []
  | some name =>
      if name.text.text = "" then
        []
      else
        [{ name := name.text.text
           kind := kind.value
           range := name.range
           containerName := containerName }]

namespace TypescriptNode

def memberKind (member : TypescriptNode) : Option StructuralKind :=
  match member.kind with
  | .methodDeclaration => some .method
  | .propertyDeclaration => some .property
  | _ => none

def listedKind (node : TypescriptNode) : Option StructuralKind :=
  match node.kind with
  | .functionDeclaration => some .function
  | .classDeclaration => some .classKind
  | .interfaceDeclaration | .typeAliasDeclaration => some .interface
  | .enumDeclaration => some .enum
  | .variableDeclaration true => some .function
  | _ => none

def className (node : TypescriptNode) (containerName : Option String) : Option String :=
  (match node.name with
    | some name => some name.text.text
    | none => containerName).filter fun text => text ≠ ""

/-- The members which `visit` looks at in a node. -/
def classMembers (node : TypescriptNode) : List TypescriptNode :=
  if node.kind = .classDeclaration then node.members else []

/-- What `visit` adds for a node, before it goes on to the children. -/
def ownSymbols (containerName : Option String) (node : TypescriptNode) :
    List TypescriptSymbol :=
  (match node.listedKind with
    | some kind => addSymbol node.name kind containerName
    | none => []) ++
    node.classMembers.flatMap fun member =>
      match member.memberKind with
      | some kind => addSymbol member.name kind (node.className containerName)
      | none => []

/-- `visit`: the container of the children is the one of the node. -/
def visit (containerName : Option String) (node : TypescriptNode) : List TypescriptSymbol :=
  node.ownSymbols containerName ++
    (node.children.attach.flatMap fun child => visit containerName child.val) ++
    node.members.attach.flatMap fun member => visit containerName member.val
termination_by node
decreasing_by
  · have hchild := List.sizeOf_lt_of_mem child.property
    cases node
    simp only [TypescriptNode.mk.sizeOf_spec] at hchild ⊢
    omega
  · have hmember := List.sizeOf_lt_of_mem member.property
    cases node
    simp only [TypescriptNode.mk.sizeOf_spec] at hmember ⊢
    omega

def nodes (node : TypescriptNode) : List TypescriptNode :=
  node :: ((node.children.attach.flatMap fun child => nodes child.val) ++
    node.members.attach.flatMap fun member => nodes member.val)
termination_by node
decreasing_by
  · have hchild := List.sizeOf_lt_of_mem child.property
    cases node
    simp only [TypescriptNode.mk.sizeOf_spec] at hchild ⊢
    omega
  · have hmember := List.sizeOf_lt_of_mem member.property
    cases node
    simp only [TypescriptNode.mk.sizeOf_spec] at hmember ⊢
    omega

theorem visit_eq (containerName : Option String) (node : TypescriptNode) :
    visit containerName node = (nodes node).flatMap (ownSymbols containerName) := by
  induction node using nodes.induct with
  | case1 node ihChild ihMember =>
      have hchildren : (node.children.attach.flatMap fun child =>
          visit containerName child.val) =
            (node.children.attach.flatMap fun child => nodes child.val).flatMap
              (ownSymbols containerName) := by
        rw [List.flatMap_assoc]
        apply List.flatMap_congr
        intro child _
        exact ihChild child
      have hmembers : (node.members.attach.flatMap fun member =>
          visit containerName member.val) =
            (node.members.attach.flatMap fun member => nodes member.val).flatMap
              (ownSymbols containerName) := by
        rw [List.flatMap_assoc]
        apply List.flatMap_congr
        intro member _
        exact ihMember member
      rw [visit, nodes, List.flatMap_cons, List.flatMap_append, hchildren, hmembers,
        List.append_assoc]

end TypescriptNode

namespace TypescriptSymbol

def key (symbol : TypescriptSymbol) : String × String × ℕ × ℕ × ℕ × ℕ :=
  (symbol.kind, symbol.name, symbol.range.lineStart, symbol.range.lineEnd,
    symbol.range.columnStart, symbol.range.columnEnd)

/-- What `_coerce_typescript_symbols` makes of an item. -/
def located (path : String) (symbol : TypescriptSymbol) : LocatedSymbol :=
  { name := strip symbol.name
    kind := strip symbol.kind
    repositoryRelPath := path
    lineStart := symbol.range.lineStart
    lineEnd := symbol.range.lineEnd
    columnStart := symbol.range.columnStart
    columnEnd := symbol.range.columnEnd }

end TypescriptSymbol

/-- `_coerce_typescript_symbols`: of equal items the first is kept. -/
def coerceTypescriptSymbols (path : String) (items : List TypescriptSymbol) :
    List LocatedSymbol :=
  sortedBy locatedSymbolOrder
    ((dedupeBy TypescriptSymbol.key items).map (TypescriptSymbol.located path))

namespace TypescriptNode

def declarationAt (kind : StructuralKind) (container : Option String) (node : TypescriptNode) :
    List Declaration :=
  match node.name with
  | none => []
  | some name =>
      if name.text.text = "" then
        []
      else
        [{ kind := kind
           name := name.text
           container := container
           startLine := node.startLine + 1
           listedName := name.text
           range := name.range }]

def ownDeclarations (node : TypescriptNode) : List Declaration :=
  (match node.listedKind with
    | some kind => node.declarationAt kind none
    | none => []) ++
    node.classMembers.flatMap fun member =>
      match member.memberKind with
      | some kind => member.declarationAt kind (node.className none)
      | none => []

def declarations (sourceFile : TypescriptNode) : List Declaration :=
  sourceFile.nodes.flatMap ownDeclarations

theorem addSymbol_located (path : String) (kind : StructuralKind)
    (containerName : Option String) (node : TypescriptNode) :
    (addSymbol node.name kind containerName).map (TypescriptSymbol.located path) =
      (node.declarationAt kind containerName).map (Declaration.symbol path) := by
  unfold addSymbol declarationAt
  cases node.name with
  | none => rfl
  | some name =>
      dsimp only
      by_cases hempty : name.text.text = ""
      · rw [if_pos hempty, if_pos hempty]
        rfl
      · rw [if_neg hempty, if_neg hempty]
        simp only [List.map_cons, List.map_nil, TypescriptSymbol.located, Declaration.symbol,
          StructuralKind.strip_value, Identifier.strip_text]

theorem ownSymbols_located (path : String) (node : TypescriptNode) :
    (node.ownSymbols none).map (TypescriptSymbol.located path) =
      node.ownDeclarations.map (Declaration.symbol path) := by
  unfold ownSymbols ownDeclarations
  rw [List.map_append, List.map_append, List.map_flatMap, List.map_flatMap]
  congr 1
  · cases hkind : node.listedKind with
    | none => rfl
    | some kind => exact addSymbol_located path kind none node
  · apply List.flatMap_congr
    intro member _
    cases hkind : member.memberKind with
    | none => rfl
    | some kind => exact addSymbol_located path kind _ member

theorem mem_coerced_iff (path : String) (sourceFile : TypescriptNode) (symbol : LocatedSymbol) :
    symbol ∈ coerceTypescriptSymbols path (visit none sourceFile) ↔
      ∃ declaration ∈ sourceFile.declarations, declaration.symbol path = symbol := by
  have hall : (visit none sourceFile).map (TypescriptSymbol.located path) =
      sourceFile.declarations.map (Declaration.symbol path) := by
    rw [visit_eq, declarations, List.map_flatMap, List.map_flatMap]
    apply List.flatMap_congr
    intro node _
    exact ownSymbols_located path node
  rw [← List.mem_map, ← hall]
  unfold coerceTypescriptSymbols
  rw [mem_sortedBy, List.mem_map, List.mem_map]
  constructor
  · rintro ⟨item, hitem, heq⟩
    exact ⟨item, mem_of_mem_dedupeBy hitem, heq⟩
  · rintro ⟨item, hitem, heq⟩
    obtain ⟨first, hfirst⟩ := exists_leader TypescriptSymbol.key hitem
    refine ⟨first, leader_mem_dedupeBy hfirst, ?_⟩
    rw [← heq]
    have hkey := leader?_key hfirst
    simp only [TypescriptSymbol.key, Prod.mk.injEq] at hkey
    unfold TypescriptSymbol.located
    rw [hkey.1, hkey.2.1, hkey.2.2.1, hkey.2.2.2.1, hkey.2.2.2.2.1, hkey.2.2.2.2.2]

end TypescriptNode

/-! ## Files -/

/-- The syntax tree of a file. -/
inductive SourceTree where
  | python (body : List PythonStatement)
  | typescript (sourceFile : TypescriptNode)

namespace SourceTree

def declarations : SourceTree → List Declaration
  | .python body => body.flatMap pythonStatementDeclarations
  | .typescript sourceFile => sourceFile.declarations

def structuralSymbols (path : String) : SourceTree → List LocatedSymbol
  | .python body => moduleSymbols path body
  | .typescript sourceFile => coerceTypescriptSymbols path (TypescriptNode.visit none sourceFile)

def structuralSource : SourceTree → SymbolSource
  | .python _ => pythonAst
  | .typescript _ => typescriptCompilerApi

def serverSource : SourceTree → SymbolSource
  | .python _ => basedpyright
  | .typescript _ => typescriptLanguageServer

/-- `list_file_symbols`: without symbols of the server, those of a TypeScript tree. -/
def fileSymbols (path : String) (server : List LocatedSymbol) :
    SourceTree → List LocatedSymbol
  | .python _ => server
  | .typescript sourceFile =>
      if server.isEmpty then
        (SourceTree.typescript sourceFile).structuralSymbols path
      else
        server

/-- `list_structural_symbols_in_file`. -/
def listStructuralSymbols (path : String) (tree : SourceTree) : PyResult (List EntityInfo) :=
  entitiesOf tree.structuralSource (tree.structuralSymbols path)

/-- `list_symbols_in_file`. -/
def listFileSymbols (path : String) (server : List LocatedSymbol) (tree : SourceTree) :
    PyResult (List EntityInfo) :=
  entitiesOf tree.serverSource (tree.fileSymbols path server)

theorem mem_structuralSymbols_iff {path : String} {tree : SourceTree} {symbol : LocatedSymbol} :
    symbol ∈ tree.structuralSymbols path ↔
      ∃ declaration ∈ tree.declarations, declaration.symbol path = symbol := by
  cases tree with
  | python body =>
      simp only [structuralSymbols, declarations]
      rw [moduleSymbols_eq, mem_sortedBy, List.mem_map]
  | typescript sourceFile => exact TypescriptNode.mem_coerced_iff path sourceFile symbol

end SourceTree

/-- The positions which a server sends are unsigned in its protocol. -/
def LspRepositorySymbol.located (symbol : LspRepositorySymbol) : LocatedSymbol :=
  { name := symbol.name
    kind := symbol.kind
    repositoryRelPath := symbol.repositoryRelPath
    lineStart := symbol.lineStart.toNat
    lineEnd := symbol.lineEnd.toNat
    columnStart := symbol.columnStart.toNat
    columnEnd := symbol.columnEnd.toNat }

def LspBackend.serverSymbols (backend : LspBackend) (path : String)
    (symbols : List LspDocumentSymbol) : List LocatedSymbol :=
  (sortedBy LspBackend.symbolOrder (backend.flattenSymbols symbols path none)).map
    LspRepositorySymbol.located

end SuitCode
