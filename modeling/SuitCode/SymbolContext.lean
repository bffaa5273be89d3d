import SuitCode.Library.DecimalText
import SuitCode.Repository

/-!
# Symbols and their context

Symbols of a file, resolution of symbol ids, and the symbol context which the
change-set service reads for a symbol target.
-/

namespace SuitCode

open PosixText KeyedList DecimalText

/-! ## Attributes of an entity -/

/-- The text attributes of an entity.  The other fields it declares (evidence
ids, provenance, line and column range, signature) are not texts, and the
record forbids undeclared ones. -/
def EntityInfo.textAttributes (symbol : EntityInfo) : List (String × String) :=
  [("id", symbol.id), ("kind", "entity"), ("name", symbol.name),
    ("repository_rel_path", symbol.repositoryRelPath), ("entity_kind", symbol.entityKind)]

def EntityInfo.textAttribute (symbol : EntityInfo) (name : String) : PyResult String :=
  match symbol.textAttributes.find? fun entry => entry.1 = name with
  | some entry => .ok entry.2
  | none => .error (.attributeError ("'EntityInfo' object has no attribute '" ++ name ++ "'"))

/-! ## Symbol queries -/

def symbolSortKey (symbol : EntityInfo) :
    String ×ₗ String ×ₗ ℕ ×ₗ ℕ ×ₗ String :=
  toLex (symbol.name, toLex (symbol.entityKind, toLex (symbol.lineStart.getD 0,
    toLex (symbol.columnStart.getD 0, symbol.id))))

def locationSortKey (location : CodeLocation) : String ×ₗ ℕ ×ₗ ℕ ×ₗ String :=
  toLex (location.repositoryRelPath, toLex (location.lineStart,
    toLex (location.columnStart, location.symbolId.getD "")))

/-- The items all providers answer; a provider which raises `ValueError` is
skipped, any other exception escapes. -/
def collectAnswers {α : Type} (answer : Provider → PyResult (List α)) :
    List Provider → PyResult (List α)
  | [] => .ok []
  | provider :: providers =>
      match answer provider with
      | .ok items => do
          let rest ← collectAnswers answer providers
          pure (items ++ rest)
      | .error (.valueError _) => collectAnswers answer providers
      | .error exception => .error exception

namespace Repository

def listSymbolsInFile (repository : Repository) (repositoryRelPath : String) :
    PyResult (List EntityInfo) := do
  let normalizedPath ← normalizeRepositoryRelativePath repositoryRelPath
  let providers ← repository.providersForFileRole normalizedPath .code
  let items ← collectAnswers (fun provider => provider.symbolsInFile normalizedPath) providers
  pure (sortedBy symbolSortKey items)

/-- The file part of a symbol id `entity:path:kind:name`. -/
def symbolIdPath (symbolId : String) : PyResult String :=
  if !startsWith symbolId "entity:" then
    raiseValueError ("unsupported symbol id format: `" ++ symbolId ++ "`")
  else
    match (symbolId.toList.splitOn ':').map String.ofList with
    | _ :: path :: _ :: _ :: _ => .ok path
    | _ => raiseValueError ("unsupported symbol id format: `" ++ symbolId ++ "`")

def theOnlyMatch (symbolId : String) : List EntityInfo → PyResult EntityInfo
  | [] => raiseValueError ("symbol id could not be resolved: `" ++ symbolId ++ "`")
  | [symbol] => .ok symbol
  | _ => raiseValueError ("symbol id resolved ambiguously: `" ++ symbolId ++ "`")

def resolveSymbol (repository : Repository) (symbolId : String) : PyResult EntityInfo := do
  let path ← symbolIdPath symbolId
  let symbols ← repository.listSymbolsInFile path
  theOnlyMatch symbolId (symbols.filter fun symbol => symbol.id = symbolId)

def resolveSymbolTargetByIdParts (repository : Repository) (symbolId path : String) :
    PyResult (List EntityInfo) :=
  match (symbolId.toList.splitOn ':').map String.ofList with
  | _ :: _ :: entityKind :: entityName :: lineRange :: _ =>
      if '-' ∉ lineRange.toList then
        .ok []
      else
        match DecimalText.parseInt (String.ofList (lineRange.toList.takeWhile (· ≠ '-'))) with
        | none => .ok []
        | some lineStart => do
            let symbols ← repository.listSymbolsInFile path
            pure (symbols.filter fun symbol =>
              symbol.entityKind = entityKind && symbol.name = entityName &&
                symbol.lineStart.map Int.ofNat = some lineStart)
  | _ => .ok []

def symbolMatches (repository : Repository) (symbolId path : String) :
    PyResult (List EntityInfo) := do
  let symbols ← repository.listSymbolsInFile path
  let exactMatches := symbols.filter fun symbol => symbol.id = symbolId
  if exactMatches.isEmpty then
    repository.resolveSymbolTargetByIdParts symbolId path
  else
    pure exactMatches

def resolveSymbolTarget (repository : Repository) (symbolId : String) :
    PyResult (String × ℕ × ℕ) := do
  let part ← symbolIdPath symbolId
  let path ← normalizeRepositoryRelativePath part
  let candidates ← repository.symbolMatches symbolId path
  let symbol ← theOnlyMatch symbolId candidates
  match symbol.lineStart, symbol.columnStart with
  | some line, some column => pure (path, line, column)
  | _, _ => raiseValueError ("symbol id has no usable location: `" ++ symbolId ++ "`")

def locationsBySymbolId (repository : Repository)
    (answer : Provider → String → ℕ → ℕ → PyResult (List CodeLocation))
    (symbolId : String) : PyResult (List CodeLocation) := do
  let (path, line, column) ← repository.resolveSymbolTarget symbolId
  let providers ← repository.providersForFileRole path .code
  let items ← collectAnswers (fun provider => answer provider path line column) providers
  pure (sortedBy locationSortKey items)

/-- `find_references` at a position of a file. -/
def findReferences (repository : Repository) (repositoryRelPath : String)
    (line column : ℕ) : PyResult (List CodeLocation) := do
  let path ← normalizeRepositoryRelativePath repositoryRelPath
  let providers ← repository.providersForFileRole path .code
  let items ← collectAnswers (fun provider => provider.references path line column) providers
  pure (sortedBy locationSortKey items)

def findDefinitionBySymbolId (repository : Repository) (symbolId : String) :
    PyResult (List CodeLocation) :=
  repository.locationsBySymbolId Provider.definitions symbolId

def findReferencesBySymbolId (repository : Repository) (symbolId : String) :
    PyResult (List CodeLocation) :=
  repository.locationsBySymbolId Provider.references symbolId

end Repository

/-! ## Symbol context -/

structure SymbolContext where
  symbol : EntityInfo
  owner : OwnedNodeInfo
  definitionCount : ℕ
  definitions : List CodeLocation
  referenceCount : ℕ
  referencesPreview : List CodeLocation
  relatedTestCount : ℕ
  relatedTestsPreview : List ResolvedRelatedTest
  provenance : List ProvenanceEntry
  deriving DecidableEq

def lspToolForPath (repositoryRelPath : String) : String :=
  if endsWith repositoryRelPath.toLower ".py" then "basedpyright"
  else if endsWith repositoryRelPath.toLower ".go" then "gopls"
  else "typescript-language-server"

def summarizedTestProvenance (relatedTests : List ResolvedRelatedTest) (label : String) :
    PyResult ProvenanceEntry :=
  let authoritative := relatedTests.all ResolvedRelatedTest.isAuthoritative
  let paths := dedupeBy id
    ((relatedTests.flatMap ResolvedRelatedTest.provenance).flatMap
      ProvenanceEntry.evidencePaths)
  ProvenanceEntry.create
    (if authoritative then .authoritative else .derived)
    (if authoritative then .testTool else .heuristic)
    none (label ++ " derived from discovered test metadata") (paths.take 10)

def symbolContextProvenance (repositoryRelPath : String)
    (relatedTests : List ResolvedRelatedTest) : PyResult (List ProvenanceEntry) := do
  let lsp ← ProvenanceEntry.create .authoritative .lsp (some (lspToolForPath repositoryRelPath))
    ("symbol context derived from LSP symbol, definition, and reference queries for `" ++
      repositoryRelPath ++ "`")
    [repositoryRelPath]
  if relatedTests.isEmpty then
    pure [lsp]
  else
    let tests ← summarizedTestProvenance relatedTests "symbol-related tests"
    pure [lsp, tests]

def Repository.describeSymbolContext (repository : Repository) (symbolId : String)
    (referencePreviewLimit testPreviewLimit : ℕ) : PyResult SymbolContext := do
  let symbol ← repository.resolveSymbol symbolId
  let fileOwner ← repository.getFileOwner symbol.repositoryRelPath
  let definitions ← repository.findDefinitionBySymbolId symbolId
  let references ← repository.findReferencesBySymbolId symbolId
  let target ← RelatedTestTarget.ofFile symbol.repositoryRelPath
  let relatedTests ← repository.getRelatedTests target
  let provenance ← symbolContextProvenance symbol.repositoryRelPath relatedTests
  pure
    { symbol := symbol
      owner := fileOwner.owner
      definitionCount := definitions.length
      definitions := definitions
      referenceCount := references.length
      referencesPreview := references.take referencePreviewLimit
      relatedTestCount := relatedTests.length
      relatedTestsPreview := relatedTests.take testPreviewLimit
      provenance := provenance }

end SuitCode
