import SuitCode.LspLifecycle
import SuitCode.LspPayloads
import SuitCode.ManagedSessions
import SuitCode.NpmWorkspace
import SuitCode.FileTargets

/-!
# Code backends over language servers

The operations of a backend on one file, asked over a client of their own or
over the session which the coordinator shares.  Both ask the same server; the
shared session puts payloads and error codes between it and the backend.
-/

namespace SuitCode

open ExceptList FileTree KeyedList PosixText

/-! ## The repository of a backend -/

/-- The content of a file as `read_text(encoding="utf-8")` finds it. -/
inductive FileText where
  | text (content : String)
  | undecodable (message : String)
  deriving DecidableEq, Repr

structure LspBackend where
  tree : FileTree
  /-- The repository root, which is resolved. -/
  root : List String
  workingDirectory : List String
  fileText : List String → FileText
  supportedExtensions : List String
  symbolKindByCode : List (ℤ × String)
  /-- The unquoted path of a `file` URI, nothing for other schemes, or the
  message of the `ValueError` which `urlparse` raises. -/
  fileUriPath : String → Except String (Option String)
  casefold : String → String
  fnmatchcase : String → String → Bool

structure LspRepositorySymbol where
  name : String
  kind : String
  repositoryRelPath : String
  lineStart : ℤ
  lineEnd : ℤ
  columnStart : ℤ
  columnEnd : ℤ
  containerName : Option String
  signature : Option String
  deriving DecidableEq, Repr

def lspValueError {α : Type} (message : String) : LspResult α := .error ⟨.valueError, message⟩

def lspOsError {α : Type} (message : String) : LspResult α := .error ⟨.osError, message⟩

def LspError.IsLocal (error : LspError) : Prop :=
  error.errorClass = .valueError ∨ error.errorClass = .osError

namespace LspBackend

variable (backend : LspBackend)

/-- `path.resolve()`, which raises for a loop of links. -/
def resolvePath (path : List String) : LspResult (List String) :=
  match backend.tree.resolve path with
  | some resolved => .ok resolved
  | none => lspOsError ("Symlink loop from '/" ++ join "/" path ++ "'")

def readText (path : List String) : LspResult String := do
  let resolved ← backend.resolvePath path
  if backend.tree.lookup resolved = some .file then
    match backend.fileText resolved with
    | .text content => return content
    | .undecodable message => .error ⟨.unicodeDecodeError, message⟩
  else lspOsError ("cannot read '/" ++ join "/" resolved ++ "'")

def validateRepositoryFile (repositoryRelPath : String) : LspResult (List String) := do
  let normalized := fileTargetText repositoryRelPath
  if normalized = "" then lspValueError "repository_rel_path must not be empty"
  else
    let filePath ← backend.resolvePath (joined backend.root normalized)
    if (relativeTo backend.root filePath).isNone then
      lspValueError ("path escapes repository root: `" ++ repositoryRelPath ++ "`")
    else if !backend.tree.pathExists filePath then
      lspValueError ("file does not exist: `" ++ repositoryRelPath ++ "`")
    else if !backend.tree.isFile filePath then
      lspValueError ("path is not a file: `" ++ repositoryRelPath ++ "`")
    else return filePath

/-- `file_path.suffix.lower() in self._supported_extensions`. -/
def isSupportedSymbolFile (filePath : List String) : Bool :=
  backend.supportedExtensions.contains (fileSuffix (posixText filePath))

/-- `file_path.relative_to(root).as_posix()` of a path below the root. -/
def relativePath (filePath : List String) : String :=
  posixText ((relativeTo backend.root filePath).getD filePath)

/-! ## Translation -/

def pathFromUri (uri : String) : LspResult (Option (List String)) :=
  match backend.fileUriPath uri with
  | .error message => lspValueError message
  | .ok none => .ok none
  | .ok (some text) => do
      let resolved ← backend.resolvePath (joined backend.workingDirectory text)
      if (relativeTo backend.root resolved).isSome then return some resolved else return none

abbrev LocationEntry := String × ℤ × ℤ × ℤ × ℤ

def translateLocation (location : LspLocation) : LspResult (Option LocationEntry) := do
  match ← backend.pathFromUri location.uri with
  | none => return none
  | some filePath =>
      if backend.isSupportedSymbolFile filePath then
        return some (backend.relativePath filePath, location.range.start.line + 1,
          location.range.stop.line + 1, location.range.start.character + 1,
          location.range.stop.character + 1)
      else return none

def translateLocations (locations : List LspLocation) : LspResult (List LocationEntry) := do
  let translated ← locations.mapM backend.translateLocation
  return translated.filterMap id

def symbolKind (kind : ℤ) : String :=
  ((leader? Prod.fst backend.symbolKindByCode kind).map Prod.snd).getD "unknown"

def flattenSymbol (repositoryRelPath : String) (containerName : Option String)
    (symbol : LspDocumentSymbol) : List LspRepositorySymbol :=
  let current := orText containerName symbol.containerName
  { name := symbol.name
    kind := backend.symbolKind symbol.kind
    repositoryRelPath := repositoryRelPath
    lineStart := symbol.range.start.line + 1
    lineEnd := symbol.range.stop.line + 1
    columnStart := symbol.selectionRange.start.character + 1
    columnEnd := symbol.selectionRange.stop.character + 1
    containerName := current
    signature := orText symbol.detail current } ::
    symbol.children.attach.flatMap fun child =>
      flattenSymbol repositoryRelPath (some symbol.name) child.val
termination_by symbol
decreasing_by
  have hchild := List.sizeOf_lt_of_mem child.property
  cases symbol
  simp only [LspDocumentSymbol.mk.sizeOf_spec] at hchild ⊢
  omega

def flattenSymbols (symbols : List LspDocumentSymbol) (repositoryRelPath : String)
    (containerName : Option String) : List LspRepositorySymbol :=
  symbols.flatMap (backend.flattenSymbol repositoryRelPath containerName)

def validateQuery (query : String) : LspResult String :=
  if strip query = "" then lspValueError "symbol query must not be empty" else .ok (strip query)

def matchesQuery (symbolName query : String) (isCaseSensitive : Bool) : Bool :=
  let candidateName := if isCaseSensitive then symbolName else backend.casefold symbolName
  let candidateQuery := if isCaseSensitive then query else backend.casefold query
  if query.toList.contains '*' || query.toList.contains '?' then
    backend.fnmatchcase candidateName candidateQuery
  else candidateName = candidateQuery

def filterSymbols (symbols : List LspRepositorySymbol) (query : String)
    (isCaseSensitive : Bool) : List LspRepositorySymbol :=
  symbols.filter fun symbol => backend.matchesQuery symbol.name query isCaseSensitive

def symbolOrder (symbol : LspRepositorySymbol) : String ×ₗ String ×ₗ ℤ ×ₗ ℤ :=
  toLex (symbol.name, toLex (symbol.kind, toLex (symbol.lineStart, symbol.columnStart)))

/-- What `list_file_symbols` makes of the symbols of a file. -/
def translateSymbols (filePath : List String) (query : Option String) (isCaseSensitive : Bool)
    (symbols : List LspDocumentSymbol) : LspResult (List LspRepositorySymbol) :=
  let flattened := backend.flattenSymbols symbols (backend.relativePath filePath) none
  match query with
  | none => .ok (sortedBy symbolOrder flattened)
  | some query => do
      let normalized ← validateQuery query
      return sortedBy symbolOrder (backend.filterSymbols flattened normalized isCaseSensitive)

theorem resolvePath_raises (path : List String) :
    Raises (fun error => error.errorClass = .osError) (backend.resolvePath path) := by
  unfold resolvePath
  cases backend.tree.resolve path with
  | none => exact raises_error rfl
  | some resolved => exact raises_ok _

theorem translateLocation_raises (location : LspLocation) :
    Raises LspError.IsLocal (backend.translateLocation location) := by
  unfold translateLocation
  apply raises_bind
  · unfold pathFromUri
    cases backend.fileUriPath location.uri with
    | error message => exact raises_error (.inl rfl)
    | ok found =>
        cases found with
        | none => exact raises_ok _
        | some text =>
            apply raises_bind
            · exact (backend.resolvePath_raises _).mono fun _ hclass => .inr hclass
            · intro resolved
              split <;> exact raises_ok _
  · intro found
    cases found with
    | none => exact raises_ok _
    | some filePath =>
        dsimp only
        split <;> exact raises_ok _

theorem translateLocations_raises (locations : List LspLocation) :
    Raises LspError.IsLocal (backend.translateLocations locations) := by
  unfold translateLocations
  apply raises_bind
  · exact raises_mapM fun location _ => backend.translateLocation_raises location
  · intro translated
    exact raises_ok _

/-- Translating the symbols of a file raises local errors alone. -/
theorem translateSymbols_raises (filePath : List String) (query : Option String)
    (isCaseSensitive : Bool) (symbols : List LspDocumentSymbol) :
    Raises LspError.IsLocal
      (backend.translateSymbols filePath query isCaseSensitive symbols) := by
  unfold translateSymbols
  cases query with
  | none => exact raises_ok _
  | some query =>
      apply raises_bind
      · unfold validateQuery
        split
        · exact raises_error (.inl rfl)
        · exact raises_ok _
      · intro normalized
        exact raises_ok _

end LspBackend

/-! ## Operations -/

/-- What one operation of a backend asks and makes of the answer: `Item` is
what the client returns, `Entry` what the backend does. -/
structure BackendOperation (Item Entry : Type) where
  method : String
  checkPosition : LspResult Unit
  parse : LspValue → LspResult (List Item)
  parseRaises : ∀ payload, Raises LspError.IsProtocolError (parse payload)
  toPayload : List Item → List Dict
  fromPayload : List Dict → LspResult (List Item)
  readBack : ∀ items, fromPayload (toPayload items) = .ok items
  translate : LspBackend → List String → List Item → LspResult (List Entry)
  translateRaises : ∀ backend filePath items,
    Raises LspError.IsLocal (translate backend filePath items)

def locationOperation (method : String) (line column : ℤ) :
    BackendOperation LspLocation LspBackend.LocationEntry where
  method := method
  checkPosition := SuitCode.checkPosition line column
  parse := parseLocations
  parseRaises := parseLocations_raises
  toPayload := locationsToPayload
  fromPayload := locationsFromPayload
  readBack := locations_readBack
  translate backend _ := backend.translateLocations
  translateRaises backend _ := backend.translateLocations_raises

def findDefinition (line column : ℤ) : BackendOperation LspLocation LspBackend.LocationEntry :=
  locationOperation "textDocument/definition" line column

/-- Whether the definition is included is told to the server only. -/
def findReferences (line column : ℤ) (_includeDefinition : Bool) :
    BackendOperation LspLocation LspBackend.LocationEntry :=
  locationOperation "textDocument/references" line column

def findImplementations (line column : ℤ) :
    BackendOperation LspLocation LspBackend.LocationEntry :=
  locationOperation "textDocument/implementation" line column

def listFileSymbols (query : Option String) (isCaseSensitive : Bool) :
    BackendOperation LspDocumentSymbol LspRepositorySymbol where
  method := "textDocument/documentSymbol"
  checkPosition := .ok ()
  parse := parseDocumentSymbols
  parseRaises := parseDocumentSymbols_raises
  toPayload := documentSymbolsToPayload
  fromPayload := documentSymbolsFromPayload
  readBack := documentSymbols_readBack
  translate backend filePath := backend.translateSymbols filePath query isCaseSensitive
  translateRaises backend filePath :=
    backend.translateSymbols_raises filePath query isCaseSensitive

/-! ## Servers -/

inductive ServerReply where
  | result (value : LspValue)
  | errorResponse (value : LspValue)
  | notObject
  deriving Inhabited

namespace ServerReply

def read (method : String) : ServerReply → LspResult LspValue
  | .result value => .ok value
  | .errorResponse .null => .ok .null
  | .errorResponse value =>
      raiseProtocolError
        ("language server returned an error for `" ++ method ++ "`: " ++ value.text)
  | .notObject => raiseProtocolError "language server response must be an object"

end ServerReply

/-- The answers of a server to the requests of one operation. -/
structure ServerReplies where
  startup : ServerReply
  operation : ServerReply
  shutdown : ServerReply

section Clients

variable {Item Entry : Type} (backend : LspBackend) (operation : BackendOperation Item Entry)

/-- `LspClient.definition` and its siblings on a client which is started. -/
def clientOperation (filePath : List String) (reply : ServerReply) :
    LspResult (List Item) := do
  let _ ← operation.checkPosition
  let _ ← backend.readText filePath
  let payload ← reply.read operation.method
  operation.parse payload

/-- What the body of `with open_session()` comes to over `PerCallLspSessionManager`:
an error of `initialize` precedes it, an error of `shutdown` replaces it. -/
def perCallSession (replies : ServerReplies) (result : LspResult (List Item)) :
    LspResult (List Item) :=
  match replies.startup.read "initialize" with
  | .error error => .error error
  | .ok _ =>
      match replies.shutdown.read "shutdown" with
      | .error error => .error error
      | .ok _ => result

/-- `_attachment_file_path`; the attachment root is the repository root. -/
def attachmentFilePath (repositoryRelPath : String) : LspResult (List String) :=
  let normalized := fileTargetText repositoryRelPath
  if normalized = "" then
    .error ⟨.coordinatorProtocolError, "repository_rel_path must not be empty"⟩
  else do
    let filePath ← backend.resolvePath (joined backend.root normalized)
    if (relativeTo backend.root filePath).isNone then
      .error ⟨.coordinatorProtocolError, "repository_rel_path escapes attachment root"⟩
    else return filePath

/-- The exception `CoordinatorRpcConnection.request` raises for an error of the coordinator. -/
def raisedByRequest (error : LspError) : LspError :=
  match error.errorClass with
  | .coordinatorProtocolError => error
  | .coordinatorRuntimeNotReadyError => error
  | .coordinatorRequestTimeoutError => ⟨.coordinatorRuntimeNotReadyError, error.message⟩
  | _ => ⟨.coordinatorUnavailableError, error.message⟩

/-- When the coordinator works on a request, and how launching a server would end. -/
structure RequestTimes where
  now : ℚ
  launched : LspResult Unit
  finishedAt : ℚ

/-- One request of `_CoordinatorLspClient`, with the session it leaves behind. -/
def coordinatorOperation (session : ManagedSession) (times : RequestTimes)
    (filePath : List String) (reply : ServerReply) : LspResult (List Item) × ManagedSession :=
  match attachmentFilePath backend (backend.relativePath filePath) with
  | .error error => (.error (raisedByRequest error), session)
  | .ok attached =>
      match session.invoke times.now times.launched (clientOperation backend operation attached reply)
          times.finishedAt with
      | (.error error, session) => (.error (raisedByRequest error), session)
      | (.ok items, session) => (operation.fromPayload (operation.toPayload items), session)

def answerFor (filePath : List String) (result : LspResult (List Item)) :
    LspResult (List Entry) :=
  match result with
  | .error error => if error.errorClass = .lspProtocolError then .ok [] else .error error
  | .ok items => operation.translate backend filePath items

/-- The checks in front of a session, with nothing where the file is not supported. -/
def checkedFile (repositoryRelPath : String) : LspResult (Option (List String)) := do
  let _ ← operation.checkPosition
  let filePath ← backend.validateRepositoryFile repositoryRelPath
  if backend.isSupportedSymbolFile filePath then return some filePath else return none

def askPerCall (repositoryRelPath : String) (replies : ServerReplies) :
    LspResult (List Entry) :=
  match checkedFile backend operation repositoryRelPath with
  | .error error => .error error
  | .ok none => .ok []
  | .ok (some filePath) =>
      answerFor backend operation filePath
        (perCallSession replies (clientOperation backend operation filePath replies.operation))

def askCoordinator (session : ManagedSession) (times : RequestTimes)
    (repositoryRelPath : String) (replies : ServerReplies) :
    LspResult (List Entry) × ManagedSession :=
  match checkedFile backend operation repositoryRelPath with
  | .error error => (.error error, session)
  | .ok none => (.ok [], session)
  | .ok (some filePath) =>
      match coordinatorOperation backend operation session times filePath replies.operation with
      | (result, session) => (answerFor backend operation filePath result, session)

end Clients

end SuitCode
