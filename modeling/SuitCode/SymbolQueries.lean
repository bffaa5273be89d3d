import SuitCode.SessionManagerAgreement
import SuitCode.StructuralIds
import Mathlib.Algebra.Order.BigOperators.Group.List

/-!
# Symbol queries

A listing of the symbols of a file takes a query.  The npm service asks its syntax
analysis where the server names nothing, and it looks for that after the query was
applied: a query on symbols which only the analysis names changes the analyser.
-/

namespace SuitCode

open ExceptList KeyedList PosixText StableOrder

/-! ## Exceptions -/

inductive SymbolError where
  | python (error : PyError)
  | server (error : LspError)
  | osError (message : String)
  | calledProcessError (message : String)
  deriving DecidableEq, Repr

namespace SymbolError

/-- A `ValueError` or an exception of one of its subclasses. -/
def isValueError : SymbolError → Bool
  | .python (.valueError _) => true
  | .server error =>
      error.errorClass = .valueError || error.errorClass = .unicodeDecodeError ||
        error.errorClass = .jsonDecodeError
  | _ => false

def isAttributeError : SymbolError → Bool
  | .python (.attributeError _) => true
  | _ => false

def isProcessError : SymbolError → Bool
  | .osError _ => true
  | .calledProcessError _ => true
  | _ => false

end SymbolError

abbrev SymbolResult := Except SymbolError

def ofPython {α : Type} : PyResult α → SymbolResult α := Except.mapError .python

def ofServer {α : Type} : LspResult α → SymbolResult α := Except.mapError .server

/-! ## Queries -/

/-- `str.casefold` and `fnmatchcase`. -/
structure NameMatcher where
  casefold : String → String
  fnmatchcase : String → String → Bool

structure SymbolQuery where
  text : String
  isCaseSensitive : Bool
  nonblank : strip text ≠ ""

/-- `_matches_query`, which every service has for itself. -/
def NameMatcher.matchesQuery (matcher : NameMatcher) (symbolName query : String)
    (isCaseSensitive : Bool) : Bool :=
  let candidateName := if isCaseSensitive then symbolName else matcher.casefold symbolName
  let candidateQuery := if isCaseSensitive then query else matcher.casefold query
  if query.toList.contains '*' || query.toList.contains '?' then
    matcher.fnmatchcase candidateName candidateQuery
  else candidateName = candidateQuery

def SymbolQuery.names (query : SymbolQuery) (matcher : NameMatcher) (symbolName : String) : Bool :=
  matcher.matchesQuery symbolName (strip query.text) query.isCaseSensitive

/-- `filter_structural_symbols`, and what the npm service writes in its place. -/
def filterStructuralSymbols (matcher : NameMatcher) (query : Option String)
    (isCaseSensitive : Bool) (symbols : List LocatedSymbol) : SymbolResult (List LocatedSymbol) :=
  match query with
  | none => .ok symbols
  | some query =>
      if strip query = "" then
        .error (.python (.valueError "symbol query must not be empty"))
      else
        .ok (symbols.filter fun symbol =>
          matcher.matchesQuery symbol.name (strip query) isCaseSensitive)

/-! ## Providers -/

/-- What a code provider answers for the files of its attachment.  The services of one
interpreter share its matcher. -/
structure SymbolProvider (matcher : NameMatcher) where
  backend : LspBackend
  casefold_eq : backend.casefold = matcher.casefold
  fnmatchcase_eq : backend.fnmatchcase = matcher.fnmatchcase
  attachmentRootRelPath : String
  /-- What `document_symbol` returns or raises in a session for the file. -/
  documentSymbol : List String → LspResult (List LspDocumentSymbol)
  source : SymbolSource
  structuralSource : SymbolSource
  /-- The answer of the syntax analysis for a file, before a query is applied. -/
  syntaxSymbols : String → SymbolResult (List LocatedSymbol)
  /-- The npm service lists the symbols of the analysis where it has no others. -/
  fallsBack : Bool
  /-- The Go provider treats a probe which cannot be run as one which finds nothing. -/
  catchesProcessErrors : Bool

namespace SymbolProvider

variable {matcher : NameMatcher} (provider : SymbolProvider matcher)

def toAttachmentRelPath (repositoryRelPath : String) : SymbolResult String :=
  let normalized :=
    if fileTargetText repositoryRelPath = "." then "" else fileTargetText repositoryRelPath
  if provider.attachmentRootRelPath = "" then
    .ok normalized
  else if normalized = provider.attachmentRootRelPath then
    .ok ""
  else if startsWith normalized (provider.attachmentRootRelPath ++ "/") then
    .ok (removePrefix (provider.attachmentRootRelPath ++ "/") normalized)
  else
    .error (.python (.valueError ("file is outside attachment `" ++
      provider.attachmentRootRelPath ++ "`: `" ++ repositoryRelPath ++ "`")))

def toRepositoryRelPath (attachmentRelPath : String) : String :=
  let normalized :=
    if fileTargetText attachmentRelPath = "." then "" else fileTargetText attachmentRelPath
  if provider.attachmentRootRelPath = "" then
    normalized
  else if normalized = "" then
    provider.attachmentRootRelPath
  else
    provider.attachmentRootRelPath ++ "/" ++ normalized

def toRepositorySymbol (symbol : LspRepositorySymbol) : LspRepositorySymbol :=
  if provider.attachmentRootRelPath = "" then
    symbol
  else
    { symbol with repositoryRelPath := provider.toRepositoryRelPath symbol.repositoryRelPath }

/-- `LspCodeBackend.list_file_symbols`, over the session manager of the provider. -/
def backendSymbols (query : Option String) (isCaseSensitive : Bool) (attached : String) :
    LspResult (List LspRepositorySymbol) :=
  let operation := SuitCode.listFileSymbols query isCaseSensitive
  match checkedFile provider.backend operation attached with
  | .error error => .error error
  | .ok none => .ok []
  | .ok (some filePath) =>
      answerFor provider.backend operation filePath (provider.documentSymbol filePath)

/-- `list_file_symbols` of the services over a language server. -/
def serverSymbols (query : Option String) (isCaseSensitive : Bool) (path : String) :
    SymbolResult (List LocatedSymbol) := do
  let attached ← provider.toAttachmentRelPath path
  let symbols ← ofServer (provider.backendSymbols query isCaseSensitive attached)
  return symbols.map fun symbol => (provider.toRepositorySymbol symbol).located

/-- The analysis as `list_file_symbols` of the npm service asks it. -/
def fallbackSymbols (path : String) : SymbolResult (List LocatedSymbol) :=
  match provider.syntaxSymbols path with
  | .ok symbols => .ok symbols
  | .error error =>
      if error.isAttributeError || error.isValueError then .ok [] else .error error

def listFileSymbols (query : Option String) (isCaseSensitive : Bool) (path : String) :
    SymbolResult (List LocatedSymbol) := do
  let symbols ← provider.serverSymbols query isCaseSensitive path
  if !provider.fallsBack || !symbols.isEmpty then
    return symbols
  else
    let symbols ← provider.fallbackSymbols path
    filterStructuralSymbols matcher query isCaseSensitive symbols

def listSymbolsInFile (query : Option String) (isCaseSensitive : Bool) (path : String) :
    SymbolResult (List EntityInfo) := do
  let symbols ← provider.listFileSymbols query isCaseSensitive path
  ofPython (entitiesOf provider.source symbols)

def catchesStructural (error : SymbolError) : Bool :=
  error.isValueError || (provider.catchesProcessErrors && error.isProcessError)

def listStructuralSymbolsInFile (query : Option String) (isCaseSensitive : Bool) (path : String) :
    SymbolResult (List EntityInfo) :=
  match provider.syntaxSymbols path >>= filterStructuralSymbols matcher query isCaseSensitive with
  | .ok symbols => ofPython (entitiesOf provider.structuralSource symbols)
  | .error error => if provider.catchesStructural error then .ok [] else .error error

end SymbolProvider

/-! ## Listings -/

abbrev Listing (matcher : NameMatcher) :=
  SymbolProvider matcher → Option String → Bool → String → SymbolResult (List EntityInfo)

/-- The items of all providers; one which raises a `ValueError` is skipped. -/
def collectSymbols {matcher : NameMatcher}
    (answer : SymbolProvider matcher → SymbolResult (List EntityInfo)) :
    List (SymbolProvider matcher) → SymbolResult (List EntityInfo)
  | [] => .ok []
  | provider :: providers =>
      match answer provider with
      | .ok items => do
          let rest ← collectSymbols answer providers
          return items ++ rest
      | .error error =>
          if error.isValueError then collectSymbols answer providers else .error error

structure SymbolIndex (matcher : NameMatcher) where
  /-- `_providers_for_file`. -/
  providersForFile : String → List (SymbolProvider matcher)

namespace SymbolIndex

variable {matcher : NameMatcher} (index : SymbolIndex matcher)

/-- `list_symbols_in_file` and `list_structural_symbols_in_file`. -/
def listWith (listing : Listing matcher) (repositoryRelPath : String) (query : Option String)
    (isCaseSensitive : Bool) : SymbolResult (List EntityInfo) := do
  let normalizedPath ← ofPython (normalizeRepositoryRelativePath repositoryRelPath)
  let items ← collectSymbols
    (fun provider => listing provider query isCaseSensitive normalizedPath)
    (index.providersForFile normalizedPath)
  return sortedBy symbolSortKey items

def listSymbolsInFile := index.listWith SymbolProvider.listSymbolsInFile

def listStructuralSymbolsInFile := index.listWith SymbolProvider.listStructuralSymbolsInFile

end SymbolIndex

/-! ## What one provider adds -/

def added : SymbolResult (List EntityInfo) → Option (List EntityInfo)
  | .ok items => some items
  | .error error => if error.isValueError then some [] else none

def acceptedEntities (source : SymbolSource) (symbols : List LocatedSymbol) : List EntityInfo :=
  match entitiesOf source symbols with
  | .ok entities => entities
  | .error _ => []

def KeepsRest (source : SymbolSource) (named : String → Bool) (symbols : List LocatedSymbol) :
    Prop :=
  (∃ symbol ∈ symbols, named symbol.name = true) →
    (∀ symbol ∈ symbols, named symbol.name = true →
      ∃ entity, symbol.toEntity source = .ok entity) →
    ∀ symbol ∈ symbols, ∃ entity, symbol.toEntity source = .ok entity

def IsValueError (error : PyError) : Prop := ∃ message, error = .valueError message

theorem raiseValueError_raises {α : Type} (message : String) :
    Raises IsValueError (raiseValueError message : PyResult α) :=
  raises_error ⟨message, rfl⟩

theorem normalizeRepositoryRelativePath_raises (path : String) :
    Raises IsValueError (normalizeRepositoryRelativePath path) := by
  unfold normalizeRepositoryRelativePath
  dsimp only
  split
  · exact raiseValueError_raises _
  · exact raises_ok _

theorem validateEvidencePaths_raises (accepted paths : List String) :
    Raises IsValueError (validateEvidencePaths accepted paths) := by
  induction paths generalizing accepted with
  | nil => exact raises_ok _
  | cons item items ih =>
      rw [validateEvidencePaths_cons]
      apply raises_bind
      · unfold evidencePath
        split
        · exact raiseValueError_raises _
        · dsimp only
          split
          · exact normalizeRepositoryRelativePath_raises _
          · exact raises_ok _
      · intro normalized
        split
        · exact raiseValueError_raises _
        · exact ih _

theorem makeEntityId_raises (path kind name : String) (lineStart lineEnd : Option ℕ) :
    Raises IsValueError (makeEntityId path kind name lineStart lineEnd) := by
  unfold makeEntityId
  apply raises_bind (normalizeRepositoryRelativePath_raises path)
  intro rel
  dsimp only
  split
  · exact raises_ok _
  · exact raises_ok _

theorem provenanceCreate_raises (confidenceMode : ConfidenceMode) (sourceKind : SourceKind)
    (sourceTool : Option String) (evidenceSummary : String) (evidencePaths : List String) :
    Raises IsValueError (ProvenanceEntry.create confidenceMode sourceKind sourceTool
      evidenceSummary evidencePaths) := by
  unfold ProvenanceEntry.create
  split
  · exact raiseValueError_raises _
  · split
    · exact raiseValueError_raises _
    · apply raises_bind (validateEvidencePaths_raises [] evidencePaths)
      intro paths
      exact raises_ok _

theorem toEntity_raises (source : SymbolSource) (symbol : LocatedSymbol) :
    Raises IsValueError (symbol.toEntity source) := by
  unfold LocatedSymbol.toEntity
  apply raises_bind (normalizeRepositoryRelativePath_raises _)
  intro rel
  apply raises_bind (makeEntityId_raises _ _ _ _ _)
  intro id
  apply raises_bind (provenanceCreate_raises _ _ _ _ _)
  intro entry
  split
  · exact raiseValueError_raises _
  · split
    · exact raiseValueError_raises _
    · exact raises_ok _

section Entities

variable {source : SymbolSource} {named : String → Bool} {symbols : List LocatedSymbol}

theorem added_entitiesOf (source : SymbolSource) (symbols : List LocatedSymbol) :
    added (ofPython (entitiesOf source symbols)) = some (acceptedEntities source symbols) := by
  have hraises : Raises IsValueError (entitiesOf source symbols) := by
    apply raises_bind (raises_mapM fun symbol _ => toEntity_raises source symbol)
    intro entities
    exact raises_ok _
  unfold acceptedEntities
  cases hentities : entitiesOf source symbols with
  | ok entities => rfl
  | error error =>
      obtain ⟨message, hmessage⟩ := hraises error hentities
      rw [hmessage]
      rfl

theorem acceptedEntities_eq_nil_iff :
    acceptedEntities source symbols = [] ↔
      symbols = [] ∨ ¬ ∀ symbol ∈ symbols, ∃ entity, symbol.toEntity source = .ok entity := by
  rw [← exists_mapM_iff]
  unfold acceptedEntities entitiesOf
  cases hfound : symbols.mapM (LocatedSymbol.toEntity source) with
  | error error => simp
  | ok found =>
      have hlength := (mapM_eq_ok_iff.mp hfound).length_eq
      simp only [ok_bind, Except.ok.injEq, exists_eq', not_true_eq_false, or_false]
      change sortedBy symbolSortKey found = [] ↔ symbols = []
      rw [sortedBy_eq_nil, ← List.length_eq_zero_iff, ← hlength, List.length_eq_zero_iff]

theorem acceptedEntities_filter
    (haccepted : ∀ symbol ∈ symbols, ∃ entity, symbol.toEntity source = .ok entity) :
    acceptedEntities source (symbols.filter fun symbol => named symbol.name) =
      (acceptedEntities source symbols).filter fun entity => named entity.name := by
  obtain ⟨found, hfound⟩ := exists_mapM_iff.mpr haccepted
  have hname : ∀ symbol entity, LocatedSymbol.toEntity source symbol = .ok entity →
      named entity.name = named symbol.name := by
    intro symbol entity hentity
    obtain ⟨rel, -, hfacts⟩ := LocatedSymbol.toEntity_facts hentity
    rw [hfacts.name_eq]
    rfl
  have hfiltered := filter_mapM hfound hname
  unfold acceptedEntities entitiesOf
  rw [hfound, hfiltered]
  exact (filter_sortedBy _ found).symm

theorem acceptedEntities_filter_eq_nil_iff :
    acceptedEntities source (symbols.filter fun symbol => named symbol.name) = [] ↔
      ((∃ symbol ∈ symbols, named symbol.name = true) → ∃ symbol ∈ symbols,
        named symbol.name = true ∧ ¬ ∃ entity, symbol.toEntity source = .ok entity) := by
  rw [acceptedEntities_eq_nil_iff, List.filter_eq_nil_iff]
  simp only [List.mem_filter, Bool.not_eq_true]
  constructor
  · rintro (hnone | hrefused) ⟨symbol, hsymbol, hnamed⟩
    · rw [hnone symbol hsymbol] at hnamed
      exact absurd hnamed Bool.false_ne_true
    · rw [not_forall] at hrefused
      obtain ⟨refused, hrefused⟩ := hrefused
      rw [Classical.not_imp] at hrefused
      exact ⟨refused, hrefused.1.1, hrefused.1.2, hrefused.2⟩
  · intro hsome
    by_cases hnamed : ∃ symbol ∈ symbols, named symbol.name = true
    · obtain ⟨refused, hmem, hname, hrefused⟩ := hsome hnamed
      right
      intro hall
      exact hrefused (hall refused ⟨hmem, hname⟩)
    · left
      intro symbol hsymbol
      cases hname : named symbol.name with
      | false => rfl
      | true => exact absurd ⟨symbol, hsymbol, hname⟩ hnamed

theorem acceptedEntities_filter_iff :
    acceptedEntities source (symbols.filter fun symbol => named symbol.name) =
        ((acceptedEntities source symbols).filter fun entity => named entity.name) ↔
      KeepsRest source named symbols := by
  unfold KeepsRest
  by_cases haccepted : ∀ symbol ∈ symbols, ∃ entity, symbol.toEntity source = .ok entity
  · constructor
    · intro _ _ _
      exact haccepted
    · intro _
      exact acceptedEntities_filter haccepted
  · rw [acceptedEntities_eq_nil_iff.mpr (Or.inr haccepted), List.filter_nil,
      acceptedEntities_filter_eq_nil_iff]
    grind

end Entities

/-! ## Answers with and without a query -/

/-- How an answer under a query compares with the whole answer: when it is the named part of
that, and that it never has less than this part. -/
structure Compared (kept : EntityInfo → Bool) (whole hits : SymbolResult (List EntityInfo))
    (faithful : Prop) : Prop where
  faithful_iff : (∀ items, added whole = some items → added hits = some (items.filter kept)) ↔
    faithful
  atLeast : ∀ items found, added whole = some items → added hits = some found →
    items.filter kept = [] ∨ found = items.filter kept

section Compared

variable {source : SymbolSource} {named : String → Bool} {faithful : Prop}

theorem compared_error {kept : EntityInfo → Bool} (error : SymbolError) (hfaithful : faithful) :
    Compared kept (.error error) (.error error) faithful := by
  cases hvalue : error.isValueError with
  | false => constructor <;> simp [added, hvalue, hfaithful]
  | true => constructor <;> simp [added, hvalue, hfaithful]

theorem compared_entities (symbols : List LocatedSymbol)
    (hfaithful : faithful ↔ KeepsRest source named symbols) :
    Compared (fun entity => named entity.name) (ofPython (entitiesOf source symbols))
      (ofPython (entitiesOf source (symbols.filter fun symbol => named symbol.name)))
      faithful where
  faithful_iff := by
    rw [hfaithful, ← acceptedEntities_filter_iff, added_entitiesOf, added_entitiesOf]
    simp
  atLeast := by
    intro items found hitems hfound
    rw [added_entitiesOf, Option.some.injEq] at hitems hfound
    rw [← hitems, ← hfound]
    by_cases haccepted : ∀ symbol ∈ symbols, ∃ entity, symbol.toEntity source = .ok entity
    · exact .inr (acceptedEntities_filter haccepted)
    · rw [acceptedEntities_eq_nil_iff.mpr (Or.inr haccepted)]
      exact .inl rfl

theorem compared_others {symbols : List LocatedSymbol} {others : SymbolResult (List LocatedSymbol)}
    (hnone : ∀ symbol ∈ symbols, named symbol.name = false)
    (hcaught : ∀ error, others = .error error → error.isValueError = false)
    (hfaithful : faithful ↔ ∃ found, others = .ok found ∧
      acceptedEntities source (found.filter fun symbol => named symbol.name) = []) :
    Compared (fun entity => named entity.name) (ofPython (entitiesOf source symbols))
      (others >>= fun found =>
        ofPython (entitiesOf source (found.filter fun symbol => named symbol.name)))
      faithful := by
  have hnothing : (acceptedEntities source symbols).filter (fun entity => named entity.name) = [] := by
    by_cases haccepted : ∀ symbol ∈ symbols, ∃ entity, symbol.toEntity source = .ok entity
    · rw [← acceptedEntities_filter haccepted, acceptedEntities_filter_eq_nil_iff]
      grind
    · rw [acceptedEntities_eq_nil_iff.mpr (Or.inr haccepted), List.filter_nil]
  constructor
  · rw [hfaithful, added_entitiesOf]
    simp only [Option.some.injEq, forall_eq', hnothing]
    cases hothers : others with
    | error error =>
        rw [error_bind]
        simp [added, hcaught error hothers]
    | ok found =>
        rw [ok_bind, added_entitiesOf]
        simp
  · intro items found hitems _
    rw [added_entitiesOf, Option.some.injEq] at hitems
    rw [← hitems]
    exact .inl hnothing

end Compared

/-! ## The providers of a file -/

namespace SymbolProvider

variable {matcher : NameMatcher} (provider : SymbolProvider matcher) (query : SymbolQuery)
  (path : String)

theorem matchesQuery_eq (symbolName text : String) (isCaseSensitive : Bool) :
    provider.backend.matchesQuery symbolName text isCaseSensitive =
      matcher.matchesQuery symbolName text isCaseSensitive := by
  unfold LspBackend.matchesQuery NameMatcher.matchesQuery
  rw [provider.casefold_eq, provider.fnmatchcase_eq]

theorem filterStructuralSymbols_query (symbols : List LocatedSymbol) :
    filterStructuralSymbols matcher (some query.text) query.isCaseSensitive symbols =
      .ok (symbols.filter fun symbol => query.names matcher symbol.name) :=
  if_neg query.nonblank

theorem translateSymbols_query (filePath : List String) (items : List LspDocumentSymbol) :
    provider.backend.translateSymbols filePath (some query.text) query.isCaseSensitive items =
      (provider.backend.translateSymbols filePath none false items >>= fun symbols =>
        .ok (symbols.filter fun symbol => query.names matcher symbol.name)) := by
  simp only [LspBackend.translateSymbols, LspBackend.validateQuery, if_neg query.nonblank, ok_bind,
    filter_sortedBy, LspBackend.filterSymbols, provider.matchesQuery_eq]
  rfl

theorem answerFor_query (filePath : List String) (result : LspResult (List LspDocumentSymbol)) :
    answerFor provider.backend (SuitCode.listFileSymbols (some query.text) query.isCaseSensitive)
        filePath result =
      (answerFor provider.backend (SuitCode.listFileSymbols none false) filePath result >>=
        fun symbols => .ok (symbols.filter fun symbol => query.names matcher symbol.name)) := by
  cases result with
  | ok items => exact provider.translateSymbols_query query filePath items
  | error error =>
      unfold answerFor
      dsimp only
      split
      · rfl
      · rfl

theorem backendSymbols_query (attached : String) :
    provider.backendSymbols (some query.text) query.isCaseSensitive attached =
      (provider.backendSymbols none false attached >>= fun symbols =>
        .ok (symbols.filter fun symbol => query.names matcher symbol.name)) := by
  have hchecked : checkedFile provider.backend (SuitCode.listFileSymbols (some query.text)
      query.isCaseSensitive) attached = checkedFile provider.backend
        (SuitCode.listFileSymbols none false) attached := rfl
  unfold backendSymbols
  dsimp only
  rw [hchecked]
  cases checkedFile provider.backend (SuitCode.listFileSymbols none false) attached with
  | error error => rfl
  | ok checked =>
      cases checked with
      | none => rfl
      | some filePath =>
          dsimp only
          rw [answerFor_query]

theorem serverSymbols_query :
    provider.serverSymbols (some query.text) query.isCaseSensitive path =
      (provider.serverSymbols none false path >>= fun symbols =>
        .ok (symbols.filter fun symbol => query.names matcher symbol.name)) := by
  unfold serverSymbols
  cases provider.toAttachmentRelPath path with
  | error error => rfl
  | ok attached =>
      rw [ok_bind, ok_bind, backendSymbols_query]
      cases provider.backendSymbols none false attached with
      | error error => rfl
      | ok symbols =>
          have hname : ∀ symbol, ((provider.toRepositorySymbol symbol).located).name =
              symbol.name := by
            intro symbol
            unfold toRepositorySymbol
            split
            · rfl
            · rfl
          simp only [ofServer, Except.mapError, ok_bind, pure, Except.pure, List.filter_map,
            Function.comp_def, hname]

/-- The query changes neither the analyser nor whether the symbols are accepted. -/
structure QueriesFilter : Prop where
  server : ∀ symbols, provider.serverSymbols none false path = .ok symbols →
    KeepsRest provider.source (query.names matcher) symbols
  fallback : provider.fallsBack = true → provider.serverSymbols none false path = .ok [] →
    ∀ symbols, provider.fallbackSymbols path = .ok symbols →
      KeepsRest provider.source (query.names matcher) symbols
  unnamed : provider.fallsBack = true → ∀ symbols,
    provider.serverSymbols none false path = .ok symbols → symbols ≠ [] →
      (∀ symbol ∈ symbols, query.names matcher symbol.name = false) →
        ∃ others, provider.fallbackSymbols path = .ok others ∧
          ((∃ symbol ∈ others, query.names matcher symbol.name = true) →
            ∃ symbol ∈ others, query.names matcher symbol.name = true ∧
              ¬ ∃ entity, symbol.toEntity provider.source = .ok entity)

def StructuralQueriesFilter : Prop :=
  ∀ symbols, provider.syntaxSymbols path = .ok symbols →
    KeepsRest provider.structuralSource (query.names matcher) symbols

theorem keepsRest_of_unnamed {source : SymbolSource} {named : String → Bool}
    {symbols : List LocatedSymbol} (hnone : ∀ symbol ∈ symbols, named symbol.name = false) :
    KeepsRest source named symbols := by
  rintro ⟨symbol, hsymbol, hnamed⟩
  rw [hnone symbol hsymbol] at hnamed
  exact absurd hnamed Bool.false_ne_true

theorem isValueError_of_fallback {error : SymbolError}
    (hfallback : provider.fallbackSymbols path = .error error) : error.isValueError = false := by
  unfold fallbackSymbols at hfallback
  split at hfallback
  · cases hfallback
  · split at hfallback
    · cases hfallback
    · rename_i hcaught
      rw [← Except.error.inj hfallback]
      simp only [Bool.or_eq_true, not_or, Bool.not_eq_true] at hcaught
      exact hcaught.2

theorem listSymbolsInFile_of_server {symbols : List LocatedSymbol}
    (hserver : provider.serverSymbols none false path = .ok symbols) :
    provider.listSymbolsInFile none false path =
      (if !provider.fallsBack || !symbols.isEmpty then .ok symbols
        else provider.fallbackSymbols path) >>= fun listed =>
          ofPython (entitiesOf provider.source listed) := by
  unfold listSymbolsInFile listFileSymbols
  rw [hserver, ok_bind]
  split
  · rfl
  · cases provider.fallbackSymbols path with
    | error error => rfl
    | ok others => rfl

theorem listSymbolsInFile_query_of_server {symbols : List LocatedSymbol}
    (hserver : provider.serverSymbols none false path = .ok symbols) :
    provider.listSymbolsInFile (some query.text) query.isCaseSensitive path =
      if !provider.fallsBack ||
          !(symbols.filter fun symbol => query.names matcher symbol.name).isEmpty then
        ofPython (entitiesOf provider.source
          (symbols.filter fun symbol => query.names matcher symbol.name))
      else
        provider.fallbackSymbols path >>= fun others => ofPython (entitiesOf provider.source
          (others.filter fun symbol => query.names matcher symbol.name)) := by
  unfold listSymbolsInFile listFileSymbols
  rw [serverSymbols_query, hserver, ok_bind, ok_bind]
  split
  · rfl
  · cases provider.fallbackSymbols path with
    | error error => rfl
    | ok others =>
        rw [ok_bind, filterStructuralSymbols_query]
        rfl

theorem listSymbolsInFile_compared :
    Compared (fun entity => query.names matcher entity.name)
      (provider.listSymbolsInFile none false path)
      (provider.listSymbolsInFile (some query.text) query.isCaseSensitive path)
      (provider.QueriesFilter query path) := by
  cases hserver : provider.serverSymbols none false path with
  | error error =>
      have hwhole : provider.listSymbolsInFile none false path = .error error := by
        unfold listSymbolsInFile listFileSymbols
        rw [hserver]
        rfl
      have hhits : provider.listSymbolsInFile (some query.text) query.isCaseSensitive path =
          .error error := by
        unfold listSymbolsInFile listFileSymbols
        rw [serverSymbols_query, hserver]
        rfl
      rw [hwhole, hhits]
      apply compared_error
      constructor <;> simp [hserver]
  | ok symbols =>
      rw [provider.listSymbolsInFile_of_server path hserver,
        provider.listSymbolsInFile_query_of_server query path hserver]
      -- the analyser changes where the query leaves nothing of a listing which is not empty
      cases hback : provider.fallsBack with
      | false =>
          simp only [Bool.not_false, Bool.true_or, if_true, ok_bind]
          apply compared_entities symbols
          constructor
          · intro hfilter
            exact hfilter.server symbols hserver
          · intro hkeeps
            constructor <;> simp [hserver, hback, hkeeps]
      | true =>
          by_cases hempty : symbols = []
          · subst hempty
            simp only [Bool.not_true, Bool.false_or, List.filter_nil, List.isEmpty_nil,
              Bool.false_eq_true, if_false]
            cases hothers : provider.fallbackSymbols path with
            | error error =>
                apply compared_error
                constructor <;> simp [hserver, hothers, keepsRest_of_unnamed]
            | ok others =>
                simp only [ok_bind]
                apply compared_entities others
                constructor
                · intro hfilter
                  exact hfilter.fallback hback hserver others hothers
                · intro hkeeps
                  constructor <;> simp [hserver, hothers, hkeeps, keepsRest_of_unnamed]
          · have hlisted : symbols.isEmpty = false := List.isEmpty_eq_false_iff.mpr hempty
            simp only [hlisted, Bool.not_true, Bool.not_false, Bool.or_true, if_true, ok_bind,
              Bool.false_or]
            by_cases hnone : ∀ symbol ∈ symbols, query.names matcher symbol.name = false
            · have hfiltered : symbols.filter (fun symbol => query.names matcher symbol.name) = [] := by
                simpa [List.filter_eq_nil_iff] using hnone
              simp only [hfiltered, List.isEmpty_nil, Bool.not_true, Bool.false_eq_true, if_false]
              apply compared_others hnone
              · exact fun error => provider.isValueError_of_fallback path
              · constructor
                · intro hfilter
                  obtain ⟨others, hothers, hrefused⟩ :=
                    hfilter.unnamed hback symbols hserver hempty hnone
                  exact ⟨others, hothers, acceptedEntities_filter_eq_nil_iff.mpr hrefused⟩
                · rintro ⟨others, hothers, hnothing⟩
                  have hrefused := acceptedEntities_filter_eq_nil_iff.mp hnothing
                  constructor
                  · intro listed hlisted
                    rw [hserver, Except.ok.injEq] at hlisted
                    rw [← hlisted]
                    exact keepsRest_of_unnamed hnone
                  · intro _ hnil
                    rw [hserver, Except.ok.injEq] at hnil
                    exact absurd hnil hempty
                  · intro _ _ _ _ _
                    exact ⟨others, hothers, hrefused⟩
            · have hfiltered : (symbols.filter fun symbol =>
                  query.names matcher symbol.name).isEmpty = false := by
                simpa [List.isEmpty_eq_false_iff, List.filter_eq_nil_iff] using hnone
              simp only [hfiltered, Bool.not_false, if_true]
              apply compared_entities symbols
              constructor
              · intro hfilter
                exact hfilter.server symbols hserver
              · intro hkeeps
                constructor <;> simp [hserver, hempty, hkeeps]
                intro _ hall
                exact absurd (by simpa using hall) hnone

theorem listStructuralSymbols_compared :
    Compared (fun entity => query.names matcher entity.name)
      (provider.listStructuralSymbolsInFile none false path)
      (provider.listStructuralSymbolsInFile (some query.text) query.isCaseSensitive path)
      (provider.StructuralQueriesFilter query path) := by
  unfold listStructuralSymbolsInFile StructuralQueriesFilter
  cases hsyntax : provider.syntaxSymbols path with
  | ok symbols =>
      simp only [ok_bind, filterStructuralSymbols_query]
      apply compared_entities symbols
      simp
  | error error =>
      simp only [error_bind]
      split
      · apply @compared_entities provider.structuralSource _ _ []
        simp [keepsRest_of_unnamed]
      · apply compared_error
        simp

end SymbolProvider

/-! ## The providers together -/

section Collected

variable {matcher : NameMatcher} {providers : List (SymbolProvider matcher)}
  {whole hits : SymbolProvider matcher → SymbolResult (List EntityInfo)}

theorem collectSymbols_eq_ok {items : List EntityInfo} :
    collectSymbols whole providers = .ok items ↔
      (∀ provider ∈ providers, added (whole provider) ≠ none) ∧
        providers.flatMap (fun provider => (added (whole provider)).getD []) = items := by
  induction providers generalizing items with
  | nil => simp [collectSymbols]
  | cons provider providers ih =>
      simp only [collectSymbols, List.forall_mem_cons, List.flatMap_cons]
      cases hanswer : whole provider with
      | error error =>
          dsimp only
          by_cases hvalue : error.isValueError = true
          · rw [if_pos hvalue, ih]
            simp [added, hvalue]
          · rw [if_neg hvalue]
            simp [added, hvalue]
      | ok own =>
          dsimp only
          rw [bind_eq_ok]
          simp only [ih, added, pure_eq_ok, Option.getD_some, ne_eq, reduceCtorEq,
            not_false_eq_true, true_and]
          constructor
          · rintro ⟨rest, ⟨hnone, hrest⟩, heq⟩
            exact ⟨hnone, by rw [hrest, heq]⟩
          · rintro ⟨hnone, heq⟩
            exact ⟨_, ⟨hnone, rfl⟩, heq⟩

variable {kept : EntityInfo → Bool} {faithful : SymbolProvider matcher → Prop}

theorem filtered_of_faithful
    (hcompared : ∀ provider ∈ providers,
      Compared kept (whole provider) (hits provider) (faithful provider))
    (hfaithful : ∀ provider ∈ providers, faithful provider) {items : List EntityInfo}
    (hitems : collectSymbols whole providers = .ok items) :
    collectSymbols hits providers = .ok (items.filter kept) := by
  obtain ⟨hnone, hflat⟩ := collectSymbols_eq_ok.mp hitems
  have hadded : ∀ provider ∈ providers, ∃ own, added (whole provider) = some own ∧
      added (hits provider) = some (own.filter kept) := by
    intro provider hprovider
    obtain ⟨own, hown⟩ := Option.ne_none_iff_exists'.mp (hnone provider hprovider)
    exact ⟨own, hown,
      (hcompared provider hprovider).faithful_iff.mpr (hfaithful provider hprovider) own hown⟩
  rw [collectSymbols_eq_ok, ← hflat, List.filter_flatMap]
  constructor
  · intro provider hprovider
    obtain ⟨own, -, hown⟩ := hadded provider hprovider
    simp [hown]
  · apply List.flatMap_congr
    intro provider hprovider
    obtain ⟨own, hwhole, hown⟩ := hadded provider hprovider
    simp [hwhole, hown]

/-- No provider adds less than its part, so the sums agree only when all parts do. -/
theorem faithful_of_filtered
    (hcompared : ∀ provider ∈ providers,
      Compared kept (whole provider) (hits provider) (faithful provider)) {items found : List EntityInfo}
    (hitems : collectSymbols whole providers = .ok items)
    (hfound : collectSymbols hits providers = .ok found)
    (hlength : found.length = (items.filter kept).length) :
    ∀ provider ∈ providers, faithful provider := by
  obtain ⟨hwhole, hitems⟩ := collectSymbols_eq_ok.mp hitems
  obtain ⟨hhits, hfound⟩ := collectSymbols_eq_ok.mp hfound
  have hle : ∀ provider ∈ providers, (((added (whole provider)).getD []).filter kept).length ≤
      ((added (hits provider)).getD []).length := by
    intro provider hprovider
    obtain ⟨own, hown⟩ := Option.ne_none_iff_exists'.mp (hwhole provider hprovider)
    obtain ⟨given, hgiven⟩ := Option.ne_none_iff_exists'.mp (hhits provider hprovider)
    rw [hown, hgiven]
    cases (hcompared provider hprovider).atLeast own given hown hgiven with
    | inl hnil => simp [hnil]
    | inr heq => simp [heq]
  intro provider hprovider
  apply (hcompared provider hprovider).faithful_iff.mp
  intro own hown
  obtain ⟨given, hgiven⟩ := Option.ne_none_iff_exists'.mp (hhits provider hprovider)
  rw [hgiven, Option.some.injEq]
  cases (hcompared provider hprovider).atLeast own given hown hgiven with
  | inr heq => exact heq
  | inl hnil =>
      by_contra hne
      have hlt : (((added (whole provider)).getD []).filter kept).length <
          ((added (hits provider)).getD []).length := by
        rw [hown, hgiven, Option.getD_some, Option.getD_some, hnil]
        rw [hnil] at hne
        exact List.length_pos_iff.mpr hne
      have hsum := List.sum_lt_sum _ _ hle ⟨provider, hprovider, hlt⟩
      rw [← hitems, ← hfound, List.filter_flatMap, List.length_flatMap, List.length_flatMap] at hlength
      omega

end Collected

namespace SymbolIndex

variable {matcher : NameMatcher} (index : SymbolIndex matcher) (query : SymbolQuery) (path : String)

theorem listWith_query_eq_iff {listing : Listing matcher}
    {faithful : SymbolProvider matcher → String → Prop}
    (hcompared : ∀ provider path, Compared (fun entity => query.names matcher entity.name)
      (listing provider none false path)
      (listing provider (some query.text) query.isCaseSensitive path) (faithful provider path))
    {symbols : List EntityInfo} (hsymbols : index.listWith listing path none false = .ok symbols) :
    index.listWith listing path (some query.text) query.isCaseSensitive =
        .ok (symbols.filter fun symbol => query.names matcher symbol.name) ↔
      ∀ normalizedPath, normalizeRepositoryRelativePath path = .ok normalizedPath →
        ∀ provider ∈ index.providersForFile normalizedPath, faithful provider normalizedPath := by
  have hlisted : ∀ {normalizedPath : String},
      normalizeRepositoryRelativePath path = .ok normalizedPath →
        ∀ text isCaseSensitive, index.listWith listing path text isCaseSensitive =
          (collectSymbols (fun provider => listing provider text isCaseSensitive normalizedPath)
            (index.providersForFile normalizedPath) >>= fun items =>
              .ok (sortedBy symbolSortKey items)) := by
    intro normalizedPath hpath text isCaseSensitive
    unfold listWith
    rw [hpath]
    rfl
  have hpath : ∃ normalizedPath, normalizeRepositoryRelativePath path = .ok normalizedPath := by
    cases hpath : normalizeRepositoryRelativePath path with
    | ok normalizedPath => exact ⟨normalizedPath, rfl⟩
    | error error =>
        unfold listWith at hsymbols
        rw [hpath] at hsymbols
        cases hsymbols
  obtain ⟨normalizedPath, hpath⟩ := hpath
  simp only [hpath, Except.ok.injEq, forall_eq']
  rw [hlisted hpath] at hsymbols ⊢
  obtain ⟨items, hitems, hsorted⟩ := bind_eq_ok.mp hsymbols
  rw [← Except.ok.inj hsorted, filter_sortedBy]
  constructor
  · intro hhits
    obtain ⟨found, hfound, hsorted⟩ := bind_eq_ok.mp hhits
    apply faithful_of_filtered (fun provider _ => hcompared provider normalizedPath) hitems hfound
    have hlengths := congrArg List.length (Except.ok.inj hsorted)
    rw [(sortedBy_perm _ _).length_eq, (sortedBy_perm _ _).length_eq] at hlengths
    exact hlengths
  · intro hall
    rw [filtered_of_faithful (fun provider _ => hcompared provider normalizedPath) hall hitems,
      ok_bind]

/-- When a listing under a query is the part of the whole listing which the query names. -/
structure QueriesFilterExactly : Prop where
  symbols : ∀ symbols, index.listSymbolsInFile path none false = .ok symbols →
    (index.listSymbolsInFile path (some query.text) query.isCaseSensitive =
        .ok (symbols.filter fun symbol => query.names matcher symbol.name) ↔
      ∀ normalizedPath, normalizeRepositoryRelativePath path = .ok normalizedPath →
        ∀ provider ∈ index.providersForFile normalizedPath,
          provider.QueriesFilter query normalizedPath)
  structural : ∀ symbols, index.listStructuralSymbolsInFile path none false = .ok symbols →
    (index.listStructuralSymbolsInFile path (some query.text) query.isCaseSensitive =
        .ok (symbols.filter fun symbol => query.names matcher symbol.name) ↔
      ∀ normalizedPath, normalizeRepositoryRelativePath path = .ok normalizedPath →
        ∀ provider ∈ index.providersForFile normalizedPath,
          provider.StructuralQueriesFilter query normalizedPath)

end SymbolIndex

/-- A listing under a query is the named part of the whole listing exactly where the query
changes neither the analyser nor the symbols which are accepted. -/
theorem symbolQueries_filter_exactly {matcher : NameMatcher} (index : SymbolIndex matcher)
    (query : SymbolQuery) (path : String) : index.QueriesFilterExactly query path where
  symbols _ := index.listWith_query_eq_iff query path fun provider path =>
    provider.listSymbolsInFile_compared query path
  structural _ := index.listWith_query_eq_iff query path fun provider path =>
    provider.listStructuralSymbols_compared query path

/-! ## A symbol which the analysis names alone -/

namespace QuerySample

def matcher : NameMatcher := ⟨id, fun name query => name = query⟩

def runQuery : SymbolQuery := ⟨"run", true, by decide⟩

def helperSymbol : LspDocumentSymbol :=
  ⟨"helper", 12, ⟨⟨0, 0⟩, ⟨0, 5⟩⟩, ⟨⟨0, 0⟩, ⟨0, 5⟩⟩, none, none, []⟩

/-- The server names `helper` in the file `a.py`, the analysis `run`. -/
def provider : SymbolProvider matcher where
  backend := SampleBackend.backend
  casefold_eq := rfl
  fnmatchcase_eq := rfl
  attachmentRootRelPath := ""
  documentSymbol _ := .ok [helperSymbol]
  source := typescriptLanguageServer
  structuralSource := typescriptCompilerApi
  syntaxSymbols _ := .ok [⟨"run", "function", "a.py", 2, 2, 1, 6⟩]
  fallsBack := true
  catchesProcessErrors := false

def index : SymbolIndex matcher := ⟨fun _ => [provider]⟩

theorem serverSymbols_helper :
    provider.serverSymbols none false "a.py" =
      .ok [⟨"helper", "function", "a.py", 1, 1, 1, 6⟩] := by
  have hchecked : checkedFile provider.backend (SuitCode.listFileSymbols none false) "a.py" =
      .ok (some ["repo", "a.py"]) := by
    decide +kernel
  have hflat : SampleBackend.backend.flattenSymbols [helperSymbol] "a.py" none =
      [⟨"helper", "function", "a.py", 1, 1, 1, 6, none, none⟩] := by
    rw [LspBackend.flattenSymbols, List.flatMap_singleton, LspBackend.flattenSymbol]
    rfl
  have hanswer : provider.backend.translateSymbols ["repo", "a.py"] none false [helperSymbol] =
      .ok [⟨"helper", "function", "a.py", 1, 1, 1, 6, none, none⟩] :=
    congrArg (fun flattened => Except.ok (sortedBy LspBackend.symbolOrder flattened)) hflat
  have hbackend : provider.backendSymbols none false "a.py" =
      .ok [⟨"helper", "function", "a.py", 1, 1, 1, 6, none, none⟩] := by
    unfold SymbolProvider.backendSymbols
    dsimp only
    rw [hchecked]
    exact hanswer
  have hattached : provider.toAttachmentRelPath "a.py" = .ok "a.py" := by decide +kernel
  unfold SymbolProvider.serverSymbols
  rw [hattached, ok_bind, hbackend]
  rfl

theorem run_accepted :
    (LocatedSymbol.toEntity provider.source ⟨"run", "function", "a.py", 2, 2, 1, 6⟩).Yields
      fun _ => True := by
  decide +kernel

end QuerySample

/-- The server names nothing which the query `run` names, so that the query changes the
analyser and finds what the whole listing does not have. -/
theorem symbolQueries_filter_exactly_analysed :
    ¬ QuerySample.provider.QueriesFilter QuerySample.runQuery "a.py" ∧
      QuerySample.index.QueriesFilterExactly QuerySample.runQuery "a.py" := by
  refine ⟨?_, symbolQueries_filter_exactly QuerySample.index QuerySample.runQuery "a.py"⟩
  intro hfilter
  obtain ⟨others, hothers, hrefused⟩ := hfilter.unnamed rfl _ QuerySample.serverSymbols_helper
    (List.cons_ne_nil _ _) (by decide)
  cases hothers
  obtain ⟨refused, hmem, -, hrejected⟩ := hrefused (by decide)
  rw [List.mem_singleton.mp hmem] at hrejected
  obtain ⟨entity, hentity, -⟩ := QuerySample.run_accepted.exists_ok
  exact hrejected ⟨entity, hentity⟩

end SuitCode
