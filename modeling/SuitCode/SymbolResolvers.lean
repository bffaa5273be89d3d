import SuitCode.ChangeImpactService
import SuitCode.SymbolIds

/-!
# Two resolvers of a symbol id

The context of a symbol is found by its id alone.  Definitions and references
are found by the id too, and where no symbol has the id, by the kind, the name
and the first line in it.
-/

namespace SuitCode

open PosixText KeyedList ExceptList DecimalText Repository

/-! ## The symbols which an id names -/

def EntityInfo.StandsAt (symbol : EntityInfo) (line column : ℕ) : Prop :=
  symbol.lineStart = some line ∧ symbol.columnStart = some column

def symbolsWithId (symbolId : String) (symbols : List EntityInfo) : List EntityInfo :=
  symbols.filter fun symbol => symbol.id = symbolId

def firstLineInId (lineRange : String) : Option ℤ :=
  if '-' ∉ lineRange.toList then
    none
  else
    DecimalText.parseInt (String.ofList (lineRange.toList.takeWhile (· ≠ '-')))

def symbolsWithIdParts (symbolId : String) (symbols : List EntityInfo) : List EntityInfo :=
  match colonPieces symbolId with
  | _ :: _ :: entityKind :: entityName :: lineRange :: _ =>
      match firstLineInId lineRange with
      | none => []
      | some lineStart =>
          symbols.filter fun symbol =>
            symbol.entityKind = entityKind && symbol.name = entityName &&
              symbol.lineStart.map Int.ofNat = some lineStart
  | _ => []

def symbolsNamed (symbolId : String) (symbols : List EntityInfo) : List EntityInfo :=
  if (symbolsWithId symbolId symbols).isEmpty then
    symbolsWithIdParts symbolId symbols
  else
    symbolsWithId symbolId symbols

/-- The symbols listed for a file, none where the listing raises. -/
def Repository.symbolsListed (repository : Repository) (path : String) : List EntityInfo :=
  match repository.listSymbolsInFile path with
  | .ok symbols => symbols
  | .error _ => []

/-! ## What the resolvers return -/

section Resolvers

variable {repository : Repository} {symbolId path : String}

theorem theOnlyMatch_eq_ok {symbols : List EntityInfo} {symbol : EntityInfo} :
    theOnlyMatch symbolId symbols = .ok symbol ↔ symbols = [symbol] := by
  cases symbols with
  | nil => simp [theOnlyMatch]
  | cons first rest =>
      cases rest with
      | nil => simp [theOnlyMatch]
      | cons second rest => simp [theOnlyMatch]

theorem symbolsWithIdParts_nil (symbolId : String) : symbolsWithIdParts symbolId [] = [] := by
  unfold symbolsWithIdParts
  split
  · split
    · rfl
    · rfl
  · rfl

theorem symbolsNamed_nil (symbolId : String) : symbolsNamed symbolId [] = [] :=
  symbolsWithIdParts_nil symbolId

theorem resolveSymbolTargetByIdParts_of_listed {symbols : List EntityInfo}
    (hlisted : repository.listSymbolsInFile path = .ok symbols) :
    repository.resolveSymbolTargetByIdParts symbolId path =
      .ok (symbolsWithIdParts symbolId symbols) := by
  unfold resolveSymbolTargetByIdParts symbolsWithIdParts colonPieces
  generalize (symbolId.toList.splitOn ':').map String.ofList = pieces
  match pieces with
  | [] | [_] | [_, _] | [_, _, _] | [_, _, _, _] => rfl
  | _ :: _ :: entityKind :: entityName :: lineRange :: _ =>
      simp only [firstLineInId]
      by_cases hrange : '-' ∉ lineRange.toList
      · rw [if_pos hrange, if_pos hrange]
      · rw [if_neg hrange, if_neg hrange]
        cases DecimalText.parseInt (String.ofList (lineRange.toList.takeWhile (· ≠ '-'))) with
        | none => rfl
        | some lineStart =>
            simp only [hlisted, ok_bind]
            rfl

theorem symbolMatches_eq_ok {candidates : List EntityInfo} :
    repository.symbolMatches symbolId path = .ok candidates ↔
      ∃ symbols, repository.listSymbolsInFile path = .ok symbols ∧
        symbolsNamed symbolId symbols = candidates := by
  unfold symbolMatches
  rw [bind_eq_ok]
  apply exists_congr
  intro symbols
  apply and_congr_right
  intro hlisted
  unfold symbolsNamed symbolsWithId
  by_cases hempty : (symbols.filter fun symbol => symbol.id = symbolId).isEmpty = true
  · rw [if_pos hempty, if_pos hempty, resolveSymbolTargetByIdParts_of_listed hlisted,
      Except.ok.injEq]
  · rw [if_neg hempty, if_neg hempty, pure_eq_ok]

theorem resolveSymbol_eq_ok {symbol : EntityInfo} :
    repository.resolveSymbol symbolId = .ok symbol ↔
      ∃ part, symbolIdPath symbolId = .ok part ∧
        symbolsWithId symbolId (repository.symbolsListed part) = [symbol] := by
  unfold resolveSymbol symbolsListed
  rw [bind_eq_ok]
  apply exists_congr
  intro part
  apply and_congr_right
  intro _
  cases repository.listSymbolsInFile part with
  | error exception => simp [error_bind, symbolsWithId]
  | ok symbols =>
      rw [ok_bind, theOnlyMatch_eq_ok]
      rfl

theorem normalized_of_listed {symbol : EntityInfo}
    (honly : symbolsWithId symbolId (repository.symbolsListed path) = [symbol]) :
    ∃ normal, normalizeRepositoryRelativePath path = .ok normal := by
  cases hnormal : normalizeRepositoryRelativePath path with
  | ok normal => exact ⟨normal, rfl⟩
  | error exception =>
      have hlisted : repository.listSymbolsInFile path = .error exception := by
        unfold listSymbolsInFile
        rw [hnormal, error_bind]
      unfold symbolsListed at honly
      rw [hlisted] at honly
      cases honly

theorem resolveSymbolTarget_eq_ok {line column : ℕ} :
    repository.resolveSymbolTarget symbolId = .ok (path, line, column) ↔
      ∃ part symbol, symbolIdPath symbolId = .ok part ∧
        normalizeRepositoryRelativePath part = .ok path ∧
          symbolsNamed symbolId (repository.symbolsListed path) = [symbol] ∧
            symbol.StandsAt line column := by
  constructor
  · intro hok
    obtain ⟨part, symbol, hpart, hnormal, hmatches⟩ := resolveSymbolTarget_facts hok
    obtain ⟨symbols, hlisted, hnamed⟩ := symbolMatches_eq_ok.mp hmatches
    refine ⟨part, symbol, hpart, hnormal, ?_, ?_⟩
    · unfold symbolsListed
      rw [hlisted]
      exact hnamed
    · unfold resolveSymbolTarget at hok
      rw [hpart, ok_bind, hnormal, ok_bind, hmatches, ok_bind, theOnlyMatch, ok_bind] at hok
      unfold EntityInfo.StandsAt
      cases hline : symbol.lineStart with
      | none => simp [hline] at hok
      | some found =>
          cases hcolumn : symbol.columnStart with
          | none => simp [hline, hcolumn] at hok
          | some start =>
              simp only [hline, hcolumn, pure_eq_ok, Prod.mk.injEq, true_and] at hok
              simpa using hok
  · rintro ⟨part, symbol, hpart, hnormal, hnamed, hline, hcolumn⟩
    unfold symbolsListed at hnamed
    cases hlisted : repository.listSymbolsInFile path with
    | error exception =>
        rw [hlisted] at hnamed
        simp [symbolsNamed_nil] at hnamed
    | ok symbols =>
        rw [hlisted] at hnamed
        have hmatches := symbolMatches_eq_ok.mpr ⟨symbols, hlisted, hnamed⟩
        unfold resolveSymbolTarget
        rw [hpart, ok_bind, hnormal, ok_bind, hmatches, ok_bind, theOnlyMatch, ok_bind]
        simp only [hline, hcolumn]
        rfl

end Resolvers

/-! ## Agreement -/

/-- One resolver returns a symbol when the other returns a location, which is the place of
that symbol.  An id under which definitions or references are found is the id of a symbol,
with which every symbol context begins. -/
structure ResolversAgree (repository : Repository) (symbolId : String) : Prop where
  resolved_iff : (∃ symbol, repository.resolveSymbol symbolId = .ok symbol) ↔
    ∃ location, repository.resolveSymbolTarget symbolId = .ok location
  same_place : ∀ symbol path line column, repository.resolveSymbol symbolId = .ok symbol →
    repository.resolveSymbolTarget symbolId = .ok (path, line, column) →
      path = symbol.repositoryRelPath ∧ symbol.StandsAt line column
  definition_accepted : ∀ locations,
    repository.findDefinitionBySymbolId symbolId = .ok locations →
      ∃ symbol, repository.resolveSymbol symbolId = .ok symbol
  references_accepted : ∀ locations,
    repository.findReferencesBySymbolId symbolId = .ok locations →
      ∃ symbol, repository.resolveSymbol symbolId = .ok symbol

/-- The listing for the path in an id, and the listing for the normal form of that path: a
symbol which alone has the id has this path and a position, at which the normal form lists
it again, and without such a symbol the parts of the id do not name one either. -/
structure ListedAlike (symbolId path : String) (listed again : List EntityInfo) : Prop where
  own_path : ∀ symbol, symbolsWithId symbolId listed = [symbol] →
    symbol.repositoryRelPath = path
  placed : ∀ symbol, symbolsWithId symbolId listed = [symbol] →
    symbol.lineStart.isSome = true ∧ symbol.columnStart.isSome = true
  relisted : ∀ symbol, symbolsWithId symbolId listed = [symbol] →
    ∃ other, symbolsNamed symbolId again = [other] ∧
      other.lineStart = symbol.lineStart ∧ other.columnStart = symbol.columnStart
  not_by_parts : (∀ symbol, symbolsWithId symbolId listed ≠ [symbol]) →
    ∀ other, symbolsNamed symbolId again = [other] →
      other.lineStart = none ∨ other.columnStart = none

section Agreement

variable {repository : Repository} {symbolId part path : String}

theorem resolvedTarget_of_locations
    {answer : Provider → String → ℕ → ℕ → PyResult (List CodeLocation)}
    {locations : List CodeLocation}
    (hok : repository.locationsBySymbolId answer symbolId = .ok locations) :
    ∃ location, repository.resolveSymbolTarget symbolId = .ok location := by
  unfold locationsBySymbolId at hok
  obtain ⟨location, hlocation, -⟩ := bind_eq_ok.mp hok
  exact ⟨location, hlocation⟩

theorem resolversAgree_of_results
    (hresolved : (∃ symbol, repository.resolveSymbol symbolId = .ok symbol) ↔
      ∃ location, repository.resolveSymbolTarget symbolId = .ok location)
    (hplace : ∀ symbol path line column, repository.resolveSymbol symbolId = .ok symbol →
      repository.resolveSymbolTarget symbolId = .ok (path, line, column) →
        path = symbol.repositoryRelPath ∧ symbol.StandsAt line column) :
    ResolversAgree repository symbolId := by
  constructor
  case resolved_iff => exact hresolved
  case same_place => exact hplace
  case definition_accepted =>
    intro locations hok
    exact hresolved.mpr (resolvedTarget_of_locations hok)
  case references_accepted =>
    intro locations hok
    exact hresolved.mpr (resolvedTarget_of_locations hok)

theorem listedAlike_of_resolversAgree (hagree : ResolversAgree repository symbolId)
    (hpart : symbolIdPath symbolId = .ok part)
    (hnormal : normalizeRepositoryRelativePath part = .ok path) :
    ListedAlike symbolId path (repository.symbolsListed part)
      (repository.symbolsListed path) := by
  -- what a symbol which alone has the id says about the location
  have hlocated : ∀ symbol,
      symbolsWithId symbolId (repository.symbolsListed part) = [symbol] →
        symbol.repositoryRelPath = path ∧ ∃ line column, symbol.StandsAt line column ∧
          ∃ other, symbolsNamed symbolId (repository.symbolsListed path) = [other] ∧
            other.StandsAt line column := by
    intro symbol honly
    have hsymbol := resolveSymbol_eq_ok.mpr ⟨part, hpart, honly⟩
    obtain ⟨⟨found, line, column⟩, hfound⟩ := hagree.resolved_iff.mp ⟨symbol, hsymbol⟩
    obtain ⟨hpath, hplace⟩ := hagree.same_place symbol found line column hsymbol hfound
    obtain ⟨text, other, htext, hnormalText, hnamed, hother⟩ :=
      resolveSymbolTarget_eq_ok.mp hfound
    rw [hpart, Except.ok.injEq] at htext
    rw [← htext, hnormal, Except.ok.injEq] at hnormalText
    rw [← hnormalText] at hpath hnamed
    exact ⟨hpath.symm, line, column, hplace, other, hnamed, hother⟩
  constructor
  case own_path =>
    intro symbol honly
    exact (hlocated symbol honly).1
  case placed =>
    intro symbol honly
    obtain ⟨-, line, column, ⟨hline, hcolumn⟩, -⟩ := hlocated symbol honly
    simp [hline, hcolumn]
  case relisted =>
    intro symbol honly
    obtain ⟨-, line, column, ⟨hline, hcolumn⟩, other, hnamed, hotherLine, hotherColumn⟩ :=
      hlocated symbol honly
    refine ⟨other, hnamed, ?_, ?_⟩
    · rw [hotherLine, hline]
    · rw [hotherColumn, hcolumn]
  case not_by_parts =>
    intro hsymbols other hnamed
    cases hline : other.lineStart with
    | none => exact .inl rfl
    | some line =>
        cases hcolumn : other.columnStart with
        | none => exact .inr rfl
        | some column =>
            have hfound := resolveSymbolTarget_eq_ok.mpr
              ⟨part, other, hpart, hnormal, hnamed, hline, hcolumn⟩
            obtain ⟨symbol, hsymbol⟩ := hagree.resolved_iff.mpr ⟨_, hfound⟩
            obtain ⟨text, htext, honly⟩ := resolveSymbol_eq_ok.mp hsymbol
            rw [hpart, Except.ok.injEq] at htext
            rw [← htext] at honly
            exact absurd honly (hsymbols symbol)

theorem resolversAgree_of_listedAlike
    (halike : ∀ part path, symbolIdPath symbolId = .ok part →
      normalizeRepositoryRelativePath part = .ok path →
        ListedAlike symbolId path (repository.symbolsListed part)
          (repository.symbolsListed path)) :
    ResolversAgree repository symbolId := by
  apply resolversAgree_of_results
  case hresolved =>
    constructor
    · rintro ⟨symbol, hsymbol⟩
      obtain ⟨part, hpart, honly⟩ := resolveSymbol_eq_ok.mp hsymbol
      obtain ⟨path, hnormal⟩ := normalized_of_listed honly
      have halike := halike part path hpart hnormal
      obtain ⟨other, hnamed, hline, hcolumn⟩ := halike.relisted symbol honly
      obtain ⟨hlinePlaced, hcolumnPlaced⟩ := halike.placed symbol honly
      obtain ⟨line, hlineStart⟩ := Option.isSome_iff_exists.mp hlinePlaced
      obtain ⟨column, hcolumnStart⟩ := Option.isSome_iff_exists.mp hcolumnPlaced
      rw [hlineStart] at hline
      rw [hcolumnStart] at hcolumn
      exact ⟨_, resolveSymbolTarget_eq_ok.mpr
        ⟨part, other, hpart, hnormal, hnamed, hline, hcolumn⟩⟩
    · rintro ⟨⟨path, line, column⟩, hlocation⟩
      obtain ⟨part, other, hpart, hnormal, hnamed, hline, hcolumn⟩ :=
        resolveSymbolTarget_eq_ok.mp hlocation
      have halike := halike part path hpart hnormal
      by_contra hnone
      have hsymbols : ∀ symbol,
          symbolsWithId symbolId (repository.symbolsListed part) ≠ [symbol] := by
        intro symbol honly
        exact hnone ⟨symbol, resolveSymbol_eq_ok.mpr ⟨part, hpart, honly⟩⟩
      cases halike.not_by_parts hsymbols other hnamed with
      | inl hnoLine =>
          rw [hline] at hnoLine
          cases hnoLine
      | inr hnoColumn =>
          rw [hcolumn] at hnoColumn
          cases hnoColumn
  case hplace =>
    intro symbol path line column hsymbol hlocation
    obtain ⟨part, other, hpart, hnormal, hnamed, hline, hcolumn⟩ :=
      resolveSymbolTarget_eq_ok.mp hlocation
    obtain ⟨text, htext, honly⟩ := resolveSymbol_eq_ok.mp hsymbol
    rw [hpart, Except.ok.injEq] at htext
    rw [← htext] at honly
    have halike := halike part path hpart hnormal
    obtain ⟨again, hagain, hlineAgain, hcolumnAgain⟩ := halike.relisted symbol honly
    have hsame : other = again := by
      rw [hnamed] at hagain
      exact List.singleton_inj.mp hagain
    rw [← hsame] at hlineAgain hcolumnAgain
    refine ⟨(halike.own_path symbol honly).symm, ?_, ?_⟩
    · rw [← hlineAgain, hline]
    · rw [← hcolumnAgain, hcolumn]

end Agreement

/-- The resolvers agree on an id exactly when the two listings are read alike under it. -/
theorem resolversAgree_iff (repository : Repository) (symbolId : String) :
    ResolversAgree repository symbolId ↔
      ∀ part path, symbolIdPath symbolId = .ok part →
        normalizeRepositoryRelativePath part = .ok path →
          ListedAlike symbolId path (repository.symbolsListed part)
            (repository.symbolsListed path) := by
  constructor
  · intro hagree part path hpart hnormal
    exact listedAlike_of_resolversAgree hagree hpart hnormal
  · exact resolversAgree_of_listedAlike

/-! ## An id with another last line -/

namespace Sample

def longFunction : Repository :=
  repository
    [{ providerId := "py"
       components := [component "c:py:app" ["a.py"] []]
       files := [file "c:py:app" "a.py"]
       symbolsInFile := fun _ => .ok
        [⟨"entity:a.py:function:f:1-9", "f", "a.py", "function", some 1, some 5, manifest⟩] }]
    [.architecture, .code]

end Sample

theorem longFunction_located :
    Sample.longFunction.resolveSymbolTarget "entity:a.py:function:f:1-3" =
      .ok ("a.py", 1, 5) := by
  decide

theorem longFunction_refused :
    Sample.longFunction.resolveSymbol "entity:a.py:function:f:1-3" =
      raiseValueError
        "symbol id could not be resolved: `entity:a.py:function:f:1-3`" := by
  decide

/-- The id which another analyser makes of the function leads to its location, but to no
symbol and no context. -/
theorem resolversAgree_not_always :
    ¬ ∀ (repository : Repository) (symbolId : String), ResolversAgree repository symbolId := by
  intro hall
  have hagree := hall Sample.longFunction "entity:a.py:function:f:1-3"
  obtain ⟨symbol, hsymbol⟩ := hagree.resolved_iff.mpr ⟨_, longFunction_located⟩
  rw [longFunction_refused] at hsymbol
  exact absurd hsymbol raiseValueError_ne_ok

end SuitCode
