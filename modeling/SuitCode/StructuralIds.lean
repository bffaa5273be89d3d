import SuitCode.StructuralSymbols
import SuitCode.SymbolResolvers

/-!
# Ids which are read from syntax trees

The id of a declaration is made from its syntax tree, and looked up among the symbols
which a language server lists for the file.  It leads back to the declaration where
both list it under one name and on one line.
-/

namespace SuitCode

open PosixText KeyedList ExceptList DecimalText Repository

/-! ## The symbols of the server -/

namespace LspBackend

variable (backend : LspBackend)

def standsFor (declaration : Declaration) (visited : VisitedSymbol) : Bool :=
  backend.symbolKind visited.node.kind = declaration.kind.value &&
    visited.node.range.start.line + 1 = declaration.startLine &&
      (visited.node.name = declaration.name.text ||
        visited.node.name = declaration.listedName.text)

structure Unsigned (visited : VisitedSymbol) : Prop where
  startLine : 0 ≤ visited.node.range.start.line
  stopLine : 0 ≤ visited.node.range.stop.line
  startCharacter : 0 ≤ visited.node.selectionRange.start.character
  stopCharacter : 0 ≤ visited.node.selectionRange.stop.character

/-- The server has one symbol for each declaration, under its declared name and in the class
around it. -/
structure Describes (symbols : List LspDocumentSymbol) (declarations : List Declaration) :
    Prop where
  unsigned : ∀ visited ∈ visitSymbols symbols, Unsigned visited
  described : ∀ declaration ∈ declarations, ∃ visited,
    (visitSymbols symbols).filter (backend.standsFor declaration) = [visited] ∧
      visited.node.name = declaration.name.text ∧
        ∀ className ∈ declaration.container, visited.enclosing = some className

end LspBackend

/-- The repository lists the symbols of the server for the file of the tree. -/
structure ServesFile (repository : Repository) (backend : LspBackend) (tree : SourceTree)
    (symbols : List LspDocumentSymbol) (symbolPath serverPath path : String) : Prop where
  path_eq : normalizeRepositoryRelativePath symbolPath = .ok path
  served : ∃ provider, repository.providersForFileRole path .code = .ok [provider] ∧
    provider.symbolsInFile path =
      tree.listFileSymbols symbolPath (backend.serverSymbols serverPath symbols)

/-- Every id which is listed for a declaration leads to the line on which it starts. -/
def StructuralIdsUsable (repository : Repository) (tree : SourceTree)
    (symbolPath path : String) : Prop :=
  ∀ listed, tree.listStructuralSymbols symbolPath = .ok listed →
    ∀ declaration ∈ tree.declarations, ∀ entity ∈ listed,
      (declaration.symbol symbolPath).toEntity tree.structuralSource = .ok entity →
        ∃ column, repository.resolveSymbolTarget entity.id =
          .ok (path, declaration.startLine, column)

/-- The path can be read back from an id, the symbols of the server are accepted, and each
declaration is listed under its own name and on the line on which it starts. -/
structure ReadBack (backend : LspBackend) (tree : SourceTree) (symbols : List LspDocumentSymbol)
    (serverPath path : String) : Prop where
  colonFree : ':' ∉ path.toList
  stripped : strip path = path
  accepted : ∀ symbol ∈ backend.serverSymbols serverPath symbols,
    ∃ entity, symbol.toEntity tree.serverSource = .ok entity
  listedAsDeclared : ∀ declaration ∈ tree.declarations,
    declaration.listedName.text = declaration.name.text ∧
      declaration.range.lineStart = declaration.startLine

/-! ## Ids -/

def Declaration.names (declaration : Declaration) (symbol : LocatedSymbol) : Bool :=
  symbol.kind = declaration.kind.value && symbol.name = declaration.listedName.text &&
    symbol.lineStart = declaration.range.lineStart

def Declaration.namesEntity (declaration : Declaration) (entity : EntityInfo) : Bool :=
  entity.entityKind = declaration.kind.value && entity.name = declaration.listedName.text &&
    entity.lineStart.map Int.ofNat = some (declaration.range.lineStart : ℤ)

section Ids

variable {declaration : Declaration} {source : SymbolSource} {entity : EntityInfo}
  {symbolPath path : String}

theorem namesEntity_of_toEntity {symbol : LocatedSymbol}
    (hok : symbol.toEntity source = .ok entity) (declaration : Declaration) :
    declaration.namesEntity entity = declaration.names symbol := by
  obtain ⟨rel, -, hentity⟩ := LocatedSymbol.toEntity_facts hok
  have hline : (Int.ofNat symbol.lineStart = (declaration.range.lineStart : ℤ)) ↔
      symbol.lineStart = declaration.range.lineStart := Int.ofNat_inj
  unfold Declaration.namesEntity Declaration.names
  rw [Bool.eq_iff_iff]
  simp only [Bool.and_eq_true, decide_eq_true_eq]
  rw [hentity.entityKind_eq, hentity.name_eq, hentity.lineStart_eq]
  simp only [LocatedSymbol.listed, Option.map_some, Option.some.injEq, hline]

def Declaration.rangeText (declaration : Declaration) : String :=
  toString declaration.range.lineStart ++ "-" ++ toString declaration.range.lineEnd

theorem dash_not_mem_toString (number : ℕ) : '-' ∉ (toString number).toList := by
  rw [Nat.toString_eq_ofList_toDigits, String.toList_ofList]
  intro hmem
  have hdigit := Nat.isDigit_of_mem_toDigits (by decide) (by decide) hmem
  simp at hdigit

theorem takeWhile_rangeText (first last : ℕ) :
    (toString first ++ "-" ++ toString last).toList.takeWhile (· ≠ '-') =
      (toString first).toList := by
  have hdash : ∀ c ∈ (toString first).toList, decide (c ≠ '-') = true := by
    intro c hc
    rw [decide_eq_true_eq]
    intro heq
    rw [heq] at hc
    exact dash_not_mem_toString first hc
  simp only [String.toList_append]
  rw [List.append_assoc, List.takeWhile_append_of_pos hdash]
  simp

theorem firstLineInId_rangeText (declaration : Declaration) :
    firstLineInId declaration.rangeText = some (declaration.range.lineStart : ℤ) := by
  have hdash : '-' ∈ declaration.rangeText.toList := by
    unfold Declaration.rangeText
    simp
  have hsmall : declaration.range.lineStart < 10 ^ maxStrDigits := by
    calc
      declaration.range.lineStart < 2 ^ 31 := declaration.range.line_lt
      _ ≤ 10 ^ 10 := by decide
      _ ≤ 10 ^ maxStrDigits := Nat.pow_le_pow_right (by decide) (by decide)
  unfold firstLineInId
  rw [if_neg (not_not_intro hdash)]
  unfold Declaration.rangeText
  rw [takeWhile_rangeText, String.ofList_toList, DecimalText.parseInt_toString hsmall]

theorem rangeText_injective {first last first' last' : ℕ}
    (heq : toString first ++ "-" ++ toString last = toString first' ++ "-" ++ toString last') :
    first = first' := by
  have hfront : (toString first).toList = (toString first').toList := by
    rw [← takeWhile_rangeText first last, ← takeWhile_rangeText first' last', heq]
  exact toString_injective (String.toList_injective hfront)

theorem colonPieces_of_declaration (hcolon : ':' ∉ path.toList)
    (hpath : normalizeRepositoryRelativePath path = .ok path)
    (hentity : IsEntity path (declaration.symbol symbolPath).listed entity) :
    colonPieces entity.id =
      ["entity", path, declaration.kind.value, declaration.listedName.text,
        declaration.rangeText] := by
  obtain ⟨rel, hrel, hpieces⟩ := ListedEntity.colonPieces_of_makeId hentity.id_made
  rw [hpath, Except.ok.injEq] at hrel
  rw [hpieces, ← hrel, colonPieces_of_not_mem hcolon]
  simp only [ListedEntity.parts, LocatedSymbol.listed, Declaration.symbol,
    colonPieces_of_not_mem declaration.kind.colonFree,
    colonPieces_of_not_mem declaration.listedName.colonFree, ListedEntity.rangeText]
  rfl

theorem namesEntity_of_id (hcolon : ':' ∉ path.toList)
    (hpath : normalizeRepositoryRelativePath path = .ok path)
    (hentity : IsEntity path (declaration.symbol symbolPath).listed entity)
    {symbol : LocatedSymbol} {other : EntityInfo} (hother : symbol.toEntity source = .ok other)
    (hid : other.id = entity.id) : declaration.namesEntity other = true := by
  have hpieces := colonPieces_of_declaration hcolon hpath hentity
  obtain ⟨rel, -, hsymbol⟩ := LocatedSymbol.toEntity_facts hother
  obtain ⟨stored, -, hotherPieces⟩ := ListedEntity.colonPieces_of_makeId hsymbol.id_made
  rw [hid, hpieces] at hotherPieces
  simp only [ListedEntity.parts, LocatedSymbol.listed, ListedEntity.rangeText,
    Option.toList_some, List.cons.injEq, true_and] at hotherPieces
  -- the path, the kind and the name have one piece each
  have hlength := congrArg List.length hotherPieces
  have hnonempty : ∀ text, 0 < (colonPieces text).length := by
    intro text
    unfold colonPieces
    rw [List.length_map, List.length_pos_iff]
    exact List.splitOn_ne_nil _ _
  have hstored := hnonempty stored
  have hkind := hnonempty symbol.kind
  have hname := hnonempty symbol.name
  simp only [List.length_append, List.length_cons, List.length_nil] at hlength
  obtain ⟨storedPiece, hstoredPiece⟩ := List.length_eq_one_iff.mp
    (show (colonPieces stored).length = 1 by omega)
  obtain ⟨kindPiece, hkindPiece⟩ := List.length_eq_one_iff.mp
    (show (colonPieces symbol.kind).length = 1 by omega)
  obtain ⟨namePiece, hnamePiece⟩ := List.length_eq_one_iff.mp
    (show (colonPieces symbol.name).length = 1 by omega)
  rw [hstoredPiece, hkindPiece, hnamePiece] at hotherPieces
  simp only [List.cons_append, List.nil_append, List.cons.injEq, and_true] at hotherPieces
  obtain ⟨-, hkindEq, hnameEq, hrangeEq⟩ := hotherPieces
  rw [← hkindEq, ← colonPieces_of_not_mem declaration.kind.colonFree] at hkindPiece
  rw [← hnameEq, ← colonPieces_of_not_mem declaration.listedName.colonFree] at hnamePiece
  rw [namesEntity_of_toEntity hother]
  unfold Declaration.names
  rw [colonPieces_injective hkindPiece, colonPieces_injective hnamePiece,
    rangeText_injective hrangeEq]
  simp

theorem symbolsWithIdParts_of_declaration (hcolon : ':' ∉ path.toList)
    (hpath : normalizeRepositoryRelativePath path = .ok path)
    (hentity : IsEntity path (declaration.symbol symbolPath).listed entity)
    (symbols : List EntityInfo) :
    symbolsWithIdParts entity.id symbols = symbols.filter declaration.namesEntity := by
  unfold symbolsWithIdParts
  rw [colonPieces_of_declaration hcolon hpath hentity]
  simp only [firstLineInId_rangeText]
  rfl

theorem symbolsNamed_of_declaration (hcolon : ':' ∉ path.toList)
    (hpath : normalizeRepositoryRelativePath path = .ok path)
    (hentity : IsEntity path (declaration.symbol symbolPath).listed entity)
    {symbols : List EntityInfo}
    (hmade : ∀ other ∈ symbols, ∃ symbol : LocatedSymbol, symbol.toEntity source = .ok other)
    {found : EntityInfo} (honly : symbols.filter declaration.namesEntity = [found]) :
    symbolsNamed entity.id symbols = [found] := by
  unfold symbolsNamed
  by_cases hempty : (symbolsWithId entity.id symbols).isEmpty = true
  · rw [if_pos hempty, symbolsWithIdParts_of_declaration hcolon hpath hentity, honly]
  · rw [if_neg hempty]
    have hnested : symbolsWithId entity.id symbols =
        (symbols.filter declaration.namesEntity).filter fun other => other.id = entity.id := by
      rw [List.filter_filter]
      apply List.filter_congr
      intro other hother
      by_cases hid : other.id = entity.id
      · obtain ⟨symbol, hsymbol⟩ := hmade other hother
        simp [hid, namesEntity_of_id hcolon hpath hentity hsymbol hid]
      · simp [hid]
    have hsub : (symbolsWithId entity.id symbols).Sublist [found] := by
      rw [hnested, honly]
      exact List.filter_sublist
    cases List.sublist_singleton.mp hsub with
    | inl hnil => exact absurd (List.isEmpty_iff.mpr hnil) hempty
    | inr hsame => exact hsame

theorem namesEntity_of_named (hcolon : ':' ∉ path.toList)
    (hpath : normalizeRepositoryRelativePath path = .ok path)
    (hentity : IsEntity path (declaration.symbol symbolPath).listed entity)
    {symbols : List EntityInfo}
    (hmade : ∀ other ∈ symbols, ∃ symbol : LocatedSymbol, symbol.toEntity source = .ok other)
    {found : EntityInfo} (hfound : found ∈ symbolsNamed entity.id symbols) :
    found ∈ symbols ∧ declaration.namesEntity found = true := by
  unfold symbolsNamed at hfound
  by_cases hempty : (symbolsWithId entity.id symbols).isEmpty = true
  · rw [if_pos hempty, symbolsWithIdParts_of_declaration hcolon hpath hentity] at hfound
    exact List.mem_filter.mp hfound
  · rw [if_neg hempty] at hfound
    obtain ⟨hmem, hid⟩ := List.mem_filter.mp hfound
    obtain ⟨symbol, hsymbol⟩ := hmade found hmem
    exact ⟨hmem, namesEntity_of_id hcolon hpath hentity hsymbol (of_decide_eq_true hid)⟩

end Ids

/-! ## The listing of the server -/

theorem filter_mapM {α β : Type} {f : α → PyResult β} {items : List α} {outputs : List β}
    (hok : items.mapM f = .ok outputs) {kept : α → Bool} {keptOutput : β → Bool}
    (hsame : ∀ item output, f item = .ok output → keptOutput output = kept item) :
    (items.filter kept).mapM f = .ok (outputs.filter keptOutput) := by
  induction items generalizing outputs with
  | nil =>
      rw [List.mapM_nil, pure_eq_ok] at hok
      rw [← hok]
      rfl
  | cons item items ih =>
      rw [List.mapM_cons] at hok
      obtain ⟨output, houtput, hok⟩ := bind_eq_ok.mp hok
      obtain ⟨rest, hrest, hok⟩ := bind_eq_ok.mp hok
      rw [← pure_eq_ok.mp hok]
      have hagree := hsame item output houtput
      by_cases hkept : kept item = true
      · rw [List.filter_cons_of_pos hkept, List.filter_cons_of_pos (hagree.trans hkept),
          List.mapM_cons, houtput, ok_bind, ih hrest, ok_bind]
        rfl
      · rw [List.filter_cons_of_neg hkept, List.filter_cons_of_neg (by rw [hagree]; exact hkept)]
        exact ih hrest

section Server

variable {backend : LspBackend} {tree : SourceTree} {symbols : List LspDocumentSymbol}
  {declaration : Declaration} {symbolPath serverPath path : String}

def LspBackend.locatedNode (backend : LspBackend) (serverPath : String)
    (visited : VisitedSymbol) : LocatedSymbol :=
  (backend.visitedEntry serverPath visited).located

theorem serverSymbols_perm (backend : LspBackend) (serverPath : String)
    (symbols : List LspDocumentSymbol) :
    (backend.serverSymbols serverPath symbols).Perm
      ((visitSymbols symbols).map (backend.locatedNode serverPath)) := by
  unfold LspBackend.serverSymbols
  rw [backend.flattenSymbols_eq_map]
  have hsorted := (sortedBy_perm LspBackend.symbolOrder
    ((visitSymbols symbols).map (backend.visitedEntry serverPath))).map
      LspRepositorySymbol.located
  rw [List.map_map] at hsorted
  exact hsorted

theorem names_locatedNode {visited : VisitedSymbol} (hunsigned : LspBackend.Unsigned visited)
    (hname : declaration.listedName.text = declaration.name.text)
    (hline : declaration.range.lineStart = declaration.startLine) :
    declaration.names (backend.locatedNode serverPath visited) =
      backend.standsFor declaration visited := by
  have hstart := hunsigned.startLine
  have hnumber : (visited.node.range.start.line + 1).toNat = declaration.startLine ↔
      visited.node.range.start.line + 1 = declaration.startLine := by
    omega
  unfold Declaration.names LspBackend.standsFor LspBackend.locatedNode
    LspRepositorySymbol.located LspBackend.visitedEntry
  rw [Bool.eq_iff_iff]
  simp only [hname, hline, hnumber, Bool.and_eq_true, decide_eq_true_eq, Bool.or_self]
  constructor
  · rintro ⟨⟨hkind, hsame⟩, hfirst⟩
    exact ⟨⟨hkind, hfirst⟩, hsame⟩
  · rintro ⟨⟨hkind, hfirst⟩, hsame⟩
    exact ⟨⟨hkind, hsame⟩, hfirst⟩

theorem exists_listed_of_described
    (hdescribes : backend.Describes symbols tree.declarations)
    (hmem : declaration ∈ tree.declarations)
    (hname : declaration.listedName.text = declaration.name.text)
    (hline : declaration.range.lineStart = declaration.startLine) :
    ∃ visited, (backend.serverSymbols serverPath symbols).filter declaration.names =
      [backend.locatedNode serverPath visited] := by
  obtain ⟨visited, honly, -⟩ := hdescribes.described declaration hmem
  refine ⟨visited, ?_⟩
  apply List.perm_singleton.mp
  have hperm := (serverSymbols_perm backend serverPath symbols).filter declaration.names
  have hnodes : ((visitSymbols symbols).map (backend.locatedNode serverPath)).filter
      declaration.names = [backend.locatedNode serverPath visited] := by
    rw [List.filter_map]
    have hagree : (visitSymbols symbols).filter
        (declaration.names ∘ backend.locatedNode serverPath) = [visited] := by
      rw [← honly]
      apply List.filter_congr
      intro other hother
      exact names_locatedNode (hdescribes.unsigned other hother) hname hline
    rw [hagree]
    rfl
  rw [hnodes] at hperm
  exact hperm

theorem fileSymbols_of_described (hdescribes : backend.Describes symbols tree.declarations)
    (hmem : declaration ∈ tree.declarations) :
    tree.fileSymbols symbolPath (backend.serverSymbols serverPath symbols) =
      backend.serverSymbols serverPath symbols := by
  cases tree with
  | python body => rfl
  | typescript sourceFile =>
      obtain ⟨visited, honly, -⟩ := hdescribes.described declaration hmem
      have hvisited : visited ∈ visitSymbols symbols := by
        apply List.mem_of_mem_filter
        rw [honly]
        exact List.mem_singleton_self _
      have hlisted : backend.locatedNode serverPath visited ∈
          backend.serverSymbols serverPath symbols :=
        (serverSymbols_perm backend serverPath symbols).mem_iff.mpr (List.mem_map_of_mem hvisited)
      unfold SourceTree.fileSymbols
      dsimp only
      rw [if_neg]
      rw [List.isEmpty_iff]
      exact List.ne_nil_of_mem hlisted

theorem symbolsListed_of_ok {repository : Repository} {provider : Provider}
    (hpath : normalizeRepositoryRelativePath path = .ok path)
    (hproviders : repository.providersForFileRole path .code = .ok [provider])
    {items : List EntityInfo} (hitems : provider.symbolsInFile path = .ok items) :
    repository.symbolsListed path = sortedBy symbolSortKey items := by
  have hlisted : repository.listSymbolsInFile path = .ok (sortedBy symbolSortKey items) := by
    unfold listSymbolsInFile
    rw [hpath, ok_bind, hproviders, ok_bind, collectAnswers, hitems]
    simp only [collectAnswers, ok_bind, List.append_nil]
    rfl
  unfold symbolsListed
  rw [hlisted]

theorem exists_items_of_symbolsListed {repository : Repository} {provider : Provider}
    (hpath : normalizeRepositoryRelativePath path = .ok path)
    (hproviders : repository.providersForFileRole path .code = .ok [provider])
    (hne : repository.symbolsListed path ≠ []) :
    ∃ items, provider.symbolsInFile path = .ok items := by
  cases hitems : provider.symbolsInFile path with
  | ok items => exact ⟨items, rfl⟩
  | error exception =>
      exfalso
      apply hne
      unfold symbolsListed listSymbolsInFile
      rw [hpath, ok_bind, hproviders, ok_bind]
      cases exception with
      | valueError message =>
          simp only [collectAnswers, hitems, ok_bind]
          rfl
      | _ => simp only [collectAnswers, hitems, error_bind]

theorem mem_declarations_listed {listed : List EntityInfo}
    (hlisted : tree.listStructuralSymbols symbolPath = .ok listed)
    (hmem : declaration ∈ tree.declarations) :
    ∃ entity ∈ listed,
      (declaration.symbol symbolPath).toEntity tree.structuralSource = .ok entity := by
  unfold SourceTree.listStructuralSymbols entitiesOf at hlisted
  obtain ⟨entities, hentities, hsorted⟩ := bind_eq_ok.mp hlisted
  have hsymbol : declaration.symbol symbolPath ∈ tree.structuralSymbols symbolPath :=
    SourceTree.mem_structuralSymbols_iff.mpr ⟨declaration, hmem, rfl⟩
  obtain ⟨entity, hentity, hok⟩ := exists_output_of_mem hentities hsymbol
  refine ⟨entity, ?_, hok⟩
  rw [← pure_eq_ok.mp hsorted, mem_sortedBy]
  exact hentity

theorem isEntity_of_declaration {source : SymbolSource} {entity : EntityInfo}
    (hpath : normalizeRepositoryRelativePath symbolPath = .ok path)
    (hok : (declaration.symbol symbolPath).toEntity source = .ok entity) :
    IsEntity path (declaration.symbol symbolPath).listed entity := by
  obtain ⟨rel, hrel, hentity⟩ := LocatedSymbol.toEntity_facts hok
  have hsame : normalizeRepositoryRelativePath symbolPath = .ok rel := hrel
  rw [hpath, Except.ok.injEq] at hsame
  rw [hsame]
  exact hentity

/-! ## Usable ids -/

variable {repository : Repository}

theorem resolved_of_readBack
    (hserved : ServesFile repository backend tree symbols symbolPath serverPath path)
    (hdescribes : backend.Describes symbols tree.declarations)
    (hback : ReadBack backend tree symbols serverPath path)
    (hmem : declaration ∈ tree.declarations) {entity : EntityInfo}
    (hok : (declaration.symbol symbolPath).toEntity tree.structuralSource = .ok entity) :
    ∃ column, repository.resolveSymbolTarget entity.id =
      .ok (path, declaration.startLine, column) := by
  obtain ⟨hname, hline⟩ := hback.listedAsDeclared declaration hmem
  have hentity := isEntity_of_declaration hserved.path_eq hok
  have hpath := normalize_of_stripped hserved.path_eq hback.stripped
  obtain ⟨provider, hproviders, hsymbols⟩ := hserved.served
  -- the symbols of the server are all accepted
  obtain ⟨entities, hentities⟩ := exists_mapM_iff.mpr hback.accepted
  unfold SourceTree.listFileSymbols entitiesOf at hsymbols
  rw [fileSymbols_of_described hdescribes hmem, hentities, ok_bind] at hsymbols
  have hlisted := symbolsListed_of_ok hpath hproviders hsymbols
  -- one of them has the kind, the name and the line of the declaration
  obtain ⟨visited, honly⟩ := exists_listed_of_described hdescribes hmem hname hline
  have hfiltered := filter_mapM hentities fun item output houtput =>
    namesEntity_of_toEntity houtput declaration
  rw [honly] at hfiltered
  obtain ⟨found, hfound, hrest⟩ := bind_eq_ok.mp (List.mapM_cons.symm.trans hfiltered)
  have hsingle : entities.filter declaration.namesEntity = [found] :=
    (Except.ok.inj hrest).symm
  have hperm : ((repository.symbolsListed path).filter declaration.namesEntity).Perm [found] := by
    rw [hlisted, ← hsingle]
    exact ((sortedBy_perm _ _).trans (sortedBy_perm _ _)).filter _
  have hmade : ∀ other ∈ repository.symbolsListed path, ∃ symbol : LocatedSymbol,
      symbol.toEntity tree.serverSource = .ok other := by
    intro other hother
    rw [hlisted, mem_sortedBy, mem_sortedBy] at hother
    obtain ⟨symbol, -, hsymbol⟩ := exists_input_of_mem hentities hother
    exact ⟨symbol, hsymbol⟩
  have hnamed := symbolsNamed_of_declaration hback.colonFree hpath hentity hmade
    (List.perm_singleton.mp hperm)
  obtain ⟨rel, -, hfoundEntity⟩ := LocatedSymbol.toEntity_facts hfound
  have hnames : declaration.namesEntity found = true := by
    apply List.of_mem_filter (l := entities)
    rw [hsingle]
    exact List.mem_singleton_self _
  have hfirst : found.lineStart = some declaration.startLine := by
    rw [namesEntity_of_toEntity hfound] at hnames
    unfold Declaration.names at hnames
    rw [Bool.and_eq_true, decide_eq_true_eq] at hnames
    rw [hfoundEntity.lineStart_eq, ← hline, ← hnames.2]
    rfl
  have hpart := symbolIdPath_of_makeId hpath hentity.id_made
  rw [takeWhile_colonFree hback.colonFree] at hpart
  exact ⟨_, resolveSymbolTarget_eq_ok.mpr
    ⟨path, found, hpart, hpath, hnamed, hfirst, hfoundEntity.columnStart_eq⟩⟩

theorem path_of_resolved {entity : EntityInfo} {line column : ℕ}
    (hpath : normalizeRepositoryRelativePath symbolPath = .ok path)
    (hentity : IsEntity path (declaration.symbol symbolPath).listed entity)
    (hok : repository.resolveSymbolTarget entity.id = .ok (path, line, column)) :
    ':' ∉ path.toList ∧ strip path = path := by
  obtain ⟨part, symbol, hpart, hnormal, -⟩ := resolveSymbolTarget_eq_ok.mp hok
  obtain ⟨rel, hrel, -⟩ := ListedEntity.colonPieces_of_makeId hentity.id_made
  have hcolon := colon_not_mem_of_symbolIdPath hpart hnormal
  have hrelColon : ':' ∉ rel.toList := fun hcolonRel =>
    hcolon (colon_mem_of_normalized hrel hcolonRel)
  rw [symbolIdPath_of_makeId hrel hentity.id_made, takeWhile_colonFree hrelColon,
    Except.ok.injEq] at hpart
  rw [← hpart] at hnormal
  exact ⟨hcolon, stripped_of_cycle hpath hrel hnormal⟩

theorem listedAsDeclared_of_resolved
    (hserved : ServesFile repository backend tree symbols symbolPath serverPath path)
    (hdescribes : backend.Describes symbols tree.declarations)
    (hmem : declaration ∈ tree.declarations) {entity : EntityInfo} {column : ℕ}
    (hok : (declaration.symbol symbolPath).toEntity tree.structuralSource = .ok entity)
    (hresolved : repository.resolveSymbolTarget entity.id =
      .ok (path, declaration.startLine, column)) :
    (∀ symbol ∈ backend.serverSymbols serverPath symbols,
      ∃ entity, symbol.toEntity tree.serverSource = .ok entity) ∧
        declaration.listedName.text = declaration.name.text ∧
          declaration.range.lineStart = declaration.startLine := by
  have hentity := isEntity_of_declaration hserved.path_eq hok
  obtain ⟨hcolon, hstrip⟩ := path_of_resolved hserved.path_eq hentity hresolved
  have hpath := normalize_of_stripped hserved.path_eq hstrip
  obtain ⟨provider, hproviders, hsymbols⟩ := hserved.served
  obtain ⟨part, found, -, -, hnamed, hstands⟩ := resolveSymbolTarget_eq_ok.mp hresolved
  have hne : repository.symbolsListed path ≠ [] := by
    intro hnil
    rw [hnil, symbolsNamed_nil] at hnamed
    cases hnamed
  obtain ⟨items, hitems⟩ := exists_items_of_symbolsListed hpath hproviders hne
  have hlisted := symbolsListed_of_ok hpath hproviders hitems
  rw [hsymbols] at hitems
  unfold SourceTree.listFileSymbols entitiesOf at hitems
  rw [fileSymbols_of_described hdescribes hmem] at hitems
  obtain ⟨entities, hentities, hsorted⟩ := bind_eq_ok.mp hitems
  rw [pure_eq_ok] at hsorted
  have hmade : ∀ other ∈ repository.symbolsListed path, ∃ symbol : LocatedSymbol,
      symbol.toEntity tree.serverSource = .ok other := by
    intro other hother
    rw [hlisted, mem_sortedBy, ← hsorted, mem_sortedBy] at hother
    obtain ⟨symbol, -, hsymbol⟩ := exists_input_of_mem hentities hother
    exact ⟨symbol, hsymbol⟩
  obtain ⟨hfound, hnames⟩ := namesEntity_of_named hcolon hpath hentity hmade
    (show found ∈ symbolsNamed entity.id _ by rw [hnamed]; exact List.mem_singleton_self _)
  rw [hlisted, mem_sortedBy, ← hsorted, mem_sortedBy] at hfound
  obtain ⟨symbol, hsymbol, hmadeFound⟩ := exists_input_of_mem hentities hfound
  obtain ⟨visited, hvisited, hlocated⟩ := List.mem_map.mp
    ((serverSymbols_perm backend serverPath symbols).mem_iff.mp hsymbol)
  obtain ⟨rel, -, hfoundEntity⟩ := LocatedSymbol.toEntity_facts hmadeFound
  rw [namesEntity_of_toEntity hmadeFound] at hnames
  unfold Declaration.names at hnames
  simp only [Bool.and_eq_true, decide_eq_true_eq] at hnames
  obtain ⟨⟨hkind, hname⟩, hline⟩ := hnames
  have hstart : symbol.lineStart = declaration.startLine :=
    Option.some.inj (hfoundEntity.lineStart_eq.symm.trans hstands.1)
  refine ⟨exists_mapM_iff.mp ⟨entities, hentities⟩, ?_, hline.symm.trans hstart⟩
  -- the node which was found is the one which stands for the declaration
  have hunsigned := (hdescribes.unsigned visited hvisited).startLine
  rw [← hlocated] at hkind hname hstart
  have hstandsFor : backend.standsFor declaration visited = true := by
    have hnumber : (visited.node.range.start.line + 1).toNat = declaration.startLine := hstart
    have hfirst : visited.node.range.start.line + 1 = declaration.startLine := by omega
    have hkindNode : backend.symbolKind visited.node.kind = declaration.kind.value := hkind
    have hnameNode : visited.node.name = declaration.listedName.text := hname
    unfold LspBackend.standsFor
    simp [hfirst, hkindNode, hnameNode]
  obtain ⟨only, honly, hdeclared, -⟩ := hdescribes.described declaration hmem
  have hsame : visited ∈ [only] := by
    rw [← honly]
    exact List.mem_filter.mpr ⟨hvisited, hstandsFor⟩
  rw [← hdeclared, ← List.mem_singleton.mp hsame]
  exact hname.symm

end Server

/-- The ids which are listed for the declarations of a file are usable exactly when there are
none, or the path can be read back from an id, the symbols of the server are accepted, and
each declaration is listed under its own name and on the line on which it starts. -/
theorem structuralIds_usable_iff {repository : Repository} {backend : LspBackend}
    {tree : SourceTree} {symbols : List LspDocumentSymbol} {symbolPath serverPath path : String}
    (hserved : ServesFile repository backend tree symbols symbolPath serverPath path)
    (hdescribes : backend.Describes symbols tree.declarations) {listed : List EntityInfo}
    (hlisted : tree.listStructuralSymbols symbolPath = .ok listed) :
    StructuralIdsUsable repository tree symbolPath path ↔
      tree.declarations = [] ∨ ReadBack backend tree symbols serverPath path := by
  constructor
  · intro husable
    by_cases hnone : tree.declarations = []
    · exact .inl hnone
    · right
      have hresolved : ∀ declaration ∈ tree.declarations, ∃ entity column,
          (declaration.symbol symbolPath).toEntity tree.structuralSource = .ok entity ∧
            repository.resolveSymbolTarget entity.id =
              .ok (path, declaration.startLine, column) := by
        intro declaration hmem
        obtain ⟨entity, hentity, hok⟩ := mem_declarations_listed hlisted hmem
        obtain ⟨column, htarget⟩ := husable listed hlisted declaration hmem entity hentity hok
        exact ⟨entity, column, hok, htarget⟩
      obtain ⟨first, hfirst⟩ := List.exists_mem_of_ne_nil _ hnone
      obtain ⟨entity, column, hok, htarget⟩ := hresolved first hfirst
      obtain ⟨hcolon, hstrip⟩ := path_of_resolved hserved.path_eq
        (isEntity_of_declaration hserved.path_eq hok) htarget
      constructor
      case colonFree => exact hcolon
      case stripped => exact hstrip
      case accepted =>
        exact (listedAsDeclared_of_resolved hserved hdescribes hfirst hok htarget).1
      case listedAsDeclared =>
        intro declaration hmem
        obtain ⟨other, otherColumn, hother, htargetOther⟩ := hresolved declaration hmem
        exact (listedAsDeclared_of_resolved hserved hdescribes hmem hother htargetOther).2
  · intro hcondition _ _ declaration hmem entity _ hok
    cases hcondition with
    | inl hnone =>
        rw [hnone] at hmem
        cases hmem
    | inr hback => exact resolved_of_readBack hserved hdescribes hback hmem hok

/-! ## A method -/

namespace MethodSample

def className : Identifier := ⟨"Shop", by simp; decide⟩

def methodName : Identifier := ⟨"run", by simp; decide⟩

def tree : SourceTree :=
  .python
    [.classDef className none ⟨1, 0, 3, 12, by decide, by decide, by decide⟩
      [.functionDef methodName none ⟨2, 4, 3, 12, by decide, by decide, by decide⟩]]

def methodSymbol : LspDocumentSymbol :=
  { name := "run"
    kind := 6
    range := ⟨⟨1, 4⟩, ⟨2, 12⟩⟩
    selectionRange := ⟨⟨1, 8⟩, ⟨1, 11⟩⟩
    detail := none
    containerName := none
    children := [] }

def classSymbol : LspDocumentSymbol :=
  { name := "Shop"
    kind := 5
    range := ⟨⟨0, 0⟩, ⟨2, 12⟩⟩
    selectionRange := ⟨⟨0, 6⟩, ⟨0, 10⟩⟩
    detail := none
    containerName := none
    children := [methodSymbol] }

def backend : LspBackend where
  tree := ⟨[(["repo"], .directory), (["repo", "shop.py"], .file)], 40⟩
  root := ["repo"]
  workingDirectory := ["repo"]
  fileText _ := .text "class Shop:\n    def run(self):\n        pass\n"
  supportedExtensions := [".py"]
  symbolKindByCode := [(5, "class"), (6, "method")]
  fileUriPath _ := .ok none
  casefold text := text
  fnmatchcase _ _ := false

def provider : Provider :=
  { providerId := "py"
    components := [Sample.component "c:py:shop" ["shop.py"] []]
    files := [Sample.file "c:py:shop" "shop.py"]
    symbolsInFile := fun _ =>
      tree.listFileSymbols "shop.py" (backend.serverSymbols "shop.py" [classSymbol]) }

def repository : Repository := ⟨"/repo", [provider], fun _ => [.architecture, .code]⟩

theorem served :
    ServesFile repository backend tree [classSymbol] "shop.py" "shop.py" "shop.py" := by
  constructor
  case path_eq => decide
  case served => exact ⟨provider, rfl, rfl⟩

theorem visited : visitSymbols [classSymbol] =
    [⟨none, classSymbol⟩, ⟨some "Shop", methodSymbol⟩] := by
  simp [visitSymbols, visitSymbol_eq, classSymbol, methodSymbol]

theorem described : backend.Describes [classSymbol] tree.declarations := by
  constructor
  case unsigned =>
    rw [visited]
    intro node hnode
    cases List.mem_cons.mp hnode with
    | inl hclass =>
        rw [hclass]
        constructor
        all_goals decide
    | inr hmethod =>
        rw [List.mem_singleton.mp hmethod]
        constructor
        all_goals decide
  case described =>
    rw [visited]
    intro declaration hdeclaration
    cases List.mem_cons.mp hdeclaration with
    | inl hclass =>
        rw [hclass]
        exact ⟨⟨none, classSymbol⟩, rfl, rfl, by simp [pythonDeclaration]⟩
    | inr hmethod =>
        rw [List.mem_singleton.mp hmethod]
        exact ⟨⟨some "Shop", methodSymbol⟩, rfl, rfl, by simp [className]⟩

theorem listed : ∃ entities, tree.listStructuralSymbols "shop.py" = .ok entities := by
  have haccepted : (tree.listStructuralSymbols "shop.py").Yields fun _ => True := by
    decide +kernel
  obtain ⟨entities, hentities, -⟩ := PyResult.Yields.exists_ok haccepted
  exact ⟨entities, hentities⟩

end MethodSample

theorem structuralIds_usable_iff_methodSample :
    StructuralIdsUsable MethodSample.repository MethodSample.tree "shop.py" "shop.py" ↔
      MethodSample.tree.declarations = [] ∨
        ReadBack MethodSample.backend MethodSample.tree [MethodSample.classSymbol] "shop.py"
          "shop.py" := by
  obtain ⟨entities, hentities⟩ := MethodSample.listed
  exact structuralIds_usable_iff MethodSample.served MethodSample.described hentities

/-- A method is listed with the name of its class, under which no server knows it. -/
theorem structuralIds_not_always_usable :
    ¬ ∀ (repository : Repository) (backend : LspBackend) (tree : SourceTree)
      (symbols : List LspDocumentSymbol) (symbolPath serverPath path : String),
      ServesFile repository backend tree symbols symbolPath serverPath path →
        backend.Describes symbols tree.declarations →
          StructuralIdsUsable repository tree symbolPath path := by
  intro halways
  have husable := halways _ _ _ _ _ _ _ MethodSample.served MethodSample.described
  obtain ⟨entities, hentities⟩ := MethodSample.listed
  have hmethod : _ ∈ MethodSample.tree.declarations :=
    List.mem_cons_of_mem _ (List.mem_singleton_self _)
  obtain ⟨entity, hentity, hok⟩ := mem_declarations_listed hentities hmethod
  obtain ⟨column, hresolved⟩ := husable entities hentities _ hmethod entity hentity hok
  have hlisted := (listedAsDeclared_of_resolved MethodSample.served MethodSample.described
    hmethod hok hresolved).2.1
  exact absurd hlisted (by decide)

end SuitCode
