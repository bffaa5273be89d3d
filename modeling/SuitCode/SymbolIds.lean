import SuitCode.FileRouting
import SuitCode.ChangeSetCoherence

/-!
# Ids of symbols

The id of a symbol joins its path, kind, name and line range by colons, and is
split at colons again when the symbol is looked up.  Ids identify the symbols of
some files exactly when the pieces between the colons do.
-/

namespace SuitCode

open PosixText KeyedList ExceptList Repository

/-! ## Entities of a file -/

/-- `text.split(":")`. -/
def colonPieces (text : String) : List String := (text.toList.splitOn ':').map String.ofList

/-- What a provider lists of a symbol, before its id is made. -/
structure ListedEntity where
  entityKind : String
  name : String
  lineStart : Option ℕ
  lineEnd : Option ℕ
  columnStart : Option ℕ
  deriving DecidableEq, Repr

def makeEntityId (repositoryRelPath entityKind entityName : String)
    (lineStart lineEnd : Option ℕ) : PyResult String := do
  let rel ← normalizeRepositoryRelativePath repositoryRelPath
  let base := "entity:" ++ rel ++ ":" ++ entityKind ++ ":" ++ entityName
  match lineStart, lineEnd with
  | some start, some stop => pure (base ++ ":" ++ toString start ++ "-" ++ toString stop)
  | _, _ => pure base

namespace ListedEntity

def makeId (entity : ListedEntity) (repositoryRelPath : String) : PyResult String :=
  makeEntityId repositoryRelPath entity.entityKind entity.name entity.lineStart entity.lineEnd

def rangeText (entity : ListedEntity) : Option String :=
  match entity.lineStart, entity.lineEnd with
  | some start, some stop => some (toString start ++ "-" ++ toString stop)
  | _, _ => none

def parts (entity : ListedEntity) : List String :=
  colonPieces entity.entityKind ++ colonPieces entity.name ++ entity.rangeText.toList

end ListedEntity

structure IsEntity (path : String) (entity : ListedEntity) (symbol : EntityInfo) : Prop where
  id_made : entity.makeId path = .ok symbol.id
  path_eq : symbol.repositoryRelPath = path
  entityKind_eq : symbol.entityKind = entity.entityKind
  name_eq : symbol.name = entity.name
  lineStart_eq : symbol.lineStart = entity.lineStart
  columnStart_eq : symbol.columnStart = entity.columnStart

/-- The repository lists the entities for a path which normalization produces. -/
structure ListsEntities (repository : Repository) (path : String)
    (entities : List ListedEntity) : Prop where
  accepted : ∃ raw, normalizeRepositoryRelativePath raw = .ok path
  listed : ∃ symbols, repository.listSymbolsInFile path = .ok symbols ∧
    List.Forall₂ (IsEntity path) entities symbols

/-- The ids of the entities of some files tell them apart, and each leads back to the
path, the line and the column of its entity. -/
structure IdsIdentify (repository : Repository) (paths : List String)
    (entitiesOf : String → List ListedEntity) : Prop where
  apart : ∀ path ∈ paths, ∀ other ∈ paths, ∀ entity ∈ entitiesOf path,
    ∀ rival ∈ entitiesOf other, entity.makeId path = rival.makeId other →
      path = other ∧ entity = rival
  resolved : ∀ path ∈ paths, ∀ entity ∈ entitiesOf path,
    ∀ symbolId, entity.makeId path = .ok symbolId →
      ∃ line column, entity.lineStart = some line ∧ entity.columnStart = some column ∧
        repository.resolveSymbolTarget symbolId = .ok (path, line, column)

/-! ## The condition -/

/-- The path has no colon and normalizes to itself, every entity has a position, and no two
of them have the same kind, name and line range between the same colons. -/
structure ReadApart (path : String) (entities : List ListedEntity) : Prop where
  colonFree : entities ≠ [] → ':' ∉ path.toList
  stripped : entities ≠ [] → strip path = path
  placed : ∀ entity ∈ entities, entity.lineStart.isSome = true ∧
    entity.columnStart.isSome = true
  parts_nodup : (entities.map ListedEntity.parts).Nodup

variable {raw rel : String}

/-! ## Normal paths -/

theorem normalized_facts {path : String} (hraw : normalizeRepositoryRelativePath raw = .ok path) :
    '\\' ∉ path.toList ∧
      ∃ text, startsWith text "/" = false ∧ path = purePosixPath text := by
  obtain ⟨hstored, hslash, -⟩ := normalizeRepositoryRelativePath_eq_ok.mp hraw
  have hroot : startsWith (removePrefix "./" (strip (replaceChar '\\' '/' raw))) "/" =
      false := by
    by_contra h
    rw [Bool.not_eq_false] at h
    have hstart := startsWith_slash_purePosixPath h
    rw [← hstored, hslash] at hstart
    cases hstart
  refine ⟨?_, _, hroot, hstored⟩
  intro hmem
  rw [hstored] at hmem
  rcases mem_toList_purePosixPath hroot hmem with hmem | hmem | hmem
  · exact backslash_not_mem_replaceChar raw (mem_of_mem_strip (mem_of_mem_removePrefix hmem))
  · cases hmem
  · cases hmem

theorem normalize_of_stripped {path : String}
    (hraw : normalizeRepositoryRelativePath raw = .ok path) (hstrip : strip path = path) :
    normalizeRepositoryRelativePath path = .ok path := by
  obtain ⟨hback, text, hroot, hstored⟩ := normalized_facts hraw
  obtain ⟨-, hslash, hup, hbelow⟩ := normalizeRepositoryRelativePath_eq_ok.mp hraw
  rw [normalizeRepositoryRelativePath_eq_ok, replaceChar_of_not_mem hback, hstrip]
  refine ⟨?_, hslash, hup, hbelow⟩
  rw [hstored, removePrefix_purePosixPath hroot, purePosixPath_idem hroot]

theorem length_normalize_lt {path : String} (hraw : normalizeRepositoryRelativePath raw = .ok path)
    (hstrip : strip path ≠ path) (hpath : normalizeRepositoryRelativePath path = .ok rel) :
    rel = "." ∨ rel.toList.length < path.toList.length := by
  obtain ⟨hback, -⟩ := normalized_facts hraw
  obtain ⟨hstored, hslash, -⟩ := normalizeRepositoryRelativePath_eq_ok.mp hpath
  rw [replaceChar_of_not_mem hback] at hstored
  have hroot : startsWith (removePrefix "./" (strip path)) "/" = false := by
    by_contra h
    rw [Bool.not_eq_false] at h
    have hstart := startsWith_slash_purePosixPath h
    rw [← hstored, hslash] at hstart
    cases hstart
  by_cases hempty : strip path = ""
  · left
    rw [hstored, hempty]
    decide
  · right
    have hle := length_purePosixPath_le hroot
    have hremoved := length_removePrefix_le "./" (strip path)
    have hshorter := length_strip_lt hstrip
    have hpositive : 0 < (strip path).toList.length := by
      rw [List.length_pos_iff, ne_eq, String.toList_eq_nil_iff]
      exact hempty
    rw [← hstored] at hle
    omega

theorem normalize_dot (hdot : normalizeRepositoryRelativePath "." = .ok rel) :
    rel = "." := by
  have hkept : normalizeRepositoryRelativePath "." = .ok "." := by decide
  rw [hkept, Except.ok.injEq] at hdot
  exact hdot.symm

theorem stripped_of_cycle {path : String} (hraw : normalizeRepositoryRelativePath raw = .ok path)
    (hpath : normalizeRepositoryRelativePath path = .ok rel)
    (hrel : normalizeRepositoryRelativePath rel = .ok path) : strip path = path := by
  by_contra hstrip
  cases length_normalize_lt hraw hstrip hpath with
  | inl hdot =>
      rw [hdot] at hrel
      rw [normalize_dot hrel] at hstrip
      exact hstrip (by decide)
  | inr hshorter =>
      by_cases hkept : strip rel = rel
      · rw [normalize_of_stripped hpath hkept, Except.ok.injEq] at hrel
        rw [hrel] at hshorter
        omega
      · cases length_normalize_lt hpath hkept hrel with
        | inl hdot =>
            rw [hdot] at hstrip
            exact hstrip (by decide)
        | inr hback => omega

/-! ## Pieces of an id -/

theorem colonPieces_injective : Function.Injective colonPieces := by
  intro left right heq
  unfold colonPieces at heq
  have hpieces : left.toList.splitOn ':' = right.toList.splitOn ':' := by
    have hmapped := congrArg (List.map String.toList) heq
    simpa using hmapped
  have hrejoined : [':'].intercalate (left.toList.splitOn ':') = left.toList :=
    List.intercalate_splitOn ':'
  apply String.toList_injective
  rw [← hrejoined, hpieces, List.intercalate_splitOn]

theorem colonPieces_append (left right : String) :
    colonPieces (left ++ ":" ++ right) = colonPieces left ++ colonPieces right := by
  have hchars : (left ++ ":" ++ right).toList = left.toList ++ ':' :: right.toList := by
    simp
  unfold colonPieces
  rw [hchars, List.splitOn_append_cons_self, List.map_append]

theorem colonPieces_of_not_mem {text : String} (hcolon : ':' ∉ text.toList) :
    colonPieces text = [text] := by
  unfold colonPieces
  rw [List.splitOn_eq_singleton hcolon]
  simp

theorem colon_not_mem_toString (number : ℕ) : ':' ∉ (toString number).toList := by
  rw [Nat.toString_eq_ofList_toDigits, String.toList_ofList]
  intro hmem
  have hdigit := Nat.isDigit_of_mem_toDigits (by decide) (by decide) hmem
  simp at hdigit

namespace ListedEntity

variable {entity : ListedEntity} {path symbolId : String}

theorem colonPieces_of_makeId (hid : entity.makeId path = .ok symbolId) :
    ∃ rel, normalizeRepositoryRelativePath path = .ok rel ∧
      colonPieces symbolId = "entity" :: (colonPieces rel ++ entity.parts) := by
  unfold makeId makeEntityId at hid
  obtain ⟨rel, hrel, hid⟩ := bind_eq_ok.mp hid
  refine ⟨rel, hrel, ?_⟩
  have hbase : colonPieces
      ("entity:" ++ rel ++ ":" ++ entity.entityKind ++ ":" ++ entity.name) =
        "entity" :: (colonPieces rel ++ (colonPieces entity.entityKind ++
          colonPieces entity.name)) := by
    have htag : "entity:" ++ rel = "entity" ++ ":" ++ rel := by
      rfl
    rw [htag, colonPieces_append, colonPieces_append, colonPieces_append,
      colonPieces_of_not_mem (by decide)]
    simp
  cases hstart : entity.lineStart with
  | none =>
      simp only [hstart, pure_eq_ok] at hid
      rw [← hid, hbase]
      simp [parts, rangeText, hstart, colonPieces]
  | some start =>
      cases hstop : entity.lineEnd with
      | none =>
          simp only [hstart, hstop, pure_eq_ok] at hid
          rw [← hid, hbase]
          simp [parts, rangeText, hstart, hstop, colonPieces]
      | some stop =>
          simp only [hstart, hstop, pure_eq_ok] at hid
          have hrange : ':' ∉ (toString start ++ "-" ++ toString stop).toList := by
            simp only [String.toList_append, List.mem_append, not_or]
            exact ⟨⟨colon_not_mem_toString start, by decide⟩, colon_not_mem_toString stop⟩
          have hjoin : "entity:" ++ rel ++ ":" ++ entity.entityKind ++ ":" ++ entity.name ++
              ":" ++ toString start ++ "-" ++ toString stop =
                "entity:" ++ rel ++ ":" ++ entity.entityKind ++ ":" ++ entity.name ++ ":" ++
                  (toString start ++ "-" ++ toString stop) := by
            simp only [String.append_assoc]
          rw [← hid, hjoin, colonPieces_append, hbase, colonPieces_of_not_mem hrange]
          simp [parts, rangeText, hstart, hstop, colonPieces]

end ListedEntity

/-! ## Listed symbols -/

section Listed

variable {path : String} {entities : List ListedEntity} {symbols : List EntityInfo}

theorem map_colonPieces_ids (hall : List.Forall₂ (IsEntity path) entities symbols)
    (hrel : normalizeRepositoryRelativePath path = .ok rel) :
    (symbols.map EntityInfo.id).map colonPieces =
      (entities.map ListedEntity.parts).map
        fun parts => "entity" :: (colonPieces rel ++ parts) := by
  induction hall with
  | nil => rfl
  | cons hhead _ ih =>
      obtain ⟨other, hother, hpieces⟩ := ListedEntity.colonPieces_of_makeId hhead.id_made
      rw [hrel, Except.ok.injEq] at hother
      simp only [List.map_cons, hpieces, ← hother]
      rw [ih]

theorem nodup_ids_iff (hall : List.Forall₂ (IsEntity path) entities symbols) :
    (symbols.map EntityInfo.id).Nodup ↔ (entities.map ListedEntity.parts).Nodup := by
  cases hall with
  | nil => simp
  | cons hhead htail =>
      obtain ⟨rel, hrel, -⟩ := ListedEntity.colonPieces_of_makeId hhead.id_made
      have hmap := map_colonPieces_ids (.cons hhead htail) hrel
      have hbehind : Function.Injective
          fun parts : List String => "entity" :: (colonPieces rel ++ parts) := by
        intro left right heq
        simpa using heq
      rw [← List.nodup_map_iff colonPieces_injective, hmap, List.nodup_map_iff hbehind]

theorem symbolIdPath_of_makeId {entity : ListedEntity} {symbolId : String}
    (hrel : normalizeRepositoryRelativePath path = .ok rel)
    (hid : entity.makeId path = .ok symbolId) :
    symbolIdPath symbolId = .ok (String.ofList (rel.toList.takeWhile (· ≠ ':'))) := by
  have hrest : ∃ rest, symbolId =
      "entity:" ++ rel ++ ":" ++ entity.entityKind ++ ":" ++ rest := by
    unfold ListedEntity.makeId makeEntityId at hid
    rw [hrel, ok_bind] at hid
    split at hid
    · next start stop _ _ =>
        rw [pure_eq_ok] at hid
        rw [← hid]
        refine ⟨entity.name ++ ":" ++ toString start ++ "-" ++ toString stop, ?_⟩
        simp only [String.append_assoc]
    · rw [pure_eq_ok] at hid
      exact ⟨entity.name, hid.symm⟩
  obtain ⟨rest, hrest⟩ := hrest
  rw [hrest, symbolIdPath_eq]

theorem takeWhile_colonFree {text : String} (hcolon : ':' ∉ text.toList) :
    String.ofList (text.toList.takeWhile (· ≠ ':')) = text := by
  have hall : text.toList.takeWhile (· ≠ ':') = text.toList := by
    rw [List.takeWhile_eq_self_iff]
    intro c hc
    have hne : c ≠ ':' := fun h => hcolon (h ▸ hc)
    simpa using hne
  rw [hall, String.ofList_toList]

theorem symbolMatches_of_mem {repository : Repository}
    (hsymbols : repository.listSymbolsInFile path = .ok symbols)
    {symbol : EntityInfo} (hmem : symbol ∈ symbols) :
    repository.symbolMatches symbol.id path =
      .ok (symbols.filter fun other => other.id = symbol.id) := by
  have hne : (symbols.filter fun other => other.id = symbol.id).isEmpty = false := by
    rw [List.isEmpty_eq_false_iff]
    exact List.ne_nil_of_mem (List.mem_filter.mpr ⟨hmem, by simp⟩)
  unfold symbolMatches
  rw [hsymbols, ok_bind]
  simp only [hne, Bool.false_eq_true, if_false]
  rfl

end Listed

/-! ## Resolution of listed ids -/

section Resolution

variable {repository : Repository} {path : String} {entities : List ListedEntity}

theorem resolveSymbolTarget_of_readApart (hlists : ListsEntities repository path entities)
    (hapart : ReadApart path entities) {entity : ListedEntity} (hmem : entity ∈ entities)
    {symbolId : String} (hid : entity.makeId path = .ok symbolId) :
    ∃ line column, entity.lineStart = some line ∧ entity.columnStart = some column ∧
      repository.resolveSymbolTarget symbolId = .ok (path, line, column) := by
  obtain ⟨⟨raw, hraw⟩, symbols, hsymbols, hall⟩ := hlists
  have hne := List.ne_nil_of_mem hmem
  have hnormal := normalize_of_stripped hraw (hapart.stripped hne)
  have hpart := symbolIdPath_of_makeId hnormal hid
  rw [takeWhile_colonFree (hapart.colonFree hne)] at hpart
  obtain ⟨symbol, hsymbol, hentity⟩ := exists_right_of_mem hall hmem
  have hsame : symbol.id = symbolId := by
    have hmade := hentity.id_made
    rw [hid, Except.ok.injEq] at hmade
    exact hmade.symm
  have hnodup := (nodup_ids_iff hall).mpr hapart.parts_nodup
  have honly : symbols.filter (fun other => other.id = symbol.id) = [symbol] :=
    filter_key_eq_singleton hnodup hsymbol
  have hmatches := symbolMatches_of_mem hsymbols hsymbol
  rw [honly, hsame] at hmatches
  obtain ⟨hline, hcolumn⟩ := hapart.placed entity hmem
  obtain ⟨line, hline⟩ := Option.isSome_iff_exists.mp hline
  obtain ⟨column, hcolumn⟩ := Option.isSome_iff_exists.mp hcolumn
  refine ⟨line, column, hline, hcolumn, ?_⟩
  unfold resolveSymbolTarget
  rw [hpart, ok_bind, hnormal, ok_bind, hmatches, ok_bind, theOnlyMatch, ok_bind]
  simp only [hentity.lineStart_eq, hentity.columnStart_eq, hline, hcolumn]
  rfl

theorem resolveSymbolTarget_facts {symbolId found : String} {line column : ℕ}
    (hok : repository.resolveSymbolTarget symbolId = .ok (found, line, column)) :
    ∃ part symbol, symbolIdPath symbolId = .ok part ∧
      normalizeRepositoryRelativePath part = .ok found ∧
      repository.symbolMatches symbolId found = .ok [symbol] := by
  unfold resolveSymbolTarget at hok
  obtain ⟨part, hpart, hok⟩ := bind_eq_ok.mp hok
  obtain ⟨normal, hnormal, hok⟩ := bind_eq_ok.mp hok
  obtain ⟨candidates, hcandidates, hok⟩ := bind_eq_ok.mp hok
  obtain ⟨symbol, hsymbol, hok⟩ := bind_eq_ok.mp hok
  have hfound : normal = found := by
    split at hok
    · rw [pure_eq_ok, Prod.mk.injEq] at hok
      exact hok.1
    · simp at hok
  have honly : candidates = [symbol] := by
    unfold theOnlyMatch at hsymbol
    split at hsymbol
    · simp at hsymbol
    · rw [Except.ok.injEq] at hsymbol
      rw [hsymbol]
    · simp at hsymbol
  rw [hfound] at hnormal hcandidates
  rw [honly] at hcandidates
  exact ⟨part, symbol, hpart, hnormal, hcandidates⟩

theorem readApart_of_resolved (hlists : ListsEntities repository path entities)
    (hresolved : ∀ entity ∈ entities, ∀ symbolId, entity.makeId path = .ok symbolId →
      ∃ line column, entity.lineStart = some line ∧ entity.columnStart = some column ∧
        repository.resolveSymbolTarget symbolId = .ok (path, line, column)) :
    ReadApart path entities := by
  obtain ⟨⟨raw, hraw⟩, symbols, hsymbols, hall⟩ := hlists
  have hfound : ∀ entity ∈ entities, ∃ symbolId rel part,
      normalizeRepositoryRelativePath path = .ok rel ∧ entity.makeId path = .ok symbolId ∧
      symbolIdPath symbolId = .ok part ∧ normalizeRepositoryRelativePath part = .ok path := by
    intro entity hmem
    obtain ⟨symbol, -, hentity⟩ := exists_right_of_mem hall hmem
    obtain ⟨rel, hrel, -⟩ := ListedEntity.colonPieces_of_makeId hentity.id_made
    obtain ⟨line, column, -, -, hok⟩ := hresolved entity hmem _ hentity.id_made
    obtain ⟨part, other, hpart, hnormal, -⟩ := resolveSymbolTarget_facts hok
    exact ⟨symbol.id, rel, part, hrel, hentity.id_made, hpart, hnormal⟩
  constructor
  case colonFree =>
    intro hne
    obtain ⟨entity, hmem⟩ := List.exists_mem_of_ne_nil _ hne
    obtain ⟨symbolId, rel, part, -, -, hpart, hnormal⟩ := hfound entity hmem
    exact colon_not_mem_of_symbolIdPath hpart hnormal
  case stripped =>
    intro hne
    obtain ⟨entity, hmem⟩ := List.exists_mem_of_ne_nil _ hne
    obtain ⟨symbolId, rel, part, hrel, hid, hpart, hnormal⟩ := hfound entity hmem
    have hcolon := colon_not_mem_of_symbolIdPath hpart hnormal
    -- the path in the id has no colon either, so that all of it is read back
    have hrelColon : ':' ∉ rel.toList := fun hcolonRel =>
      hcolon (colon_mem_of_normalized hrel hcolonRel)
    rw [symbolIdPath_of_makeId hrel hid, takeWhile_colonFree hrelColon,
      Except.ok.injEq] at hpart
    rw [← hpart] at hnormal
    exact stripped_of_cycle hraw hrel hnormal
  case placed =>
    intro entity hmem
    obtain ⟨symbol, -, hentity⟩ := exists_right_of_mem hall hmem
    obtain ⟨line, column, hline, hcolumn, -⟩ := hresolved entity hmem _ hentity.id_made
    simp [hline, hcolumn]
  case parts_nodup =>
    rw [← nodup_ids_iff hall, List.nodup_iff_count_eq_one]
    intro symbolId hsymbolId
    obtain ⟨symbol, hsymbol, heq⟩ := List.mem_map.mp hsymbolId
    obtain ⟨entity, hmem, hentity⟩ := exists_left_of_mem hall hsymbol
    obtain ⟨line, column, -, -, hok⟩ := hresolved entity hmem _ hentity.id_made
    obtain ⟨part, only, -, -, hmatches⟩ := resolveSymbolTarget_facts hok
    rw [symbolMatches_of_mem hsymbols hsymbol, Except.ok.injEq, heq] at hmatches
    rw [List.count_eq_countP, List.countP_map, List.countP_eq_length_filter]
    have hlength := congrArg List.length hmatches
    simpa [Function.comp_def, beq_eq_decide] using hlength

end Resolution

/-- Ids identify the symbols of some files exactly when every file has a path without
colons and white space around it, every symbol has a position, and no two symbols of one
file have the same kind, name and line range. -/
theorem idsIdentify_iff {repository : Repository} {paths : List String}
    {entitiesOf : String → List ListedEntity}
    (hlists : ∀ path ∈ paths, ListsEntities repository path (entitiesOf path)) :
    IdsIdentify repository paths entitiesOf ↔
      ∀ path ∈ paths, ReadApart path (entitiesOf path) := by
  constructor
  · intro hidentify path hpath
    exact readApart_of_resolved (hlists path hpath) (hidentify.resolved path hpath)
  · intro hapart
    constructor
    case resolved =>
      intro path hpath entity hmem symbolId hid
      exact resolveSymbolTarget_of_readApart (hlists path hpath) (hapart path hpath) hmem hid
    case apart =>
      intro path hpath other hother entity hmem rival hrival heq
      obtain ⟨⟨raw, hraw⟩, symbols, -, hall⟩ := hlists path hpath
      obtain ⟨⟨otherRaw, hotherRaw⟩, -⟩ := hlists other hother
      have hne := List.ne_nil_of_mem hmem
      have hotherNe := List.ne_nil_of_mem hrival
      have hnormal := normalize_of_stripped hraw ((hapart path hpath).stripped hne)
      have hotherNormal :=
        normalize_of_stripped hotherRaw ((hapart other hother).stripped hotherNe)
      obtain ⟨symbol, -, hentity⟩ := exists_right_of_mem hall hmem
      have hid := hentity.id_made
      have hotherId : rival.makeId other = .ok symbol.id := by
        rw [← heq]
        exact hid
      obtain ⟨rel, hrel, hpieces⟩ := ListedEntity.colonPieces_of_makeId hid
      obtain ⟨otherRel, hotherRel, hotherPieces⟩ := ListedEntity.colonPieces_of_makeId hotherId
      rw [hnormal, Except.ok.injEq] at hrel
      rw [hotherNormal, Except.ok.injEq] at hotherRel
      rw [← hrel, colonPieces_of_not_mem ((hapart path hpath).colonFree hne)] at hpieces
      rw [← hotherRel, colonPieces_of_not_mem ((hapart other hother).colonFree hotherNe),
        hpieces] at hotherPieces
      simp only [List.singleton_append, List.cons.injEq, true_and] at hotherPieces
      obtain ⟨hpaths, hparts⟩ := hotherPieces
      subst hpaths
      exact ⟨rfl, List.inj_on_of_nodup_map (hapart path hpath).parts_nodup hmem hrival hparts⟩

/-! ## Two symbols on one line -/

namespace Sample

def sameLine : List ListedEntity :=
  [⟨"property", "value", some 3, some 3, some 11⟩,
    ⟨"property", "value", some 3, some 3, some 38⟩]

def sameLineSymbols : List EntityInfo :=
  [⟨"entity:src/app.ts:property:value:3-3", "value", "src/app.ts", "property", some 3,
      some 11, manifest⟩,
    ⟨"entity:src/app.ts:property:value:3-3", "value", "src/app.ts", "property", some 3,
      some 38, manifest⟩]

def sameLineRepository : Repository :=
  repository
    [{ providerId := "npm"
       components := [component "component:npm:app" ["src"] []]
       files := [file "component:npm:app" "src/app.ts"]
       symbolsInFile := fun _ => .ok sameLineSymbols }]
    [.architecture, .code]

end Sample

theorem sameLine_listed :
    ListsEntities Sample.sameLineRepository "src/app.ts" Sample.sameLine := by
  have hlisted : Sample.sameLineRepository.listSymbolsInFile "src/app.ts" =
      .ok Sample.sameLineSymbols := by decide
  constructor
  case accepted => exact ⟨"src/app.ts", by decide⟩
  case listed =>
    refine ⟨Sample.sameLineSymbols, hlisted, ?_⟩
    have hfirst : ListedEntity.makeId ⟨"property", "value", some 3, some 3, some 11⟩
        "src/app.ts" = .ok "entity:src/app.ts:property:value:3-3" := by decide
    have hsecond : ListedEntity.makeId ⟨"property", "value", some 3, some 3, some 38⟩
        "src/app.ts" = .ok "entity:src/app.ts:property:value:3-3" := by decide
    exact .cons ⟨hfirst, rfl, rfl, rfl, rfl, rfl⟩
      (.cons ⟨hsecond, rfl, rfl, rfl, rfl, rfl⟩ .nil)

theorem idsIdentify_iff_sameLine :
    IdsIdentify Sample.sameLineRepository ["src/app.ts"] (fun _ => Sample.sameLine) ↔
      ∀ path ∈ ["src/app.ts"], ReadApart path Sample.sameLine := by
  apply idsIdentify_iff
  intro path hpath
  rw [List.mem_singleton.mp hpath]
  exact sameLine_listed

/-- Two symbols of one kind and name on one line have one id, which leads to neither. -/
theorem symbolIds_not_always_identify :
    ¬ ∀ (repository : Repository) (paths : List String)
      (entitiesOf : String → List ListedEntity),
      (∀ path ∈ paths, ListsEntities repository path (entitiesOf path)) →
        IdsIdentify repository paths entitiesOf := by
  intro hall
  have hlists : ∀ path ∈ ["src/app.ts"],
      ListsEntities Sample.sameLineRepository path Sample.sameLine := by
    intro path hpath
    rw [List.mem_singleton.mp hpath]
    exact sameLine_listed
  have hidentify := hall Sample.sameLineRepository ["src/app.ts"] (fun _ => Sample.sameLine)
    hlists
  have hsame := hidentify.apart "src/app.ts" (by simp) "src/app.ts" (by simp)
    ⟨"property", "value", some 3, some 3, some 11⟩ (by simp [Sample.sameLine])
    ⟨"property", "value", some 3, some 3, some 38⟩ (by simp [Sample.sameLine]) rfl
  simp at hsame

end SuitCode
