import SuitCode.LspProtocol

/-!
# Payloads of the coordinator

Locations and document symbols as dictionaries, and what the other process
makes of them.  Reading a dictionary which was written gives the value back.
-/

namespace SuitCode

open ExceptList KeyedList LspValue

abbrev Dict := List (String × LspValue)

/-! ## Writing -/

def textOrNull : Option String → LspValue
  | some text => .str text
  | none => .null

def positionToDict (position : LspPosition) : Dict :=
  [("line", .int position.line), ("character", .int position.character)]

def rangeToDict (range : LspRange) : Dict :=
  [("start", .obj (positionToDict range.start)), ("end", .obj (positionToDict range.stop))]

def locationToDict (location : LspLocation) : Dict :=
  [("uri", .str location.uri), ("range", .obj (rangeToDict location.range))]

def locationsToPayload (locations : List LspLocation) : List Dict :=
  locations.map locationToDict

def documentSymbolToDict (symbol : LspDocumentSymbol) : Dict :=
  [("name", .str symbol.name), ("kind", .int symbol.kind), ("detail", textOrNull symbol.detail),
    ("container_name", textOrNull symbol.containerName),
    ("range", .obj (rangeToDict symbol.range)),
    ("selection_range", .obj (rangeToDict symbol.selectionRange)),
    ("children", .arr (symbol.children.attach.map fun child =>
      .obj (documentSymbolToDict child.val)))]
termination_by symbol
decreasing_by
  have hchild := List.sizeOf_lt_of_mem child.property
  cases symbol
  simp only [LspDocumentSymbol.mk.sizeOf_spec] at hchild ⊢
  omega

def documentSymbolsToPayload (symbols : List LspDocumentSymbol) : List Dict :=
  symbols.map documentSymbolToDict

/-! ## Reading -/

def raiseFieldError {α : Type} (name expected : String) : LspResult α :=
  .error ⟨.valueError, "payload field `" ++ name ++ "` must be " ++ expected⟩

def payloadDict (item : Dict) (name : String) : LspResult Dict :=
  match LspValue.get item name with
  | .obj members => .ok members
  | _ => raiseFieldError name "an object"

def payloadStr (item : Dict) (name : String) : LspResult String :=
  match (LspValue.get item name).asStr? with
  | some value => .ok value
  | none => raiseFieldError name "a string"

def payloadOptionalStr (item : Dict) (name : String) : LspResult (Option String) :=
  match LspValue.get item name with
  | .null => .ok none
  | .str value => .ok (some value)
  | _ => raiseFieldError name "a string when present"

def payloadInt (item : Dict) (name : String) : LspResult ℤ :=
  match (LspValue.get item name).asInt? with
  | some value => .ok value
  | none => raiseFieldError name "an integer"

def positionFromDict (item : Dict) : LspResult LspPosition := do
  let line ← payloadInt item "line"
  let character ← payloadInt item "character"
  return ⟨line, character⟩

def rangeFromDict (item : Dict) : LspResult LspRange := do
  let start ← payloadDict item "start"
  let start ← positionFromDict start
  let stop ← payloadDict item "end"
  let stop ← positionFromDict stop
  return ⟨start, stop⟩

def locationFromDict (item : Dict) : LspResult LspLocation := do
  let uri ← payloadStr item "uri"
  let range ← payloadDict item "range"
  let range ← rangeFromDict range
  return ⟨uri, range⟩

def locationsFromPayload (items : List Dict) : LspResult (List LspLocation) :=
  items.mapM locationFromDict

def asDict? : LspValue → Option Dict
  | .obj members => some members
  | _ => none

def dictItems (items : List LspValue) : List Dict := items.filterMap asDict?

theorem sizeOf_lt_of_mem_dictItems {item child : Dict} {items : List LspValue}
    (hchildren : LspValue.get item "children" = .arr items) (hchild : child ∈ dictItems items) :
    sizeOf child < sizeOf item := by
  have hfound : member? item "children" = some (.arr items) := by
    unfold LspValue.get at hchildren
    cases hmember : member? item "children" with
    | none =>
        rw [hmember] at hchildren
        cases hchildren
    | some value =>
        rw [hmember] at hchildren
        rw [← hchildren, Option.getD_some]
  have hitem := List.sizeOf_lt_of_mem (mem_of_member? hfound)
  obtain ⟨value, hvalue, hdict⟩ := List.mem_filterMap.mp hchild
  have hobj : value = .obj child := by
    cases value with
    | obj members =>
        cases hdict
        rfl
    | _ => cases hdict
  have hlist := List.sizeOf_lt_of_mem hvalue
  rw [hobj] at hlist
  simp only [Prod.mk.sizeOf_spec, LspValue.arr.sizeOf_spec] at hitem
  simp only [LspValue.obj.sizeOf_spec] at hlist
  omega

def documentSymbolFromDict (item : Dict) : LspResult LspDocumentSymbol :=
  match _hchildren : LspValue.get item "children" with
  | .arr items => do
      let name ← payloadStr item "name"
      let kind ← payloadInt item "kind"
      let detail ← payloadOptionalStr item "detail"
      let containerName ← payloadOptionalStr item "container_name"
      let range ← payloadDict item "range"
      let range ← rangeFromDict range
      let selectionRange ← payloadDict item "selection_range"
      let selectionRange ← rangeFromDict selectionRange
      let children ← (dictItems items).attach.mapM fun child =>
        documentSymbolFromDict child.val
      return ⟨name, kind, range, selectionRange, detail, containerName, children⟩
  | _ => .error ⟨.valueError, "document symbol children payload must be a list"⟩
termination_by sizeOf item
decreasing_by exact sizeOf_lt_of_mem_dictItems _hchildren child.property

def documentSymbolsFromPayload (items : List Dict) : LspResult (List LspDocumentSymbol) :=
  items.mapM documentSymbolFromDict

/-! ## Reading back -/

@[simp] theorem get_cons (name wanted : String) (value : LspValue) (members : Dict) :
    LspValue.get ((name, value) :: members) wanted =
      if name = wanted then value else LspValue.get members wanted := by
  unfold LspValue.get member? leader?
  by_cases heq : name = wanted
  · rw [if_pos heq, List.find?_cons_of_pos (by simpa using heq)]
    rfl
  · rw [if_neg heq, List.find?_cons_of_neg (by simpa using heq)]

theorem positionFromDict_positionToDict (position : LspPosition) :
    positionFromDict (positionToDict position) = .ok position := by
  simp [positionFromDict, positionToDict, payloadInt, asInt?, ok_bind]

theorem rangeFromDict_rangeToDict (range : LspRange) :
    rangeFromDict (rangeToDict range) = .ok range := by
  simp [rangeFromDict, rangeToDict, payloadDict, ok_bind, positionFromDict_positionToDict]

theorem locationFromDict_locationToDict (location : LspLocation) :
    locationFromDict (locationToDict location) = .ok location := by
  simp [locationFromDict, locationToDict, payloadDict, payloadStr, asStr?, ok_bind,
    rangeFromDict_rangeToDict]

theorem payloadOptionalStr_textOrNull {item : Dict} {name : String} {value : Option String}
    (hget : LspValue.get item name = textOrNull value) : payloadOptionalStr item name = .ok value := by
  unfold payloadOptionalStr
  rw [hget]
  cases value <;> rfl

theorem mapM_map_eq_ok {α β : Type} {write : α → β} {read : β → LspResult α} {values : List α}
    (hread : ∀ value ∈ values, read (write value) = .ok value) :
    (values.map write).mapM read = .ok values := by
  induction values with
  | nil => rfl
  | cons value values ih =>
      rw [List.map_cons, List.mapM_cons, hread value List.mem_cons_self, ok_bind,
        ih fun later hlater => hread later (List.mem_cons_of_mem _ hlater)]
      rfl

theorem dictItems_map_obj (items : List Dict) : dictItems (items.map .obj) = items := by
  induction items with
  | nil => rfl
  | cons item items ih =>
      rw [List.map_cons]
      unfold dictItems at ih ⊢
      rw [List.filterMap_cons, ih]
      rfl

/-- A symbol is read field by field; its children are the dictionaries in their list. -/
theorem documentSymbolFromDict_eq {item : Dict} {items : List LspValue}
    (hchildren : LspValue.get item "children" = .arr items) :
    documentSymbolFromDict item = (do
      let name ← payloadStr item "name"
      let kind ← payloadInt item "kind"
      let detail ← payloadOptionalStr item "detail"
      let containerName ← payloadOptionalStr item "container_name"
      let range ← payloadDict item "range"
      let range ← rangeFromDict range
      let selectionRange ← payloadDict item "selection_range"
      let selectionRange ← rangeFromDict selectionRange
      let children ← documentSymbolsFromPayload (dictItems items)
      return ⟨name, kind, range, selectionRange, detail, containerName, children⟩) := by
  rw [documentSymbolFromDict]
  split
  · rename_i found hfound
    rw [hchildren, LspValue.arr.injEq] at hfound
    subst hfound
    simp only [mapM_attach, documentSymbolsFromPayload]
  · rename_i hother
    exact absurd hchildren (hother items)

theorem documentSymbolFromDict_documentSymbolToDict (symbol : LspDocumentSymbol) :
    documentSymbolFromDict (documentSymbolToDict symbol) = .ok symbol := by
  have hchildren : ∀ child ∈ symbol.children,
      documentSymbolFromDict (documentSymbolToDict child) = .ok child := by
    intro child hchild
    have hsize := List.sizeOf_lt_of_mem hchild
    exact documentSymbolFromDict_documentSymbolToDict child
  have hitems : dictItems (symbol.children.attach.map fun child =>
      .obj (documentSymbolToDict child.val)) = symbol.children.map documentSymbolToDict := by
    rw [← dictItems_map_obj (symbol.children.map documentSymbolToDict), List.map_map,
      ← List.attach_map_subtype_val symbol.children, List.map_map]
    simp
  have hget : LspValue.get (documentSymbolToDict symbol) "children" =
      .arr (symbol.children.attach.map fun child => .obj (documentSymbolToDict child.val)) := by
    rw [documentSymbolToDict]
    simp
  have hdetail : payloadOptionalStr (documentSymbolToDict symbol) "detail" =
      .ok symbol.detail := by
    apply payloadOptionalStr_textOrNull
    rw [documentSymbolToDict]
    simp
  have hcontainer : payloadOptionalStr (documentSymbolToDict symbol) "container_name" =
      .ok symbol.containerName := by
    apply payloadOptionalStr_textOrNull
    rw [documentSymbolToDict]
    simp
  have hread : documentSymbolsFromPayload (symbol.children.map documentSymbolToDict) =
      .ok symbol.children := mapM_map_eq_ok hchildren
  rw [documentSymbolFromDict_eq hget, hitems, hread, hdetail, hcontainer, documentSymbolToDict]
  simp [payloadStr, payloadInt, payloadDict, asStr?, asInt?, ok_bind,
    rangeFromDict_rangeToDict, pure, Except.pure]
  cases symbol
  rfl
termination_by symbol
decreasing_by
  cases symbol
  simp only [LspDocumentSymbol.mk.sizeOf_spec] at hsize ⊢
  omega

theorem locations_readBack (locations : List LspLocation) :
    locationsFromPayload (locationsToPayload locations) = .ok locations :=
  mapM_map_eq_ok fun location _ => locationFromDict_locationToDict location

theorem documentSymbols_readBack (symbols : List LspDocumentSymbol) :
    documentSymbolsFromPayload (documentSymbolsToPayload symbols) = .ok symbols :=
  mapM_map_eq_ok fun symbol _ => documentSymbolFromDict_documentSymbolToDict symbol

end SuitCode
