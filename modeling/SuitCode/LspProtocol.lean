import SuitCode.LspMessages
import SuitCode.Library.ExceptList

/-!
# Results of a language server

The parser of the client: locations, location links and forests of document
symbols, each field with the check it passes.
-/

namespace SuitCode

open ExceptList KeyedList

structure LspPosition where
  line : ℤ
  character : ℤ
  deriving DecidableEq, Repr

structure LspRange where
  start : LspPosition
  stop : LspPosition
  deriving DecidableEq, Repr

structure LspLocation where
  uri : String
  range : LspRange
  deriving DecidableEq, Repr

structure LspLocationLink where
  targetUri : String
  targetRange : LspRange
  targetSelectionRange : Option LspRange
  deriving DecidableEq, Repr

structure LspDocumentSymbol where
  name : String
  kind : ℤ
  range : LspRange
  selectionRange : LspRange
  detail : Option String
  containerName : Option String
  children : List LspDocumentSymbol
  deriving Repr

/-! ## Fields -/

namespace LspValue

/-- `payload.get(name)`. -/
def get (members : List (String × LspValue)) (name : String) : LspValue :=
  (member? members name).getD .null

def asStr? : LspValue → Option String
  | .str value => some value
  | _ => none

/-- `isinstance(value, int)` holds of truth values too, which are the numbers 1 and 0. -/
def asInt? : LspValue → Option ℤ
  | .int value => some value
  | .bool true => some 1
  | .bool false => some 0
  | _ => none

theorem mem_of_member? {members : List (String × LspValue)} {name : String} {value : LspValue}
    (hfound : member? members name = some value) : (name, value) ∈ members := by
  unfold member? at hfound
  rw [Option.map_eq_some_iff] at hfound
  obtain ⟨found, hleader, hvalue⟩ := hfound
  have hkey := leader?_key hleader
  have hmem := leader?_mem hleader
  rw [← hkey, ← hvalue]
  exact hmem

end LspValue

open LspValue

def requireStr (members : List (String × LspValue)) (name message : String) :
    LspResult String :=
  match (get members name).asStr? with
  | some value => .ok value
  | none => raiseProtocolError message

def requireInt (members : List (String × LspValue)) (name message : String) : LspResult ℤ :=
  match (get members name).asInt? with
  | some value => .ok value
  | none => raiseProtocolError message

def optionalStr (members : List (String × LspValue)) (name message : String) :
    LspResult (Option String) :=
  match get members name with
  | .null => .ok none
  | .str value => .ok (some value)
  | _ => raiseProtocolError message

/-! ## Locations -/

def parsePosition : LspValue → LspResult LspPosition
  | .obj members =>
      match (get members "line").asInt?, (get members "character").asInt? with
      | some line, some character => .ok ⟨line, character⟩
      | _, _ => raiseProtocolError "position line and character must be integers"
  | _ => raiseProtocolError "position payload must be an object"

def parseRange : LspValue → LspResult LspRange
  | .obj members => do
      let start ← parsePosition (get members "start")
      let stop ← parsePosition (get members "end")
      return ⟨start, stop⟩
  | _ => raiseProtocolError "range payload must be an object"

def parseLocation : LspValue → LspResult LspLocation
  | .obj members => do
      let uri ← requireStr members "uri" "location uri must be a string"
      let range ← parseRange (get members "range")
      return ⟨uri, range⟩
  | _ => raiseProtocolError "location payload must be an object"

def parseLocationLink : LspValue → LspResult LspLocationLink
  | .obj members => do
      let targetUri ← requireStr members "targetUri" "location link targetUri must be a string"
      if (get members "targetRange").isNull then
        raiseProtocolError "location link targetRange is required"
      else do
        let targetRange ← parseRange (get members "targetRange")
        if (get members "targetSelectionRange").isNull then
          return ⟨targetUri, targetRange, none⟩
        else do
          let selectionRange ← parseRange (get members "targetSelectionRange")
          return ⟨targetUri, targetRange, some selectionRange⟩
  | _ => raiseProtocolError "location link payload must be an object"

def LspLocationLink.location (link : LspLocationLink) : LspLocation :=
  ⟨link.targetUri, link.targetSelectionRange.getD link.targetRange⟩

def parseLocationOrLink (members : List (String × LspValue)) (message : String) :
    LspResult LspLocation :=
  if (member? members "uri").isSome then parseLocation (.obj members)
  else if (member? members "targetUri").isSome then
    LspLocationLink.location <$> parseLocationLink (.obj members)
  else raiseProtocolError message

def parseLocationItem : LspValue → LspResult LspLocation
  | .obj members =>
      parseLocationOrLink members
        "definition/reference/implementation list items must be Location or LocationLink objects"
  | _ =>
      raiseProtocolError "definition/reference/implementation list items must be objects"

def parseLocations : LspValue → LspResult (List LspLocation)
  | .null => .ok []
  | .obj members => do
      let location ← parseLocationOrLink members
        "location response object must be a Location or LocationLink"
      return [location]
  | .arr items => items.mapM parseLocationItem
  | _ =>
      raiseProtocolError
        ("definition/reference/implementation response must be a location, " ++
          "a list of locations, or null")

/-! ## Document symbols -/

def parseDocumentSymbolInformation (members : List (String × LspValue)) :
    LspResult LspDocumentSymbol := do
  let name ← requireStr members "name" "document symbol name must be a string"
  let kind ← requireInt members "kind" "document symbol kind must be an integer"
  let containerName ← optionalStr members "containerName"
    "document symbol containerName must be a string when present"
  let location ← parseLocation (get members "location")
  return ⟨name, kind, location.range, location.range, none, containerName, []⟩

/-- `payload.get("children", [])`, which must be a list. -/
def childItems (members : List (String × LspValue)) : LspResult (List LspValue) :=
  match member? members "children" with
  | none => .ok []
  | some (.arr items) => .ok items
  | some _ => raiseProtocolError "document symbol children must be a list when present"

theorem sizeOf_lt_of_mem_childItems {members : List (String × LspValue)}
    {items : List LspValue} {item : LspValue} (hitems : childItems members = .ok items)
    (hitem : item ∈ items) : sizeOf item < sizeOf (LspValue.obj members) := by
  unfold childItems at hitems
  split at hitems
  · cases hitems
    cases hitem
  · rename_i found hfound
    cases hitems
    have hmem := List.sizeOf_lt_of_mem (mem_of_member? hfound)
    have hchild := List.sizeOf_lt_of_mem hitem
    simp only [Prod.mk.sizeOf_spec, LspValue.arr.sizeOf_spec] at hmem
    simp only [LspValue.obj.sizeOf_spec]
    omega
  · cases hitems

def parseDocumentSymbol : LspValue → LspResult LspDocumentSymbol
  | .obj members =>
      if (member? members "location").isSome then parseDocumentSymbolInformation members
      else do
        let name ← requireStr members "name" "document symbol name must be a string"
        let kind ← requireInt members "kind" "document symbol kind must be an integer"
        let detail ← optionalStr members "detail"
          "document symbol detail must be a string when present"
        let containerName ← optionalStr members "containerName"
          "document symbol containerName must be a string when present"
        match _hitems : childItems members with
        | .error error => .error error
        | .ok items => do
            let range ← parseRange (get members "range")
            let selectionRange ← parseRange (get members "selectionRange")
            let children ← items.attach.mapM fun item => parseDocumentSymbol item.val
            return ⟨name, kind, range, selectionRange, detail, containerName, children⟩
  | _ => raiseProtocolError "document symbol payload must be an object"
termination_by payload => sizeOf payload
decreasing_by exact sizeOf_lt_of_mem_childItems _hitems item.property

def parseDocumentSymbols : LspValue → LspResult (List LspDocumentSymbol)
  | .null => .ok []
  | .arr items => items.mapM parseDocumentSymbol
  | _ =>
      raiseProtocolError "textDocument/documentSymbol response must be a list or null"

/-! ## Errors of the parser -/

def LspError.IsProtocolError (error : LspError) : Prop :=
  error.errorClass = .lspProtocolError

theorem raiseProtocolError_raises {α : Type} (message : String) :
    Raises LspError.IsProtocolError (raiseProtocolError message : LspResult α) :=
  raises_error rfl

theorem requireStr_raises (members : List (String × LspValue)) (name message : String) :
    Raises LspError.IsProtocolError (requireStr members name message) := by
  unfold requireStr
  cases (LspValue.get members name).asStr? with
  | none => exact raiseProtocolError_raises _
  | some value => exact raises_ok _

theorem requireInt_raises (members : List (String × LspValue)) (name message : String) :
    Raises LspError.IsProtocolError (requireInt members name message) := by
  unfold requireInt
  cases (LspValue.get members name).asInt? with
  | none => exact raiseProtocolError_raises _
  | some value => exact raises_ok _

theorem optionalStr_raises (members : List (String × LspValue)) (name message : String) :
    Raises LspError.IsProtocolError (optionalStr members name message) := by
  unfold optionalStr
  split
  · exact raises_ok _
  · exact raises_ok _
  · exact raiseProtocolError_raises _

theorem parsePosition_raises (payload : LspValue) :
    Raises LspError.IsProtocolError (parsePosition payload) := by
  unfold parsePosition
  split
  · split
    · exact raises_ok _
    · exact raiseProtocolError_raises _
  · exact raiseProtocolError_raises _

/-- A range which cannot be parsed is an error of the protocol. -/
theorem parseRange_raises (payload : LspValue) :
    Raises LspError.IsProtocolError (parseRange payload) := by
  unfold parseRange
  split
  · apply raises_bind (parsePosition_raises _)
    intro start
    apply raises_bind (parsePosition_raises _)
    intro stop
    exact raises_ok _
  · exact raiseProtocolError_raises _

theorem parseLocation_raises (payload : LspValue) :
    Raises LspError.IsProtocolError (parseLocation payload) := by
  unfold parseLocation
  split
  · apply raises_bind (requireStr_raises _ _ _)
    intro uri
    apply raises_bind (parseRange_raises _)
    intro range
    exact raises_ok _
  · exact raiseProtocolError_raises _

theorem parseLocationLink_raises (payload : LspValue) :
    Raises LspError.IsProtocolError (parseLocationLink payload) := by
  unfold parseLocationLink
  split
  · apply raises_bind (requireStr_raises _ _ _)
    intro uri
    split
    · exact raiseProtocolError_raises _
    · apply raises_bind (parseRange_raises _)
      intro range
      split
      · exact raises_ok _
      · apply raises_bind (parseRange_raises _)
        intro selectionRange
        exact raises_ok _
  · exact raiseProtocolError_raises _

theorem parseLocationOrLink_raises (members : List (String × LspValue)) (message : String) :
    Raises LspError.IsProtocolError (parseLocationOrLink members message) := by
  unfold parseLocationOrLink
  split
  · exact parseLocation_raises _
  · split
    · exact raises_map (parseLocationLink_raises _)
    · exact raiseProtocolError_raises _

theorem parseLocations_raises (payload : LspValue) :
    Raises LspError.IsProtocolError (parseLocations payload) := by
  unfold parseLocations
  split
  · exact raises_ok _
  · apply raises_bind (parseLocationOrLink_raises _ _)
    intro location
    exact raises_ok _
  · apply raises_mapM
    intro item _
    unfold parseLocationItem
    split
    · exact parseLocationOrLink_raises _ _
    · exact raiseProtocolError_raises _
  · exact raiseProtocolError_raises _

theorem parseDocumentSymbolInformation_raises (members : List (String × LspValue)) :
    Raises LspError.IsProtocolError (parseDocumentSymbolInformation members) := by
  unfold parseDocumentSymbolInformation
  apply raises_bind (requireStr_raises _ _ _)
  intro name
  apply raises_bind (requireInt_raises _ _ _)
  intro kind
  apply raises_bind (optionalStr_raises _ _ _)
  intro containerName
  apply raises_bind (parseLocation_raises _)
  intro location
  exact raises_ok _

theorem childItems_raises (members : List (String × LspValue)) :
    Raises LspError.IsProtocolError (childItems members) := by
  unfold childItems
  split
  · exact raises_ok _
  · exact raises_ok _
  · exact raiseProtocolError_raises _

theorem parseDocumentSymbol_raises (payload : LspValue) :
    Raises LspError.IsProtocolError (parseDocumentSymbol payload) := by
  rw [parseDocumentSymbol.eq_def]
  split
  · rename_i members
    split
    · exact parseDocumentSymbolInformation_raises members
    · apply raises_bind (requireStr_raises _ _ _)
      intro name
      apply raises_bind (requireInt_raises _ _ _)
      intro kind
      apply raises_bind (optionalStr_raises _ _ _)
      intro detail
      apply raises_bind (optionalStr_raises _ _ _)
      intro containerName
      split
      · rename_i error herror
        exact raises_error (childItems_raises members error herror)
      · rename_i items hitems
        apply raises_bind (parseRange_raises _)
        intro range
        apply raises_bind (parseRange_raises _)
        intro selectionRange
        apply raises_bind
        · apply raises_mapM
          intro item _
          have hsize := sizeOf_lt_of_mem_childItems hitems item.property
          exact parseDocumentSymbol_raises item.val
        · intro children
          exact raises_ok _
  · exact raiseProtocolError_raises _
termination_by sizeOf payload
decreasing_by
  subst_vars
  exact hsize

theorem parseDocumentSymbols_raises (payload : LspValue) :
    Raises LspError.IsProtocolError (parseDocumentSymbols payload) := by
  unfold parseDocumentSymbols
  split
  · exact raises_ok _
  · exact raises_mapM fun item _ => parseDocumentSymbol_raises item
  · exact raiseProtocolError_raises _

end SuitCode
