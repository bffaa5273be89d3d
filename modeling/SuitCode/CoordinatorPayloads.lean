import SuitCode.LspPayloads
import Mathlib.Algebra.GroupWithZero.Nat

/-!
# Payloads between two processes

What the coordinator answers is a dictionary with one list of items.  The models which
check a payload allow nothing else in it, but the children of a document symbol are read
without the ones which are no dictionaries, and the symbols below those are lost.
-/

namespace SuitCode

open ExceptList KeyedList LspValue

/-! ## Workspace symbols -/

structure LspWorkspaceSymbol where
  name : String
  kind : ℤ
  location : Option LspLocation
  containerName : Option String
  deriving DecidableEq, Repr

def workspaceSymbolToDict (symbol : LspWorkspaceSymbol) : Dict :=
  [("name", .str symbol.name), ("kind", .int symbol.kind),
    ("container_name", textOrNull symbol.containerName),
    ("location", match symbol.location with
      | none => .null
      | some location => .obj (locationToDict location))]

def workspaceSymbolsToPayload (symbols : List LspWorkspaceSymbol) : List Dict :=
  symbols.map workspaceSymbolToDict

def payloadOptionalLocation (item : Dict) : LspResult (Option Dict) :=
  match LspValue.get item "location" with
  | .null => .ok none
  | .obj location => .ok (some location)
  | _ => .error
      ⟨.valueError, "workspace symbol location payload must be an object when present"⟩

def workspaceSymbolFromDict (item : Dict) : LspResult LspWorkspaceSymbol := do
  let locationPayload ← payloadOptionalLocation item
  let name ← payloadStr item "name"
  let kind ← payloadInt item "kind"
  let containerName ← payloadOptionalStr item "container_name"
  let location ← match locationPayload with
    | none => pure none
    | some location => some <$> locationFromDict location
  return ⟨name, kind, location, containerName⟩

def workspaceSymbolsFromPayload (items : List Dict) : LspResult (List LspWorkspaceSymbol) :=
  items.mapM workspaceSymbolFromDict

/-! ## The models of a payload -/

/-- `payload.model_dump(mode="json")` behind `json.dumps` and `json.loads`: the tuples are
lists. -/
def writtenPayload (items : List Dict) : LspValue := .obj [("items", .arr (items.map .obj))]

/-- `WorkspaceSymbolPayload`, `DocumentSymbolPayload` and `LocationPayload` have the one field
`items`, forbid others and take dictionaries only. -/
def payloadItems? : LspValue → Option (List Dict)
  | .obj members =>
      if members.all fun entry => entry.1 = "items" then
        match member? members "items" with
        | none => some []
        | some (.arr items) => items.mapM asDict?
        | some _ => none
      else none
  | _ => none

section Models

/- The validation error of a payload. -/
variable (rejection : LspError)

/-- `*Payload.model_validate(payload).items`. -/
def validatedItems (payload : LspValue) : LspResult (List Dict) :=
  match payloadItems? payload with
  | some items => .ok items
  | none => .error rejection

def readWorkspaceSymbols (payload : LspValue) : LspResult (List LspWorkspaceSymbol) := do
  workspaceSymbolsFromPayload (← validatedItems rejection payload)

def readDocumentSymbols (payload : LspValue) : LspResult (List LspDocumentSymbol) := do
  documentSymbolsFromPayload (← validatedItems rejection payload)

def readLocations (payload : LspValue) : LspResult (List LspLocation) := do
  locationsFromPayload (← validatedItems rejection payload)

end Models

variable {children : List LspValue} {item : Dict} {items : List Dict}

/-! ## Entries and nodes -/

theorem sizeOf_lt_of_mem_children {child : LspValue}
    (hchildren : LspValue.get item "children" = .arr children) (hchild : child ∈ children) :
    sizeOf child < sizeOf (LspValue.obj item) := by
  have hfound : member? item "children" = some (.arr children) := by
    unfold LspValue.get at hchildren
    cases hmember : member? item "children" with
    | none =>
        rw [hmember] at hchildren
        cases hchildren
    | some value =>
        rw [hmember] at hchildren
        rw [← hchildren, Option.getD_some]
  have hitem := List.sizeOf_lt_of_mem (mem_of_member? hfound)
  have hlist := List.sizeOf_lt_of_mem hchild
  simp only [Prod.mk.sizeOf_spec, LspValue.arr.sizeOf_spec] at hitem
  simp only [LspValue.obj.sizeOf_spec]
  omega

def symbolEntries : LspValue → ℕ
  | .obj item =>
      match _hchildren : LspValue.get item "children" with
      | .arr children => 1 + (children.attach.map fun child => symbolEntries child.val).sum
      | _ => 1
  | _ => 1
termination_by value => sizeOf value
decreasing_by exact sizeOf_lt_of_mem_children _hchildren child.property

def lostEntries : LspValue → ℕ
  | .obj item =>
      match _hchildren : LspValue.get item "children" with
      | .arr children => (children.attach.map fun child => lostEntries child.val).sum
      | _ => 0
  | _ => 1
termination_by value => sizeOf value
decreasing_by exact sizeOf_lt_of_mem_children _hchildren child.property

inductive OnlyDicts : LspValue → Prop
  | dict (item : Dict)
      (children : ∀ children, LspValue.get item "children" = .arr children →
        ∀ child ∈ children, OnlyDicts child) :
      OnlyDicts (.obj item)

def LspDocumentSymbol.nodeCount (symbol : LspDocumentSymbol) : ℕ :=
  1 + (symbol.children.attach.map fun child => child.val.nodeCount).sum
termination_by symbol
decreasing_by
  have hchild := List.sizeOf_lt_of_mem child.property
  cases symbol
  simp only [LspDocumentSymbol.mk.sizeOf_spec] at hchild ⊢
  omega

def nodeCount (symbols : List LspDocumentSymbol) : ℕ :=
  (symbols.map LspDocumentSymbol.nodeCount).sum

theorem nodeCount_eq (symbol : LspDocumentSymbol) :
    symbol.nodeCount = 1 + nodeCount symbol.children := by
  rw [LspDocumentSymbol.nodeCount, nodeCount, List.map_attach_eq_pmap, List.pmap_eq_map]

theorem symbolEntries_of_children (hchildren : LspValue.get item "children" = .arr children) :
    symbolEntries (.obj item) = 1 + (children.map symbolEntries).sum := by
  rw [symbolEntries]
  split
  · rename_i found hfound
    rw [hchildren, LspValue.arr.injEq] at hfound
    rw [hfound, List.map_attach_eq_pmap, List.pmap_eq_map]
  · rename_i hother
    exact absurd hchildren (hother children)

theorem lostEntries_of_children (hchildren : LspValue.get item "children" = .arr children) :
    lostEntries (.obj item) = (children.map lostEntries).sum := by
  rw [lostEntries]
  split
  · rename_i found hfound
    rw [hchildren, LspValue.arr.injEq] at hfound
    rw [hfound, List.map_attach_eq_pmap, List.pmap_eq_map]
  · rename_i hother
    exact absurd hchildren (hother children)

/-! ## What is lost -/

theorem exists_children_of_read {symbol : LspDocumentSymbol}
    (hread : documentSymbolFromDict item = .ok symbol) :
    ∃ children, LspValue.get item "children" = .arr children ∧
      documentSymbolsFromPayload (dictItems children) = .ok symbol.children := by
  cases hchildren : LspValue.get item "children" with
  | arr children =>
      rw [documentSymbolFromDict_eq hchildren] at hread
      simp only [bind_eq_ok, pure_eq_ok] at hread
      obtain ⟨name, -, kind, -, detail, -, container, -, range, -, range', -, selection, -,
        selection', -, below, hbelow, rfl⟩ := hread
      exact ⟨children, rfl, hbelow⟩
  | _ =>
      rw [documentSymbolFromDict] at hread
      split at hread
      · rename_i found hfound
        rw [hchildren] at hfound
        cases hfound
      · cases hread

theorem sum_symbolEntries {values : List LspValue} {symbols : List LspDocumentSymbol}
    (hread : documentSymbolsFromPayload (dictItems values) = .ok symbols)
    (hitem : ∀ item symbol, LspValue.obj item ∈ values →
      documentSymbolFromDict item = .ok symbol →
        symbolEntries (.obj item) = symbol.nodeCount + lostEntries (.obj item)) :
    (values.map symbolEntries).sum =
      nodeCount symbols + (values.map lostEntries).sum := by
  induction values generalizing symbols with
  | nil =>
      cases hread
      rfl
  | cons value values ih =>
      have hlater := fun item symbol hmem =>
        hitem item symbol (List.mem_cons_of_mem value hmem)
      rw [List.map_cons, List.map_cons, List.sum_cons, List.sum_cons]
      cases value with
      | obj item =>
          have hdicts : dictItems (.obj item :: values) = item :: dictItems values := rfl
          rw [hdicts, documentSymbolsFromPayload, List.mapM_cons, bind_eq_ok] at hread
          obtain ⟨symbol, hsymbol, hrest⟩ := hread
          obtain ⟨rest, hrest, heq⟩ := bind_eq_ok.mp hrest
          have hsymbols : symbol :: rest = symbols := by simpa [pure_eq_ok] using heq
          have hhead := hitem item symbol List.mem_cons_self hsymbol
          have htail := ih hrest hlater
          rw [← hsymbols, hhead, htail]
          simp only [nodeCount, List.map_cons, List.sum_cons]
          omega
      | _ =>
          have htail := ih hread hlater
          rw [htail, symbolEntries, lostEntries]
          · omega
          all_goals
            intro item heq
            cases heq

theorem symbolEntries_eq {item : Dict} {symbol : LspDocumentSymbol}
    (hread : documentSymbolFromDict item = .ok symbol) :
    symbolEntries (.obj item) = symbol.nodeCount + lostEntries (.obj item) := by
  obtain ⟨children, hchildren, hbelow⟩ := exists_children_of_read hread
  have hsum := sum_symbolEntries hbelow fun child below hchild hchildRead =>
    have hsize := sizeOf_lt_of_mem_children hchildren hchild
    symbolEntries_eq hchildRead
  rw [symbolEntries_of_children hchildren, lostEntries_of_children hchildren, nodeCount_eq, hsum]
  omega
termination_by sizeOf item
decreasing_by
  simp only [LspValue.obj.sizeOf_spec] at hsize
  omega

theorem onlyDicts_of_lostEntries (value : LspValue) (hlost : lostEntries value = 0) :
    OnlyDicts value := by
  match value with
  | .obj item =>
      apply OnlyDicts.dict
      intro children hchildren child hchild
      have hsize := sizeOf_lt_of_mem_children hchildren hchild
      rw [lostEntries_of_children hchildren, List.sum_eq_zero_iff_forall_eq_nat] at hlost
      exact onlyDicts_of_lostEntries child (hlost _ (List.mem_map_of_mem hchild))
  | .null | .bool _ | .int _ | .float _ _ | .str _ | .arr _ => simp [lostEntries] at hlost
termination_by sizeOf value
decreasing_by exact hsize

theorem lostEntries_eq_zero_iff {value : LspValue} : lostEntries value = 0 ↔ OnlyDicts value := by
  constructor
  · exact onlyDicts_of_lostEntries value
  · intro honly
    induction honly with
    | dict item children ih =>
        cases hchildren : LspValue.get item "children" with
        | arr values =>
            rw [lostEntries_of_children hchildren, List.sum_eq_zero_iff_forall_eq_nat]
            intro count hcount
            obtain ⟨child, hchild, rfl⟩ := List.mem_map.mp hcount
            exact ih values hchildren child hchild
        | _ =>
            rw [lostEntries]
            split
            · rename_i found hfound
              rw [hchildren] at hfound
              cases hfound
            · rfl

/-! ## Round trips -/

theorem mapM_asDict?_eq_some {values : List LspValue} :
    values.mapM asDict? = some items ↔ values = items.map .obj := by
  induction values generalizing items with
  | nil => simp [eq_comm]
  | cons value values ih =>
      cases value with
      | obj members =>
          cases items with
          | nil => simp [asDict?, Option.bind_eq_some_iff]
          | cons item items => simp [asDict?, Option.bind_eq_some_iff, ← ih, and_comm]
      | _ => cases items <;> simp [asDict?]

theorem payloadItems?_writtenPayload (items : List Dict) :
    payloadItems? (writtenPayload items) = some items := by
  have hdicts : (items.map LspValue.obj).mapM asDict? = some items :=
    mapM_asDict?_eq_some.mpr rfl
  simpa [payloadItems?, writtenPayload, member?, leader?] using hdicts

theorem workspaceSymbolFromDict_workspaceSymbolToDict (symbol : LspWorkspaceSymbol) :
    workspaceSymbolFromDict (workspaceSymbolToDict symbol) = .ok symbol := by
  have hcontainer : payloadOptionalStr (workspaceSymbolToDict symbol) "container_name" =
      .ok symbol.containerName := by
    apply payloadOptionalStr_textOrNull
    simp [workspaceSymbolToDict]
  have hlocation : payloadOptionalLocation (workspaceSymbolToDict symbol) =
      .ok (symbol.location.map locationToDict) := by
    unfold payloadOptionalLocation workspaceSymbolToDict
    cases symbol.location with
    | none => simp
    | some location => simp
  rw [workspaceSymbolFromDict, hlocation, hcontainer, workspaceSymbolToDict]
  cases symbol with
  | mk name kind location containerName =>
      cases location with
      | none => simp [payloadStr, payloadInt, asStr?, asInt?, ok_bind, pure, Except.pure]
      | some location =>
          simp [payloadStr, payloadInt, asStr?, asInt?, ok_bind, pure, Except.pure,
            locationFromDict_locationToDict, Functor.map, Except.map]

/-- What one side writes the other reads. -/
structure ReadsBack (rejection : LspError) : Prop where
  workspaceSymbols : ∀ symbols,
    readWorkspaceSymbols rejection (writtenPayload (workspaceSymbolsToPayload symbols)) =
      .ok symbols
  documentSymbols : ∀ symbols,
    readDocumentSymbols rejection (writtenPayload (documentSymbolsToPayload symbols)) =
      .ok symbols
  locations : ∀ locations,
    readLocations rejection (writtenPayload (locationsToPayload locations)) = .ok locations

theorem validatedItems_writtenPayload (rejection : LspError) (items : List Dict) :
    validatedItems rejection (writtenPayload items) = .ok items := by
  rw [validatedItems, payloadItems?_writtenPayload]

theorem readsBack (rejection : LspError) : ReadsBack rejection := by
  constructor
  case workspaceSymbols =>
    intro symbols
    rw [readWorkspaceSymbols, validatedItems_writtenPayload, ok_bind]
    exact mapM_map_eq_ok fun symbol _ => workspaceSymbolFromDict_workspaceSymbolToDict symbol
  case documentSymbols =>
    intro symbols
    rw [readDocumentSymbols, validatedItems_writtenPayload, ok_bind]
    exact documentSymbols_readBack symbols
  case locations =>
    intro locations
    rw [readLocations, validatedItems_writtenPayload, ok_bind]
    exact locations_readBack locations

/-! ## Payloads which lose nothing -/

/-- What a payload has under `items`. -/
def payloadValues : LspValue → List LspValue
  | .obj members =>
      match member? members "items" with
      | some (.arr values) => values
      | _ => []
  | _ => []

def payloadEntries (payload : LspValue) : ℕ := ((payloadValues payload).map symbolEntries).sum

/-- The items of a payload and everything below them are dictionaries. -/
def PayloadOnlyDicts (payload : LspValue) : Prop :=
  ∀ value ∈ payloadValues payload, OnlyDicts value

theorem payloadValues_of_payloadItems? {payload : LspValue}
    (hitems : payloadItems? payload = some items) :
    payloadValues payload = items.map .obj := by
  cases payload with
  | obj members =>
      unfold payloadItems? at hitems
      dsimp only at hitems
      split at hitems
      · split at hitems
        · rename_i habsent
          rw [Option.some.injEq] at hitems
          simp only [payloadValues, habsent, ← hitems, List.map_nil]
        · rename_i values hfound
          simp only [payloadValues, hfound]
          exact mapM_asDict?_eq_some.mp hitems
        · cases hitems
      · cases hitems
  | _ => cases hitems

theorem nodeCount_eq_iff {symbols : List LspDocumentSymbol}
    (hread : documentSymbolsFromPayload items = .ok symbols) :
    nodeCount symbols = ((items.map LspValue.obj).map symbolEntries).sum ↔
      ∀ value ∈ items.map LspValue.obj, OnlyDicts value := by
  have hdicts : documentSymbolsFromPayload (dictItems (items.map .obj)) = .ok symbols := by
    rw [dictItems_map_obj]
    exact hread
  have hsum := sum_symbolEntries hdicts fun _ _ _ hsymbol => symbolEntries_eq hsymbol
  have hlost : ((items.map LspValue.obj).map lostEntries).sum = 0 ↔
      ∀ value ∈ items.map LspValue.obj, OnlyDicts value := by
    simp only [List.sum_eq_zero_iff_forall_eq_nat, List.forall_mem_map, lostEntries_eq_zero_iff]
  rw [← hlost]
  omega

/-- Everything written is read back; and a payload which is read has as many nodes as
entries exactly where everything in it is a dictionary. -/
theorem coordinatorPayloads_iff (rejection : LspError) :
    ReadsBack rejection ∧
      ∀ payload symbols, readDocumentSymbols rejection payload = .ok symbols →
        (nodeCount symbols = payloadEntries payload ↔ PayloadOnlyDicts payload) := by
  refine ⟨readsBack rejection, ?_⟩
  intro payload symbols hread
  unfold readDocumentSymbols validatedItems at hread
  cases hitems : payloadItems? payload with
  | none =>
      rw [hitems] at hread
      cases hread
  | some items =>
      rw [hitems] at hread
      rw [payloadEntries, PayloadOnlyDicts, payloadValues_of_payloadItems? hitems]
      exact nodeCount_eq_iff hread

def originRange : LspRange := ⟨⟨0, 0⟩, ⟨0, 0⟩⟩

def runSymbol (children : List LspDocumentSymbol) : LspDocumentSymbol :=
  ⟨"run", 12, originRange, originRange, none, none, children⟩

/-- The characterization at a function with a function in it. -/
theorem coordinatorPayloads_iff_nested :
    ReadsBack ⟨.valueError, "items"⟩ ∧
      (nodeCount [runSymbol [runSymbol []]] =
          payloadEntries (writtenPayload (documentSymbolsToPayload [runSymbol [runSymbol []]])) ↔
        PayloadOnlyDicts
          (writtenPayload (documentSymbolsToPayload [runSymbol [runSymbol []]]))) :=
  have hboth := coordinatorPayloads_iff ⟨.valueError, "items"⟩
  ⟨hboth.1, hboth.2 _ _ (hboth.1.documentSymbols _)⟩

def runDict (children : List LspValue) : Dict :=
  [("name", .str "run"), ("kind", .int 12), ("range", .obj (rangeToDict originRange)),
    ("selection_range", .obj (rangeToDict originRange)), ("children", .arr children)]

/-- A child which is `null` is dropped without an error. -/
theorem coordinatorPayloads_not_always_counted :
    ¬ ∀ rejection, ReadsBack rejection ∧ ∀ payload symbols,
      readDocumentSymbols rejection payload = .ok symbols →
        nodeCount symbols = payloadEntries payload := by
  intro hall
  have hchildren : LspValue.get (runDict [.null]) "children" = .arr [.null] := rfl
  have hsymbol : documentSymbolFromDict (runDict [.null]) = .ok (runSymbol []) := by
    rw [documentSymbolFromDict_eq hchildren]
    rfl
  have hread : readDocumentSymbols ⟨.valueError, ""⟩ (writtenPayload [runDict [.null]]) =
      .ok [runSymbol []] := by
    rw [readDocumentSymbols, validatedItems_writtenPayload, ok_bind, documentSymbolsFromPayload,
      List.mapM_cons, hsymbol]
    rfl
  have hcount := (hall ⟨.valueError, ""⟩).2 _ _ hread
  have hentries : payloadEntries (writtenPayload [runDict [.null]]) = 2 := by
    rw [payloadEntries, payloadValues_of_payloadItems? (payloadItems?_writtenPayload _),
      List.map_cons, List.map_cons, symbolEntries_of_children hchildren]
    simp [symbolEntries]
  rw [hentries, nodeCount, List.map_singleton, nodeCount_eq] at hcount
  exact absurd hcount (by decide)

end SuitCode
