import SuitCode.LspBackends

/-!
# Anchors of document symbols

A forest of document symbols is visited node by node, each with the name of the
symbol around it.  The flattened list has one entry for each visited node; the
position of an entry is what later queries use as a cursor.
-/

namespace SuitCode

open ExceptList FileTree KeyedList PosixText

/-! ## Visits -/

structure VisitedSymbol where
  enclosing : Option String
  node : LspDocumentSymbol

def visitSymbol (enclosing : Option String) (symbol : LspDocumentSymbol) :
    List VisitedSymbol :=
  ⟨enclosing, symbol⟩ ::
    symbol.children.attach.flatMap fun child => visitSymbol (some symbol.name) child.val
termination_by symbol
decreasing_by
  have hchild := List.sizeOf_lt_of_mem child.property
  cases symbol
  simp only [LspDocumentSymbol.mk.sizeOf_spec] at hchild ⊢
  omega

/-- The nodes of a forest.  Around a root there is no node; what surrounds it is the
container which the symbol names itself, as the symbols of a flat list do. -/
def visitSymbols (symbols : List LspDocumentSymbol) : List VisitedSymbol :=
  symbols.flatMap fun symbol => visitSymbol symbol.containerName symbol

theorem visitSymbol_eq (enclosing : Option String) (symbol : LspDocumentSymbol) :
    visitSymbol enclosing symbol =
      ⟨enclosing, symbol⟩ :: symbol.children.flatMap (visitSymbol (some symbol.name)) := by
  rw [visitSymbol]
  congr 1
  rw [← List.flatMap_map, List.attach_map_subtype_val]

namespace LspPosition

def NotAfter (first second : LspPosition) : Prop :=
  first.line < second.line ∨
    first.line = second.line ∧ first.character ≤ second.character

instance (first second : LspPosition) : Decidable (first.NotAfter second) :=
  inferInstanceAs (Decidable (_ ∨ _))

end LspPosition

def LspDocumentSymbol.SelectionInside (symbol : LspDocumentSymbol) : Prop :=
  symbol.range.start.NotAfter symbol.selectionRange.start ∧
    symbol.selectionRange.start.NotAfter symbol.selectionRange.stop ∧
    symbol.selectionRange.stop.NotAfter symbol.range.stop

/-! ## Entries -/

namespace LspBackend

variable (backend : LspBackend)

def visitedEntry (repositoryRelPath : String) (visited : VisitedSymbol) :
    LspRepositorySymbol :=
  let current := orText visited.enclosing visited.node.containerName
  { name := visited.node.name
    kind := backend.symbolKind visited.node.kind
    repositoryRelPath := repositoryRelPath
    lineStart := visited.node.range.start.line + 1
    lineEnd := visited.node.range.stop.line + 1
    columnStart := visited.node.selectionRange.start.character + 1
    columnEnd := visited.node.selectionRange.stop.character + 1
    containerName := current
    signature := orText visited.node.detail current }

theorem flattenSymbol_eq (repositoryRelPath : String) (containerName : Option String)
    (symbol : LspDocumentSymbol) :
    backend.flattenSymbol repositoryRelPath containerName symbol =
      backend.visitedEntry repositoryRelPath ⟨containerName, symbol⟩ ::
        symbol.children.flatMap
          (backend.flattenSymbol repositoryRelPath (some symbol.name)) := by
  rw [flattenSymbol, visitedEntry]
  congr 1
  rw [← List.flatMap_map, List.attach_map_subtype_val]

theorem flattenSymbol_eq_map (repositoryRelPath : String) (enclosing : Option String)
    (symbol : LspDocumentSymbol) :
    backend.flattenSymbol repositoryRelPath enclosing symbol =
      (visitSymbol enclosing symbol).map (backend.visitedEntry repositoryRelPath) := by
  induction enclosing, symbol using visitSymbol.induct with
  | case1 enclosing symbol ih =>
      rw [flattenSymbol_eq, visitSymbol_eq, List.map_cons, List.map_flatMap]
      congr 1
      apply List.flatMap_congr
      intro child hchild
      exact ih ⟨child, hchild⟩

theorem orText_self (text : Option String) : orText text text = text := by
  unfold orText
  split
  · split
    · rfl
    · rfl
  · rfl

theorem visitedEntry_root (repositoryRelPath : String) (symbol : LspDocumentSymbol) :
    backend.visitedEntry repositoryRelPath ⟨none, symbol⟩ =
      backend.visitedEntry repositoryRelPath ⟨symbol.containerName, symbol⟩ := by
  simp only [visitedEntry, orText_self]
  rfl

theorem flattenSymbols_eq_map (symbols : List LspDocumentSymbol) (repositoryRelPath : String) :
    backend.flattenSymbols symbols repositoryRelPath none =
      (visitSymbols symbols).map (backend.visitedEntry repositoryRelPath) := by
  unfold flattenSymbols visitSymbols
  rw [List.map_flatMap]
  apply List.flatMap_congr
  intro symbol _
  -- a root is flattened without a container, and takes the one it names
  rw [← flattenSymbol_eq_map, flattenSymbol_eq, flattenSymbol_eq, visitedEntry_root]

end LspBackend

/-! ## Anchors -/

/-- The entry points at the name of the node, inside the symbol around it. -/
structure PointsAt (visited : VisitedSymbol) (entry : LspRepositorySymbol) : Prop where
  name_eq : entry.name = visited.node.name
  containerName_eq : entry.containerName = visited.enclosing
  lineStart_eq : entry.lineStart = visited.node.selectionRange.start.line + 1
  columnStart_eq : entry.columnStart = visited.node.selectionRange.start.character + 1

/-- The full range of the node begins on the line of its selection, and the symbol around
it has a name, unless the node names an empty container itself. -/
structure AnchoredNode (visited : VisitedSymbol) : Prop where
  sameLine : visited.node.range.start.line = visited.node.selectionRange.start.line
  named : visited.enclosing = some "" → visited.node.containerName = some ""

theorem orText_eq_left_iff {text fallback : Option String} :
    orText text fallback = text ↔
      (text = none → fallback = none) ∧ (text = some "" → fallback = some "") := by
  unfold orText
  cases text with
  | none => simp
  | some content =>
      by_cases hempty : content = ""
      · simp [hempty]
      · simp [hempty]

variable {visited : VisitedSymbol}

theorem enclosing_eq_none {enclosing : Option String} {symbol : LspDocumentSymbol}
    (hmem : visited ∈ visitSymbol enclosing symbol) (hnone : visited.enclosing = none) :
    visited = ⟨enclosing, symbol⟩ := by
  induction enclosing, symbol using visitSymbol.induct with
  | case1 enclosing symbol ih =>
      rw [visitSymbol_eq, List.mem_cons, List.mem_flatMap] at hmem
      cases hmem with
      | inl hhead => exact hhead
      | inr hbelow =>
          obtain ⟨child, hchild, hvisited⟩ := hbelow
          have hroot := ih ⟨child, hchild⟩ hvisited
          rw [hroot] at hnone
          cases hnone

theorem containerName_of_enclosing_none {symbols : List LspDocumentSymbol}
    (hmem : visited ∈ visitSymbols symbols) (hnone : visited.enclosing = none) :
    visited.node.containerName = none := by
  obtain ⟨symbol, -, hvisited⟩ := List.mem_flatMap.mp hmem
  have hroot := enclosing_eq_none hvisited hnone
  rw [hroot] at hnone ⊢
  exact hnone

theorem pointsAt_visitedEntry_iff (backend : LspBackend) (repositoryRelPath : String)
    {symbols : List LspDocumentSymbol} (hmem : visited ∈ visitSymbols symbols) :
    PointsAt visited (backend.visitedEntry repositoryRelPath visited) ↔
      AnchoredNode visited := by
  constructor
  · intro hpoints
    have hline := hpoints.lineStart_eq
    have hcontainer := hpoints.containerName_eq
    unfold LspBackend.visitedEntry at hline hcontainer
    dsimp only at hline hcontainer
    refine ⟨by omega, ?_⟩
    exact (orText_eq_left_iff.mp hcontainer).2
  · intro hanchored
    have hline := hanchored.sameLine
    constructor
    case name_eq => rfl
    case containerName_eq =>
      apply orText_eq_left_iff.mpr
      exact ⟨containerName_of_enclosing_none hmem, hanchored.named⟩
    case lineStart_eq =>
      unfold LspBackend.visitedEntry
      dsimp only
      omega
    case columnStart_eq => rfl

/-- The flattened list has an entry for each node of the forest, in the order of the
visits, and each points at its node exactly when the full range of every node begins on
the line of its selection and no symbol around a node is without a name. -/
theorem flattenSymbols_pointAt_iff (backend : LspBackend)
    (symbols : List LspDocumentSymbol) (repositoryRelPath : String) :
    List.Forall₂ PointsAt (visitSymbols symbols)
        (backend.flattenSymbols symbols repositoryRelPath none) ↔
      ∀ visited ∈ visitSymbols symbols, AnchoredNode visited := by
  rw [backend.flattenSymbols_eq_map, List.forall₂_map_right_iff, List.forall₂_same]
  constructor
  · intro hall visited hmem
    exact (pointsAt_visitedEntry_iff backend repositoryRelPath hmem).mp (hall visited hmem)
  · intro hall visited hmem
    exact (pointsAt_visitedEntry_iff backend repositoryRelPath hmem).mpr (hall visited hmem)

/-! ## A decorated function -/

def decoratedFunction : LspDocumentSymbol :=
  { name := "run"
    kind := 12
    range := ⟨⟨0, 0⟩, ⟨2, 8⟩⟩
    selectionRange := ⟨⟨1, 4⟩, ⟨1, 7⟩⟩
    detail := none
    containerName := none
    children := [] }

def decoratedBackend : LspBackend where
  tree := ⟨[(["repo"], .directory), (["repo", "app.py"], .file)], 40⟩
  root := ["repo"]
  workingDirectory := ["repo"]
  fileText _ := .text "@task\ndef run():\n    pass\n"
  supportedExtensions := [".py"]
  symbolKindByCode := [(12, "function")]
  fileUriPath _ := .ok none
  casefold text := text
  fnmatchcase _ _ := false

theorem decoratedFunction_selectionInside : decoratedFunction.SelectionInside := by
  unfold LspDocumentSymbol.SelectionInside
  decide

theorem visitSymbols_decoratedFunction :
    visitSymbols [decoratedFunction] = [⟨none, decoratedFunction⟩] := by
  simp [visitSymbols, visitSymbol_eq, decoratedFunction]

/-- The entry of the function has the line of its decorator and the column of its name. -/
theorem flattenSymbols_not_always_pointAt :
    ¬ ∀ (backend : LspBackend) (symbols : List LspDocumentSymbol)
      (repositoryRelPath : String),
      (∀ visited ∈ visitSymbols symbols, visited.node.SelectionInside) →
        List.Forall₂ PointsAt (visitSymbols symbols)
          (backend.flattenSymbols symbols repositoryRelPath none) := by
  intro hall
  have hinside : ∀ visited ∈ visitSymbols [decoratedFunction],
      visited.node.SelectionInside := by
    intro visited hvisited
    rw [visitSymbols_decoratedFunction, List.mem_singleton] at hvisited
    rw [hvisited]
    exact decoratedFunction_selectionInside
  have hpoints := hall decoratedBackend [decoratedFunction] "app.py" hinside
  rw [LspBackend.flattenSymbols_eq_map, List.forall₂_map_right_iff,
    List.forall₂_same] at hpoints
  have hentry := hpoints ⟨none, decoratedFunction⟩ (by simp [visitSymbols_decoratedFunction])
  have hline := hentry.lineStart_eq
  simp [LspBackend.visitedEntry, decoratedFunction] at hline

end SuitCode
