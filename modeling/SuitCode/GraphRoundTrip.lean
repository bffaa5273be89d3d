import SuitCode.GraphStoreFacts
import SuitCode.EvidencePaths

/-!
# Reading back what was stored

The payload of a node, an edge or a piece of evidence is parsed back field by
field.  Only the provenance entries of a node can change on the way: their
evidence paths are normalised a second time.
-/

namespace SuitCode

open ExceptList JsonText KeyedList PosixText

/-! ## Fields read back -/

@[simp] theorem readStr_sortKeys (value : String) : readStr (sortKeys (.str value)) = .ok value :=
  rfl

@[simp] theorem readInt_sortKeys (value : ℤ) : readInt (sortKeys (.int value)) = .ok value := rfl

theorem readOptional_sortKeys {α : Type} {read : Json → PyResult α} {dump : α → Json}
    (hread : ∀ value, read (sortKeys (dump value)) = .ok value)
    (hnull : ∀ value, sortKeys (dump value) ≠ .null) (value : Option α) :
    readOptional read (sortKeys (dumpOptional dump value)) = .ok value := by
  cases value with
  | none => rfl
  | some value =>
      have hvalue := hread value
      have hne := hnull value
      rw [dumpOptional]
      unfold readOptional
      split
      · next hnull' => exact absurd hnull' hne
      · rw [hvalue]
        rfl

@[simp] theorem readOptional_readStr (value : Option String) :
    readOptional readStr (sortKeys (dumpOptional .str value)) = .ok value :=
  readOptional_sortKeys readStr_sortKeys (fun _ h => by simp [sortKeys] at h) value

@[simp] theorem readOptional_readInt (value : Option ℤ) :
    readOptional readInt (sortKeys (dumpOptional .int value)) = .ok value :=
  readOptional_sortKeys readInt_sortKeys (fun _ h => by simp [sortKeys] at h) value

theorem readTuple_sortKeys {α β : Type} {read : Json → PyResult β} {dump : α → Json}
    (items : List α) :
    readTuple read (sortKeys (.arr (items.map dump))) =
      items.mapM fun item => read (sortKeys (dump item)) := by
  rw [sortKeys, sortItems_eq_map, readTuple, List.map_map, List.mapM_map]
  rfl

theorem mapM_ok {α : Type} (items : List α) :
    (items.mapM fun item => (Except.ok item : PyResult α)) = .ok items := by
  induction items with
  | nil => rfl
  | cons item items ih => rw [List.mapM_cons, ih]; rfl

@[simp] theorem readTuple_readStr (values : List String) :
    readTuple readStr (sortKeys (dumpStrings values)) = .ok values := by
  rw [dumpStrings, readTuple_sortKeys]
  exact mapM_ok values

@[simp] theorem readEnum_nodeKind (kind : GraphNodeKind) :
    readEnum GraphNodeKind.all GraphNodeKind.value (sortKeys (.str kind.value)) = .ok kind := by
  cases kind <;> rfl

@[simp] theorem readEnum_edgeKind (kind : EdgeKind) :
    readEnum EdgeKind.all EdgeKind.value (sortKeys (.str kind.value)) = .ok kind := by
  cases kind <;> rfl

@[simp] theorem readLanguage_sortKeys (language : ProgrammingLanguage) :
    readLanguage (sortKeys (.str language.value)) = .ok language := by
  cases language <;> rfl

@[simp] theorem readOptional_readLanguage (language : Option ProgrammingLanguage) :
    readOptional readLanguage
      (sortKeys (dumpOptional (fun language => .str language.value) language)) = .ok language :=
  readOptional_sortKeys readLanguage_sortKeys (fun _ h => by simp [sortKeys] at h) language

/-! ## Members of a sorted object -/

section Members

variable {α : Type} {members : List (String × Json)} {name : String}

theorem requiredField_sorted (read : Json → PyResult α) {value : Json}
    (hnames : (members.map Prod.fst).Nodup) (hmember : member? members name = some value) :
    requiredField (sortedBy Prod.fst (sortMembers members)) name read =
      read (sortKeys value) := by
  rw [requiredField, member?_sortKeys hnames, hmember]
  rfl

theorem defaultField_sorted (read : Json → PyResult α) (default : α) {value : Json}
    (hnames : (members.map Prod.fst).Nodup) (hmember : member? members name = some value) :
    defaultField (sortedBy Prod.fst (sortMembers members)) name default read =
      read (sortKeys value) := by
  rw [defaultField, member?_sortKeys hnames, hmember]
  rfl

theorem forbidExtra_sorted {fields : List String}
    (hfields : ∀ field ∈ members.map Prod.fst, field ∈ fields) :
    forbidExtra fields (sortedBy Prod.fst (sortMembers members)) = .ok () := by
  rw [forbidExtra, if_pos]
  rw [List.all_eq_true]
  intro member hmember
  rw [mem_sortedBy] at hmember
  have hname := List.mem_map_of_mem (f := Prod.fst) hmember
  rw [map_fst_sortMembers] at hname
  simpa using hfields member.1 hname

end Members

/-! ## Provenance entries -/

def ProvenanceEntry.reread (entry : ProvenanceEntry) : PyResult ProvenanceEntry :=
  ProvenanceEntry.create entry.confidenceMode entry.sourceKind entry.sourceTool
    entry.evidenceSummary entry.evidencePaths

theorem readProvenanceEntry_dump (entry : ProvenanceEntry) :
    readProvenanceEntry (sortKeys entry.dump) = entry.reread := by
  obtain ⟨confidenceMode, sourceKind, sourceTool, evidenceSummary, evidencePaths⟩ := entry
  rw [ProvenanceEntry.dump, sortKeys, readProvenanceEntry]
  rw [requiredField_sorted _ (by simp) rfl, requiredField_sorted _ (by simp) rfl,
    defaultField_sorted _ _ (by simp) rfl, requiredField_sorted _ (by simp) rfl,
    defaultField_sorted _ _ (by simp) rfl, forbidExtra_sorted (by simp)]
  have hmode : readEnum [.authoritative, .derived, .heuristic] ConfidenceMode.value
      (sortKeys (.str confidenceMode.value)) = .ok confidenceMode := by
    cases confidenceMode <;> rfl
  have hkind : readEnum [.manifest, .document, .syntactic, .lsp, .testTool, .qualityTool,
      .ownership, .dependencyGraph, .heuristic] SourceKind.value
      (sortKeys (.str sourceKind.value)) = .ok sourceKind := by
    cases sourceKind <;> rfl
  simp only [hmode, hkind, readOptional_readStr, readStr_sortKeys, readTuple_readStr, ok_bind]
  rfl

/-! ## Distinct member names -/

theorem distinctNames_dumpOptional {α : Type} {dump : α → Json} (value : Option α)
    (hdump : ∀ value, DistinctNames (dump value)) : DistinctNames (dumpOptional dump value) := by
  cases value with
  | none => exact .null
  | some value => exact hdump value

theorem distinctNames_dumpStrings (values : List String) : DistinctNames (dumpStrings values) := by
  refine .arr fun item hitem => ?_
  obtain ⟨value, -, rfl⟩ := List.mem_map.mp hitem
  exact .str value

theorem distinctNames_optionalStr (value : Option String) :
    DistinctNames (dumpOptional .str value) :=
  distinctNames_dumpOptional value .str

theorem distinctNames_optionalInt (value : Option ℤ) :
    DistinctNames (dumpOptional .int value) :=
  distinctNames_dumpOptional value .int

theorem distinctNames_entry (entry : ProvenanceEntry) : DistinctNames entry.dump := by
  refine .obj (by simp) ?_
  simp only [List.forall_mem_cons, List.not_mem_nil, false_implies, implies_true, and_true]
  exact ⟨.str _, .str _, distinctNames_optionalStr _, .str _, distinctNames_dumpStrings _⟩

theorem map_fst_members (node : GraphNode) :
    node.members.map Prod.fst =
      ["id", "kind", "name", "evidence_ids", "provenance"] ++ node.kind.fields := by
  obtain ⟨id, name, evidenceIds, provenance, body⟩ := node
  cases body <;> rfl

theorem nodup_members (node : GraphNode) : (node.members.map Prod.fst).Nodup := by
  rw [map_fst_members]
  cases node.kind <;> decide

theorem distinctNames_node (node : GraphNode) : DistinctNames (.obj node.members) := by
  refine .obj (nodup_members node) ?_
  obtain ⟨id, name, evidenceIds, provenance, body⟩ := node
  have hentries : DistinctNames (.arr (provenance.map ProvenanceEntry.dump)) := by
    refine .arr fun item hitem => ?_
    obtain ⟨entry, -, rfl⟩ := List.mem_map.mp hitem
    exact distinctNames_entry entry
  have hlanguage (language : Option ProgrammingLanguage) :
      DistinctNames (dumpOptional (fun language => .str language.value) language) :=
    distinctNames_dumpOptional language fun _ => .str _
  cases body <;>
    simp [GraphNode.members, NodeBody.members, hentries, hlanguage, DistinctNames.str,
      distinctNames_dumpStrings, distinctNames_optionalStr, distinctNames_optionalInt]

/-! ## Nodes -/

def GraphNode.reread (node : GraphNode) : PyResult GraphNode := do
  let provenance ← node.provenance.mapM ProvenanceEntry.reread
  GraphNode.validate { node with provenance := provenance }

theorem readBody_sorted (node : GraphNode) :
    readBody (sortedBy Prod.fst (sortMembers node.members)) node.kind = .ok node.body := by
  have hnames := nodup_members node
  obtain ⟨id, name, evidenceIds, provenance, body⟩ := node
  cases body with
  | repository rootPath =>
      simp only [GraphNode.kind, NodeBody.kind, readBody]
      rw [requiredField_sorted _ hnames rfl]
      rfl
  | buildSystem system configurationName toolVersion structuralFingerprint =>
      have hsystem : readEnum [.cmake, .cargo, .go, .npm, .pip, .bazel, .other]
          BuildSystemKind.value (sortKeys (.str system.value)) = .ok system := by
        cases system <;> rfl
      simp only [GraphNode.kind, NodeBody.kind, readBody]
      rw [requiredField_sorted _ hnames rfl, requiredField_sorted _ hnames rfl,
        defaultField_sorted _ _ hnames rfl, defaultField_sorted _ _ hnames rfl]
      simp only [hsystem, readStr_sortKeys, readOptional_readStr, ok_bind]
      rfl
  | component componentKind language sourceRoots artifactPaths =>
      have hkind : readEnum [.library, .binary, .service, .package, .other]
          ComponentKind.value (sortKeys (.str componentKind.value)) = .ok componentKind := by
        cases componentKind <;> rfl
      simp only [GraphNode.kind, NodeBody.kind, readBody]
      rw [requiredField_sorted _ hnames rfl, requiredField_sorted _ hnames rfl,
        defaultField_sorted _ _ hnames rfl, defaultField_sorted _ _ hnames rfl]
      simp only [hkind, readLanguage_sortKeys, readTuple_readStr, ok_bind]
      rfl
  | aggregator => rfl
  | runner argv cwd =>
      simp only [GraphNode.kind, NodeBody.kind, readBody]
      rw [defaultField_sorted _ _ hnames rfl, defaultField_sorted _ _ hnames rfl]
      simp only [readTuple_readStr, readOptional_readStr, ok_bind]
      rfl
  | testDefinition framework testFiles =>
      have hframework : readEnum [.goTest, .pytest, .unittest, .gtest, .junit, .other]
          TestFramework.value (sortKeys (.str framework.value)) = .ok framework := by
        cases framework <;> rfl
      simp only [GraphNode.kind, NodeBody.kind, readBody]
      rw [requiredField_sorted _ hnames rfl, defaultField_sorted _ _ hnames rfl]
      simp only [hframework, readTuple_readStr, ok_bind]
      rfl
  | packageManager manager lockfilePath =>
      simp only [GraphNode.kind, NodeBody.kind, readBody]
      rw [requiredField_sorted _ hnames rfl, defaultField_sorted _ _ hnames rfl]
      simp only [readStr_sortKeys, readOptional_readStr, ok_bind]
      rfl
  | externalPackage managerId versionSpec =>
      simp only [GraphNode.kind, NodeBody.kind, readBody]
      rw [defaultField_sorted _ _ hnames rfl, defaultField_sorted _ _ hnames rfl]
      simp only [readOptional_readStr, ok_bind]
      rfl
  | file repositoryRelPath language ownerId =>
      simp only [GraphNode.kind, NodeBody.kind, readBody]
      rw [requiredField_sorted _ hnames rfl, defaultField_sorted _ _ hnames rfl,
        requiredField_sorted _ hnames rfl]
      simp only [readStr_sortKeys, readOptional_readLanguage, ok_bind]
      rfl
  | entity repositoryRelPath entityKind lineStart lineEnd columnStart columnEnd signature =>
      simp only [GraphNode.kind, NodeBody.kind, readBody]
      rw [requiredField_sorted _ hnames rfl, requiredField_sorted _ hnames rfl,
        defaultField_sorted _ _ hnames rfl, defaultField_sorted _ _ hnames rfl,
        defaultField_sorted _ _ hnames rfl, defaultField_sorted _ _ hnames rfl,
        defaultField_sorted _ _ hnames rfl]
      simp only [readStr_sortKeys, readOptional_readInt, readOptional_readStr, ok_bind]
      rfl

theorem readNodeOfKind_sorted (node : GraphNode) :
    readNodeOfKind node.kind (sortedBy Prod.fst (sortMembers node.members)) = node.reread := by
  have hnames := nodup_members node
  have hprovenance : readTuple readProvenanceEntry
      (sortKeys (.arr (node.provenance.map ProvenanceEntry.dump))) =
        node.provenance.mapM ProvenanceEntry.reread := by
    rw [readTuple_sortKeys]
    simp only [readProvenanceEntry_dump]
  rw [readNodeOfKind]
  rw [requiredField_sorted _ hnames rfl, requiredField_sorted _ hnames rfl,
    defaultField_sorted _ _ hnames rfl, defaultField_sorted _ _ hnames rfl, hprovenance,
    readBody_sorted, forbidExtra_sorted (by rw [map_fst_members]; exact fun _ h => h)]
  simp only [readStr_sortKeys, readTuple_readStr, ok_bind]
  rfl

theorem nodeOfPayload_nodePayloadJson (node : GraphNode) :
    nodeOfPayload (nodePayloadJson node) = liftPy node.reread := by
  have hloads : loads (nodePayloadJson node) = some (sortKeys (.obj node.members)) :=
    loads_dumps (distinctNames_node node)
  have hkind : member? node.members "kind" = some (.str node.kind.value) := rfl
  have hread : readEnum GraphNodeKind.all GraphNodeKind.value (.str node.kind.value) =
      .ok node.kind := readEnum_nodeKind node.kind
  simp only [nodeOfPayload, loadsPayload, hloads, ok_bind, sortKeys, parseNode,
    member?_sortKeys (nodup_members node), hkind, Option.map_some, hread]
  rw [← readNodeOfKind_sorted node]
  rfl

/-! ## Edges and evidence -/

theorem edgeOfPayload_edgePayloadJson (edge : Edge) :
    edgeOfPayload (edgePayloadJson edge) = .ok edge := by
  have hnames : (edge.members.map Prod.fst).Nodup := by simp [Edge.members]
  have hdistinct : DistinctNames (.obj edge.members) := by
    refine .obj hnames ?_
    simp [Edge.members, DistinctNames.str, distinctNames_dumpStrings]
  have hloads : loads (edgePayloadJson edge) = some (sortKeys (.obj edge.members)) :=
    loads_dumps hdistinct
  have hread : readEdge (.obj (sortedBy Prod.fst (sortMembers edge.members))) = .ok edge := by
    rw [readEdge]
    rw [requiredField_sorted _ hnames rfl, requiredField_sorted _ hnames rfl,
      requiredField_sorted _ hnames rfl, defaultField_sorted _ _ hnames rfl,
      forbidExtra_sorted (by simp [Edge.members])]
    simp only [readEnum_edgeKind, readStr_sortKeys, readTuple_readStr, ok_bind]
    rfl
  simp only [edgeOfPayload, loadsPayload, hloads, ok_bind, sortKeys, hread]
  rfl

theorem evidenceOfPayload_evidencePayloadJson (evidence : Evidence) :
    evidenceOfPayload (evidencePayloadJson evidence) = liftPy evidence.validate := by
  have hnames : (evidence.members.map Prod.fst).Nodup := by simp [Evidence.members]
  have hdistinct : DistinctNames (.obj evidence.members) := by
    refine .obj hnames ?_
    simp [Evidence.members, DistinctNames.str, distinctNames_optionalStr,
      distinctNames_optionalInt]
  have hloads : loads (evidencePayloadJson evidence) = some (sortKeys (.obj evidence.members)) :=
    loads_dumps hdistinct
  have hread : readEvidence (.obj (sortedBy Prod.fst (sortMembers evidence.members))) =
      evidence.validate := by
    rw [readEvidence]
    rw [requiredField_sorted _ hnames rfl, defaultField_sorted _ _ hnames rfl,
      defaultField_sorted _ _ hnames rfl, defaultField_sorted _ _ hnames rfl,
      defaultField_sorted _ _ hnames rfl, defaultField_sorted _ _ hnames rfl,
      defaultField_sorted _ _ hnames rfl, forbidExtra_sorted (by simp [Evidence.members])]
    simp only [readStr_sortKeys, readOptional_readInt, readOptional_readStr, ok_bind]
  simp only [evidenceOfPayload, loadsPayload, hloads, ok_bind, sortKeys, hread]

/-! ## What is read back unchanged -/

theorem ProvenanceEntry.Accepted.reread_iff {entry : ProvenanceEntry}
    (haccepted : entry.Accepted) :
    entry.reread = .ok entry ↔ ∀ path ∈ entry.evidencePaths, strip path = path := by
  obtain ⟨evidenceSummary, evidencePaths, hok⟩ := haccepted
  obtain ⟨htool, hsummary, stored, hstored, hentry⟩ := create_eq_ok.mp hok
  obtain ⟨paths, hpaths, hresult, hnodup, -⟩ := validateEvidencePaths_eq_ok.mp hstored
  rw [List.nil_append] at hresult
  subst hresult
  have hstripped : entry.evidenceSummary = strip evidenceSummary := by rw [hentry]
  have hkept : entry.evidencePaths = stored := by rw [hentry]
  have hblank : isBlank entry.evidenceSummary = false := by
    rw [hstripped]
    by_contra h
    rw [Bool.not_eq_false, ← strip_eq_empty_iff, strip_strip, strip_eq_empty_iff] at h
    rw [h] at hsummary
    exact absurd hsummary (by decide)
  have hagain : strip entry.evidenceSummary = entry.evidenceSummary := by
    rw [hstripped, strip_strip]
  have hfixed : validateEvidencePaths [] stored = .ok stored ↔
      ∀ path ∈ stored, strip path = path := by
    have hsteps : stored.mapM evidencePath = .ok stored ↔
        ∀ path ∈ stored, strip path = path := by
      rw [mapM_eq_ok_self_iff]
      constructor
      · intro hall path hpath
        obtain ⟨item, -, hitem⟩ := exists_input_of_mem hpaths hpath
        exact (evidencePath_stored_iff hitem).mp (hall path hpath)
      · intro hall path hpath
        obtain ⟨item, -, hitem⟩ := exists_input_of_mem hpaths hpath
        exact (evidencePath_stored_iff hitem).mpr (hall path hpath)
    rw [← hsteps, validateEvidencePaths_eq_ok]
    constructor
    · rintro ⟨again, hall, hsame, -⟩
      rw [List.nil_append] at hsame
      rwa [← hsame] at hall
    · intro hall
      exact ⟨stored, hall, rfl, hnodup, by simp⟩
  rw [hkept, ← hfixed, ProvenanceEntry.reread, create_eq_ok, hkept]
  constructor
  · rintro ⟨-, -, again, hvalid, hsame⟩
    have hpathsEq : stored = again := by rw [← hkept, hsame]
    rwa [← hpathsEq] at hvalid
  · intro hvalid
    refine ⟨by rw [hentry]; exact htool, hblank, stored, hvalid, ?_⟩
    rw [hagain, ← hkept]

theorem GraphNode.Accepted.reread_iff {node : GraphNode} (haccepted : node.Accepted) :
    node.reread = .ok node ↔
      ∀ entry ∈ node.provenance, ∀ path ∈ entry.evidencePaths, strip path = path := by
  have hentries : (∀ entry ∈ node.provenance, entry.reread = .ok entry) ↔
      ∀ entry ∈ node.provenance, ∀ path ∈ entry.evidencePaths, strip path = path := by
    constructor
    · intro hall entry hentry
      exact (haccepted.entries entry hentry).reread_iff.mp (hall entry hentry)
    · intro hall entry hentry
      exact (haccepted.entries entry hentry).reread_iff.mpr (hall entry hentry)
  rw [← hentries, ← mapM_eq_ok_self_iff, GraphNode.reread, bind_eq_ok]
  constructor
  · rintro ⟨provenance, hread, hvalid⟩
    have hsame := congrArg GraphNode.provenance (eq_of_validated hvalid)
    rw [hsame]
    rwa [hsame] at hread
  · intro hread
    exact ⟨node.provenance, hread, haccepted.checks⟩

/-! ## Through the store -/

theorem edgesQuery_eq_ok (store : GraphStore) (column : Edge → String) (value : String)
    (kinds : Option (List EdgeKind)) {limit : ℤ} (hlimit : 0 < limit) :
    store.edgesQuery column value kinds limit =
      .ok (((sortedBy (fun row => GraphStore.edgeOrder row.edge)
        (store.current.edges.rows.filter fun row =>
          column row.edge = value && GraphStore.selectsKind kinds row.edge.kind)).take
            limit.toNat).map EdgeRow.edge) := by
  have hread (rows : List EdgeRow) :
      (rows.mapM fun row => edgeOfPayload row.payloadJson) = .ok (rows.map EdgeRow.edge) := by
    induction rows with
    | nil => rfl
    | cons row rows ih =>
        have hrow : edgeOfPayload row.payloadJson = .ok row.edge :=
          edgeOfPayload_edgePayloadJson row.edge
        rw [List.mapM_cons, hrow, ih]
        rfl
  rw [GraphStore.edgesQuery, if_neg (by omega)]
  exact hread _

/-- What a graph store keeps. -/
inductive GraphObject where
  | node (node : GraphNode)
  | edge (edge : Edge)
  | evidence (evidence : Evidence)
  deriving DecidableEq, Repr

namespace GraphObject

/-- The object came out of its validators. -/
def Accepted : GraphObject → Prop
  | .node stored => stored.Accepted
  | .edge _ => True
  | .evidence stored => stored.Accepted

def upsert (store : GraphStore) (scope : String) : GraphObject → GraphStore
  | .node stored => store.upsertNode stored scope
  | .edge stored => store.upsertEdge stored scope
  | .evidence stored => store.upsertEvidence stored scope

def readBack (store : GraphStore) : GraphObject → GraphResult GraphObject
  | .node stored => do
      let found ← store.getNode stored.id
      pure (.node found)
  | .edge stored => do
      let edges ← store.getEdgesFrom stored.src none (store.current.edges.rows.length + 1)
      match edges.find? fun other => edgeKey other = edgeKey stored with
      | some found => pure (.edge found)
      | none => .error (.notFoundError "edge not found" "Check edge key before lookup.")
  | .evidence stored => do
      let found ← store.getEvidence stored.id
      pure (.evidence found)

/-- No white space surrounds the evidence paths of the object's provenance. -/
def PathsStripped : GraphObject → Prop
  | .node stored => ∀ entry ∈ stored.provenance, ∀ path ∈ entry.evidencePaths, strip path = path
  | .edge _ => True
  | .evidence _ => True

end GraphObject

theorem getNode_upsertNode (store : GraphStore) (node : GraphNode) (scope : String) :
    (store.upsertNode node scope).getNode node.id = liftPy node.reread := by
  have hlookup : (store.upsertNode node scope).current.nodes.lookup node.id =
      some ⟨node, scope⟩ :=
    KeyedTable.lookup_eq_some_iff.mpr ⟨by simp [GraphStore.upsertNode], rfl⟩
  simp only [GraphStore.getNode, hlookup]
  exact nodeOfPayload_nodePayloadJson node

theorem getEvidence_upsertEvidence (store : GraphStore) (evidence : Evidence) (scope : String) :
    (store.upsertEvidence evidence scope).getEvidence evidence.id =
      liftPy evidence.validate := by
  have hlookup : (store.upsertEvidence evidence scope).current.evidence.lookup evidence.id =
      some ⟨evidence, scope⟩ :=
    KeyedTable.lookup_eq_some_iff.mpr ⟨by simp [GraphStore.upsertEvidence], rfl⟩
  simp only [GraphStore.getEvidence, hlookup]
  exact evidenceOfPayload_evidencePayloadJson evidence

theorem readBack_upsertEdge (store : GraphStore) (edge : Edge) (scope : String) :
    (GraphObject.edge edge).readBack (store.upsertEdge edge scope) = .ok (.edge edge) := by
  generalize hafter : store.upsertEdge edge scope = after
  have hrow : (⟨edge, scope⟩ : EdgeRow) ∈ after.current.edges := by
    rw [← hafter]
    simp [GraphStore.upsertEdge]
  have hlimit : 0 < (after.current.edges.rows.length : ℤ) + 1 := by omega
  simp only [GraphObject.readBack, GraphStore.getEdgesFrom, edgesQuery_eq_ok _ _ _ _ hlimit,
    ok_bind]
  generalize hselected : sortedBy (fun row => GraphStore.edgeOrder row.edge)
    (after.current.edges.rows.filter fun row =>
      row.edge.src = edge.src && GraphStore.selectsKind none row.edge.kind) = selected
  have hlength : selected.length ≤ after.current.edges.rows.length := by
    rw [← hselected, (sortedBy_perm _ _).length_eq]
    exact List.length_filter_le _ _
  have hmem : (⟨edge, scope⟩ : EdgeRow) ∈ selected := by
    rw [← hselected, mem_sortedBy, List.mem_filter]
    exact ⟨hrow, by simp [GraphStore.selectsKind]⟩
  rw [List.take_of_length_le (by omega)]
  have hfind : (selected.map EdgeRow.edge).find? (fun other => edgeKey other = edgeKey edge) =
      some edge := by
    have hsome : ((selected.map EdgeRow.edge).find? fun other =>
        edgeKey other = edgeKey edge).isSome = true := by
      rw [List.find?_isSome]
      exact ⟨edge, List.mem_map_of_mem (f := EdgeRow.edge) hmem, by simp⟩
    obtain ⟨found, hfound⟩ := Option.isSome_iff_exists.mp hsome
    have hkey : edgeKey found = edgeKey edge := by simpa using List.find?_some hfound
    obtain ⟨row, hselectedRow, rfl⟩ := List.mem_map.mp (List.mem_of_find?_eq_some hfound)
    rw [← hselected, mem_sortedBy, List.mem_filter] at hselectedRow
    have hsame : row = ⟨edge, scope⟩ := KeyedTable.eq_of_mem hselectedRow.1 hrow hkey
    rw [hfound, hsame]
  rw [hfind]
  rfl

theorem liftPy_eq_ok {α : Type} {result : PyResult α} {value : α} :
    liftPy result = .ok value ↔ result = .ok value := by
  cases result <;> simp [liftPy]

/-- An accepted object is read back equal to what was written exactly when no
white space surrounds its evidence paths. -/
theorem readBack_upsert_iff (store : GraphStore) (scope : String) {object : GraphObject}
    (haccepted : object.Accepted) :
    object.readBack (object.upsert store scope) = .ok object ↔ object.PathsStripped := by
  cases object with
  | node node =>
      have hnode : node.Accepted := haccepted
      rw [GraphObject.PathsStripped, ← hnode.reread_iff]
      simp only [GraphObject.readBack, GraphObject.upsert, getNode_upsertNode, bind_eq_ok,
        pure_eq_ok, liftPy_eq_ok, GraphObject.node.injEq, exists_eq_right]
  | edge edge => simp [GraphObject.upsert, GraphObject.PathsStripped, readBack_upsertEdge]
  | evidence evidence =>
      have hevidence : evidence.validate = .ok evidence := haccepted
      simp [GraphObject.readBack, GraphObject.upsert, getEvidence_upsertEvidence, hevidence,
        liftPy, GraphObject.PathsStripped]

/-! ## A path with a blank behind its prefix -/

def StoreRoundTrips : Prop :=
  ∀ (store : GraphStore) (scope : String) (object : GraphObject), object.Accepted →
    object.readBack (object.upsert store scope) = .ok object

/-- What the validators make of the evidence path `./ pyproject.toml`. -/
def blankPathEntry : ProvenanceEntry :=
  ⟨.authoritative, .manifest, none, "derived from a manifest", [" pyproject.toml"]⟩

def componentWith (entry : ProvenanceEntry) : GraphObject :=
  .node ⟨"component:a", "a", [], [entry], .component .library .python [] []⟩

theorem blankPath_accepted : (componentWith blankPathEntry).Accepted where
  entries := by
    intro entry hentry
    rw [List.mem_singleton] at hentry
    subst hentry
    exact ⟨"derived from a manifest", ["./ pyproject.toml"], by decide⟩
  checks := by decide

/-- A component with a blank evidence path is accepted and not read back. -/
theorem store_not_roundTripping : ¬ StoreRoundTrips := by
  intro hround
  have hread := hround GraphStore.empty "provider:python:default" _ blankPath_accepted
  rw [componentWith, GraphObject.readBack, GraphObject.upsert, getNode_upsertNode] at hread
  revert hread
  decide

theorem cleanPath_accepted :
    (componentWith { blankPathEntry with evidencePaths := ["pyproject.toml"] }).Accepted where
  entries := by
    intro entry hentry
    rw [List.mem_singleton] at hentry
    subst hentry
    exact ⟨"derived from a manifest", ["./pyproject.toml"], by decide⟩
  checks := by decide

theorem readBack_upsert_cleanPath :
    let object := componentWith { blankPathEntry with evidencePaths := ["pyproject.toml"] }
    object.readBack (object.upsert GraphStore.empty "provider:python:default") = .ok object :=
  (readBack_upsert_iff _ _ cleanPath_accepted).mpr (by
    intro entry hentry
    rw [List.mem_singleton] at hentry
    subst hentry
    decide)

end SuitCode
