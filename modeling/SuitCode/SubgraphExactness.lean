import SuitCode.SubgraphResults
import SuitCode.GraphTransactions

/-!
# Exactness and integrity of subgraph queries

Over an intact store which can be read back, a query without a filter on node
kinds returns exactly the nodes within its depth and the edges in front of it,
or this result exceeds a limit.  Whatever the store and the filter, a query
which completes is refused by the subgraph exactly when an end of a recorded
edge is absent or filtered out.
-/

namespace SuitCode

open BreadthFirst ExceptList KeyedList

variable {edge : Edge} {nodeId : String}

namespace SubgraphQuery

section Ends

variable {store : GraphStore} {query : SubgraphQuery} {seedIds : List String}

/-! ## Both ends of a recorded edge -/

theorem mem_crossedEdges :
    edge ∈ query.crossedEdges store seedIds ↔
      ∃ nodeId distance, distance < query.depth.toNat ∧
        (query.network store).Within seedIds distance nodeId ∧
        edge ∈ query.incidentEdges store nodeId := Iff.rfl

theorem ends_reached_iff (hedge : edge ∈ query.crossedEdges store seedIds) :
    (edge.src ∈ query.reachedNodes store seedIds ∧
        edge.dst ∈ query.reachedNodes store seedIds) ↔
      (query.accept store edge.src).isSome = true ∧
        (query.accept store edge.dst).isSome = true := by
  constructor
  · intro hreached
    exact ⟨hreached.1.admitted, hreached.2.admitted⟩
  · intro haccepted
    obtain ⟨nodeId, distance, hlt, hwithin, hincident⟩ := mem_crossedEdges.mp hedge
    have hends := (mem_incidentEdges.mp hincident).2.imp And.right And.right
    have hnear : nodeId ∈ query.reachedNodes store seedIds := hwithin.mono (by omega)
    have hnext : (query.accept store (nextNodeId nodeId edge)).isSome = true :=
      ((ends_of_nextNodeId hends (p := fun id => (query.accept store id).isSome = true)).mpr
        ⟨hwithin.admitted, haccepted⟩).2
    have hfar : nextNodeId nodeId edge ∈ query.reachedNodes store seedIds := by
      have hstep : (query.network store).Within seedIds (distance + 1)
          (nextNodeId nodeId edge) := .step hwithin hincident hnext
      exact hstep.mono (by omega)
    exact ((ends_of_nextNodeId hends).mp ⟨hnear, hfar⟩).2

theorem endsVisited_iff {search : Traversal} (hexact : query.IsExact store seedIds search) :
    EndsVisited search ↔
      ∀ edge ∈ query.crossedEdges store seedIds,
        (query.accept store edge.src).isSome = true ∧
          (query.accept store edge.dst).isSome = true := by
  constructor
  · intro hends edge hedge
    have hboth := hends edge ((hexact.edges edge).mpr hedge)
    rw [hexact.nodes, hexact.nodes] at hboth
    exact (ends_reached_iff hedge).mp hboth
  · intro hends edge hedge
    have hcrossed := (hexact.edges edge).mp hedge
    rw [hexact.nodes, hexact.nodes]
    exact (ends_reached_iff hcrossed).mpr (hends edge hcrossed)

theorem returns_of_ends (hvalid : query.Valid) (hlimits : query.WithinLimits store seedIds)
    (hanswered : query.Answered store seedIds)
    (hends : ∀ edge ∈ query.crossedEdges store seedIds,
      (query.accept store edge.src).isSome = true ∧
        (query.accept store edge.dst).isSome = true) :
    ∃ subgraph, querySubgraphBfs store seedIds query = .ok subgraph ∧
      (∀ nodeId, nodeId ∈ subgraph.nodes.map Prod.fst ↔
        nodeId ∈ query.reachedNodes store seedIds) ∧
      ∀ edge, edge ∈ subgraph.edges ↔ edge ∈ query.crossedEdges store seedIds := by
  obtain ⟨-, -, search, evidence, hexact, hcollected, hrun⟩ | ⟨hlost, -⟩ | ⟨hlost, -⟩ :=
    querySubgraphBfs_cases store seedIds hvalid
  · refine ⟨sortedSubgraph search evidence, ?_, ?_, ?_⟩
    · rw [hrun]
      exact validateIntegrity_of_endsVisited hcollected ((endsVisited_iff hexact).mpr hends)
    · intro nodeId
      rw [mem_nodes_sortedSubgraph, hexact.nodes]
    · intro edge
      rw [mem_edges_sortedSubgraph, hexact.edges]
  · exact absurd hlimits hlost
  · exact absurd hanswered hlost

theorem refused_of_ends (hvalid : query.Valid) (hlimits : query.WithinLimits store seedIds)
    (hanswered : query.Answered store seedIds)
    (hends : ¬ ∀ edge ∈ query.crossedEdges store seedIds,
      (query.accept store edge.src).isSome = true ∧
        (query.accept store edge.dst).isSome = true) :
    ∃ error, querySubgraphBfs store seedIds query = .error error ∧
      error.isIntegrity = true := by
  obtain ⟨-, -, search, evidence, hexact, hcollected, hrun⟩ | ⟨hlost, -⟩ | ⟨hlost, -⟩ :=
    querySubgraphBfs_cases store seedIds hvalid
  · rw [hrun]
    apply validateIntegrity_of_not_endsVisited hcollected
    rwa [endsVisited_iff hexact]
  · exact absurd hlimits hlost
  · exact absurd hanswered hlost

theorem withinLimits_of_tables
    (hnodes : (store.current.nodes.rows.length : ℤ) ≤ query.maxNodes)
    (hedges : (store.current.edges.rows.length : ℤ) ≤ query.maxEdges) :
    query.WithinLimits store seedIds := by
  classical
  constructor
  · have hsubset : query.reachedNodes store seedIds ⊆
        ((store.current.nodes.rows.map NodeRow.id).toFinset : Set String) := by
      intro nodeId hreached
      rw [Finset.mem_coe, List.mem_toFinset]
      exact mem_rows_of_accept hreached.admitted
    have hcard := Set.ncard_le_ncard hsubset (Finset.finite_toSet _)
    have hlength := List.toFinset_card_le (store.current.nodes.rows.map NodeRow.id)
    rw [Set.ncard_coe_finset] at hcard
    rw [List.length_map] at hlength
    omega
  · have hsubset : query.crossedEdges store seedIds ⊆
        ((store.current.edges.rows.map EdgeRow.edge).toFinset : Set Edge) := by
      intro edge hcrossed
      obtain ⟨nodeId, distance, -, -, hincident⟩ := mem_crossedEdges.mp hcrossed
      obtain ⟨⟨row, hrow, heq⟩, -⟩ := (mem_incidentEdges.mp hincident).1
      rw [Finset.mem_coe, List.mem_toFinset, ← heq]
      exact List.mem_map_of_mem hrow
    have hcard := Set.ncard_le_ncard hsubset (Finset.finite_toSet _)
    have hlength := List.toFinset_card_le (store.current.edges.rows.map EdgeRow.edge)
    rw [Set.ncard_coe_finset] at hcard
    rw [List.length_map] at hlength
    omega

end Ends

end SubgraphQuery

/-! ## Exactness over an intact store -/

/-- Every piece of evidence which a node or an edge references is stored. -/
def Tables.EvidenceIntact (tables : Tables) : Prop :=
  (∀ row ∈ tables.nodes, ∀ evidenceId ∈ row.node.evidenceIds,
    tables.evidence.HasKey evidenceId) ∧
  ∀ row ∈ tables.edges, ∀ evidenceId ∈ row.edge.evidenceIds, tables.evidence.HasKey evidenceId

/-- Whatever is stored can be read back. -/
structure GraphStore.Readable (store : GraphStore) : Prop where
  nodes : ∀ nodeId, store.current.nodes.HasKey nodeId → ∃ node, store.getNode nodeId = .ok node
  evidence : ∀ evidenceId, store.current.evidence.HasKey evidenceId →
    ∃ found, store.getEvidence evidenceId = .ok found

namespace SubgraphQuery

section Steps

variable (store : GraphStore) (query : SubgraphQuery) (seedIds : List String)

def Follows (edge : Edge) (nodeId next : String) : Prop :=
  query.Selects store edge ∧
    (query.direction ∈ ["out", "both"] ∧ edge.src = nodeId ∧ edge.dst = next ∨
      query.direction ∈ ["in", "both"] ∧ edge.dst = nodeId ∧ edge.src = next)

/-- The node is at most so many steps from a seed. -/
inductive StepsFrom : ℕ → String → Prop where
  | seed {distance : ℕ} {nodeId : String} (hseed : nodeId ∈ seedIds) : StepsFrom distance nodeId
  | step {distance : ℕ} {nodeId next : String} {edge : Edge} (hnode : StepsFrom distance nodeId)
      (hedge : query.Follows store edge nodeId next) : StepsFrom (distance + 1) next

/-- The edge leads away from a node at a smaller distance than `depth`. -/
def EdgeWithin (edge : Edge) : Prop :=
  ∃ nodeId next distance, distance < query.depth.toNat ∧
    query.StepsFrom store seedIds distance nodeId ∧ query.Follows store edge nodeId next

end Steps

section Exact

variable {store : GraphStore} {query : SubgraphQuery} {seedIds : List String}

theorem follows_iff {next : String} :
    query.Follows store edge nodeId next ↔
      edge ∈ query.incidentEdges store nodeId ∧ nextNodeId nodeId edge = next := by
  rw [mem_incidentEdges, Follows, and_assoc]
  apply and_congr_right
  intro _
  unfold nextNodeId
  by_cases hsrc : edge.src = nodeId
  · rw [if_pos hsrc]
    constructor
    · intro hfollows
      cases hfollows with
      | inl hout => exact ⟨.inl ⟨hout.1, hsrc⟩, hout.2.2⟩
      | inr hin => exact ⟨.inr ⟨hin.1, hin.2.1⟩, hin.2.1.trans (hsrc.symm.trans hin.2.2)⟩
    · intro hincident
      cases hincident.1 with
      | inl hout => exact .inl ⟨hout.1, hsrc, hincident.2⟩
      | inr hin => exact .inr ⟨hin.1, hin.2, hsrc.trans (hin.2.symm.trans hincident.2)⟩
  · rw [if_neg hsrc]
    simp only [hsrc, false_and, and_false, false_or, and_assoc]

theorem hasKey_of_follows (hintact : store.current.Intact) {next : String}
    (hfollows : query.Follows store edge nodeId next) : store.current.nodes.HasKey next := by
  obtain ⟨⟨⟨row, hrow, heq⟩, -⟩, hends⟩ := hfollows
  have hboth := hintact row hrow
  rw [heq] at hboth
  cases hends with
  | inl hout => exact hout.2.2 ▸ hboth.2
  | inr hin => exact hin.2.2 ▸ hboth.1

theorem accept_of_hasKey (hreadable : store.Readable) (hkinds : query.nodeKinds = none)
    (hkey : store.current.nodes.HasKey nodeId) :
    ((query.network store).accept nodeId).isSome = true := by
  obtain ⟨node, hnode⟩ := hreadable.nodes nodeId hkey
  have haccept : (query.network store).accept nodeId = some node :=
    accept_eq_some.mpr ⟨hnode, by simp [selectsNodeKind, hkinds]⟩
  rw [haccept]
  rfl

theorem ends_accepted_of_intact (hintact : store.current.Intact) (hreadable : store.Readable)
    (hkinds : query.nodeKinds = none) (hedge : edge ∈ query.crossedEdges store seedIds) :
    (query.accept store edge.src).isSome = true ∧
      (query.accept store edge.dst).isSome = true := by
  obtain ⟨nodeId, distance, -, -, hincident⟩ := mem_crossedEdges.mp hedge
  obtain ⟨⟨row, hrow, heq⟩, -⟩ := (mem_incidentEdges.mp hincident).1
  have hboth := hintact row hrow
  rw [heq] at hboth
  exact ⟨accept_of_hasKey hreadable hkinds hboth.1, accept_of_hasKey hreadable hkinds hboth.2⟩

theorem within_iff_stepsFrom (hintact : store.current.Intact) (hreadable : store.Readable)
    (hseeds : ∀ seedId ∈ seedIds, store.current.nodes.HasKey seedId)
    (hkinds : query.nodeKinds = none) {distance : ℕ} :
    (query.network store).Within seedIds distance nodeId ↔
      query.StepsFrom store seedIds distance nodeId := by
  constructor
  · intro hwithin
    induction hwithin with
    | seed hseed _ => exact .seed hseed
    | step _ hedge _ ih => exact .step ih (follows_iff.mpr ⟨hedge, rfl⟩)
  · intro hsteps
    induction hsteps with
    | seed hseed => exact .seed hseed (accept_of_hasKey hreadable hkinds (hseeds _ hseed))
    | step _ hedge ih =>
        have haccept := accept_of_hasKey hreadable hkinds (hasKey_of_follows hintact hedge)
        obtain ⟨hincident, hnext⟩ := follows_iff.mp hedge
        subst hnext
        exact .step ih hincident haccept

theorem mem_crossedEdges_iff (hintact : store.current.Intact) (hreadable : store.Readable)
    (hseeds : ∀ seedId ∈ seedIds, store.current.nodes.HasKey seedId)
    (hkinds : query.nodeKinds = none) :
    edge ∈ query.crossedEdges store seedIds ↔ query.EdgeWithin store seedIds edge := by
  rw [mem_crossedEdges]
  constructor
  · intro hcrossed
    obtain ⟨nodeId, distance, hlt, hwithin, hincident⟩ := hcrossed
    exact ⟨nodeId, _, distance, hlt,
      (within_iff_stepsFrom hintact hreadable hseeds hkinds).mp hwithin,
      follows_iff.mpr ⟨hincident, rfl⟩⟩
  · intro hedge
    obtain ⟨nodeId, next, distance, hlt, hsteps, hfollows⟩ := hedge
    exact ⟨nodeId, distance, hlt,
      (within_iff_stepsFrom hintact hreadable hseeds hkinds).mpr hsteps,
      (follows_iff.mp hfollows).1⟩

theorem evidenceIds_of_getNode {node : GraphNode} (hget : store.getNode nodeId = .ok node) :
    ∃ row ∈ store.current.nodes, row.node.evidenceIds = node.evidenceIds := by
  rw [GraphStore.getNode_eq] at hget
  cases hlookup : store.current.nodes.lookup nodeId with
  | none =>
      simp only [hlookup] at hget
      cases hget
  | some row =>
      simp only [hlookup, liftPy_eq_ok, GraphNode.reread, bind_eq_ok] at hget
      obtain ⟨provenance, -, hvalid⟩ := hget
      refine ⟨row, (KeyedTable.lookup_eq_some_iff.mp hlookup).1, ?_⟩
      rw [eq_of_validated hvalid]

theorem answered_of_intact (query : SubgraphQuery) (hintact : store.current.Intact)
    (hevidence : store.current.EvidenceIntact) (hreadable : store.Readable)
    (hseeds : ∀ seedId ∈ seedIds, store.current.nodes.HasKey seedId) :
    query.Answered store seedIds where
  seeds := fun seedId hseed => hreadable.nodes seedId (hseeds seedId hseed)
  ends := by
    intro edge hedge
    obtain ⟨nodeId, distance, -, -, hincident⟩ := mem_crossedEdges.mp hedge
    obtain ⟨⟨row, hrow, heq⟩, -⟩ := (mem_incidentEdges.mp hincident).1
    have hboth := hintact row hrow
    rw [heq] at hboth
    obtain ⟨source, hsource⟩ := hreadable.nodes _ hboth.1
    obtain ⟨target, htarget⟩ := hreadable.nodes _ hboth.2
    exact ⟨.of_ok hsource, .of_ok htarget⟩
  nodeEvidence := by
    intro nodeId _ node hget evidenceId hid
    obtain ⟨row, hrow, heq⟩ := evidenceIds_of_getNode hget
    rw [← heq] at hid
    exact hreadable.evidence evidenceId (hevidence.1 row hrow evidenceId hid)
  edgeEvidence := by
    intro edge hedge evidenceId hid
    obtain ⟨nodeId, distance, -, -, hincident⟩ := mem_crossedEdges.mp hedge
    obtain ⟨⟨row, hrow, heq⟩, -⟩ := (mem_incidentEdges.mp hincident).1
    rw [← heq] at hid
    exact hreadable.evidence evidenceId (hevidence.2 row hrow evidenceId hid)

end Exact

end SubgraphQuery

/-- Over an intact store which can be read back, an unfiltered query whose row limit can be
bound returns exactly the nodes within its depth and the edges in front of it, or raises the
limit error because this exact result exceeds a limit. -/
theorem querySubgraphBfs_exact {store : GraphStore} {seedIds : List String}
    {query : SubgraphQuery} (hbindable : query.Bindable) (hintact : store.current.Intact)
    (hevidence : store.current.EvidenceIntact) (hreadable : store.Readable)
    (hseeds : ∀ seedId ∈ seedIds, store.current.nodes.HasKey seedId)
    (hkinds : query.nodeKinds = none) :
    (∃ error, querySubgraphBfs store seedIds query = .error error ∧
      error.isQueryLimit = true ∧
      (query.maxNodes <
          ({nodeId | query.StepsFrom store seedIds query.depth.toNat nodeId}.ncard : ℤ) ∨
        query.maxEdges < ({edge | query.EdgeWithin store seedIds edge}.ncard : ℤ))) ∨
    ∃ subgraph, querySubgraphBfs store seedIds query = .ok subgraph ∧
      (∀ nodeId, nodeId ∈ subgraph.nodes.map Prod.fst ↔
        query.StepsFrom store seedIds query.depth.toNat nodeId) ∧
      ∀ edge, edge ∈ subgraph.edges ↔ query.EdgeWithin store seedIds edge := by
  have hnodes : ∀ nodeId, nodeId ∈ query.reachedNodes store seedIds ↔
      query.StepsFrom store seedIds query.depth.toNat nodeId := fun nodeId =>
    SubgraphQuery.within_iff_stepsFrom hintact hreadable hseeds hkinds
  have hedges : ∀ edge, edge ∈ query.crossedEdges store seedIds ↔
      query.EdgeWithin store seedIds edge := fun edge =>
    SubgraphQuery.mem_crossedEdges_iff hintact hreadable hseeds hkinds
  have hanswered := SubgraphQuery.answered_of_intact query hintact hevidence hreadable hseeds
  obtain ⟨hlimits, -⟩ | ⟨hlimits, error, hrun, herror⟩ | ⟨hlost, -⟩ :=
    SubgraphQuery.querySubgraphBfs_cases store seedIds hbindable.toValid
  · right
    have hends : ∀ edge ∈ query.crossedEdges store seedIds,
        (query.accept store edge.src).isSome = true ∧
          (query.accept store edge.dst).isSome = true := fun edge hedge =>
      SubgraphQuery.ends_accepted_of_intact hintact hreadable hkinds hedge
    obtain ⟨subgraph, hrun, hreached, hcrossed⟩ :=
      SubgraphQuery.returns_of_ends hbindable.toValid hlimits hanswered hends
    refine ⟨subgraph, hrun, ?_, ?_⟩
    · intro nodeId
      rw [hreached, hnodes]
    · intro edge
      rw [hcrossed, hedges]
  · left
    refine ⟨error, hrun, herror, ?_⟩
    by_contra hsmall
    rw [not_or, not_lt, not_lt] at hsmall
    apply hlimits
    constructor
    · rw [Set.ext hnodes]
      exact hsmall.1
    · rw [Set.ext hedges]
      exact hsmall.2
  · exact absurd hanswered hlost

/-! ### An empty set of edge kinds, and a node which cannot be read -/

structure UnfilteredQuery (store : GraphStore) (seedIds : List String) (query : SubgraphQuery) :
    Prop where
  valid : query.Valid
  intact : store.current.Intact
  evidence : store.current.EvidenceIntact
  seeds : ∀ seedId ∈ seedIds, store.current.nodes.HasKey seedId
  kinds : query.nodeKinds = none

def QueriesReturnGivenKinds : Prop :=
  ∀ (store : GraphStore) (seedIds : List String) (query : SubgraphQuery),
    UnfilteredQuery store seedIds query → ∀ subgraph,
      querySubgraphBfs store seedIds query = .ok subgraph →
        ∀ kinds, query.edgeKinds = some kinds → ∀ edge ∈ subgraph.edges, edge.kind ∈ kinds

def QueriesOnlyExceedLimits : Prop :=
  ∀ (store : GraphStore) (seedIds : List String) (query : SubgraphQuery),
    UnfilteredQuery store seedIds query → ∀ error,
      querySubgraphBfs store seedIds query = .error error → error.isQueryLimit = true

def sampleFile (id ownerId : String) : GraphNode :=
  ⟨id, id, [], [sampleManifestEntry], .file id none ownerId⟩

def containsEdge : Edge := ⟨.contains, "component:a", "file:a.py", []⟩

def containingRun : List GraphOperation :=
  [.addOrUpdateNode (sampleNode "component:a" "a") firstScope,
    .addOrUpdateNode (sampleFile "file:a.py" "component:a") firstScope,
    .addOrUpdateEdge containsEdge firstScope]

def containingStore : GraphStore := containingRun.foldl GraphOperation.after GraphStore.empty

theorem nodes_containingStore : containingStore.current.nodes.rows =
    [⟨sampleNode "component:a" "a", firstScope⟩,
      ⟨sampleFile "file:a.py" "component:a", firstScope⟩] := by decide

theorem edges_containingStore :
    containingStore.current.edges.rows = [⟨containsEdge, firstScope⟩] := by decide

theorem getNode_component : containingStore.getNode "component:a" =
    .ok (sampleNode "component:a" "a") := by
  rw [GraphStore.getNode_eq]
  decide +kernel

theorem getNode_file : containingStore.getNode "file:a.py" =
    .ok (sampleFile "file:a.py" "component:a") := by
  rw [GraphStore.getNode_eq]
  decide +kernel

theorem intact_containingStore : containingStore.current.Intact := by decide

theorem evidenceIntact_containingStore : containingStore.current.EvidenceIntact := by
  constructor
  · intro row hrow
    rw [← KeyedTable.mem_rows, nodes_containingStore] at hrow
    simp only [List.mem_cons, List.not_mem_nil, or_false] at hrow
    cases hrow with
    | inl heq => simp [heq, sampleNode]
    | inr heq => simp [heq, sampleFile]
  · intro row hrow
    rw [← KeyedTable.mem_rows, edges_containingStore, List.mem_singleton] at hrow
    simp [hrow, containsEdge]

theorem readable_containingStore : containingStore.Readable where
  nodes := by
    intro nodeId hkey
    obtain ⟨row, hrow, heq⟩ := hkey
    rw [← KeyedTable.mem_rows, nodes_containingStore] at hrow
    simp only [List.mem_cons, List.not_mem_nil, or_false] at hrow
    cases hrow with
    | inl hrow =>
        subst hrow
        subst heq
        exact ⟨_, getNode_component⟩
    | inr hrow =>
        subst hrow
        subst heq
        exact ⟨_, getNode_file⟩
  evidence := by
    intro evidenceId hkey
    have hrows : containingStore.current.evidence.rows = [] := by decide
    obtain ⟨row, hrow, -⟩ := hkey
    rw [← KeyedTable.mem_rows, hrows] at hrow
    cases hrow

theorem hasKey_seed_containingStore :
    ∀ seedId ∈ ["component:a"], containingStore.current.nodes.HasKey seedId := by
  decide

def neighboursQuery (edgeKinds : Option (List EdgeKind))
    (nodeKinds : Option (List GraphNodeKind)) : SubgraphQuery :=
  ⟨1, edgeKinds, nodeKinds, 10, 10, "both"⟩

theorem neighboursQuery_valid (edgeKinds : Option (List EdgeKind))
    (nodeKinds : Option (List GraphNodeKind)) : (neighboursQuery edgeKinds nodeKinds).Valid := by
  constructor <;> simp [neighboursQuery]

theorem neighboursQuery_bindable (edgeKinds : Option (List EdgeKind))
    (nodeKinds : Option (List GraphNodeKind)) :
    (neighboursQuery edgeKinds nodeKinds).Bindable where
  toValid := neighboursQuery_valid edgeKinds nodeKinds
  maxEdges_lt := by simp [neighboursQuery]

theorem neighboursQuery_withinLimits (edgeKinds : Option (List EdgeKind))
    (nodeKinds : Option (List GraphNodeKind)) :
    (neighboursQuery edgeKinds nodeKinds).WithinLimits containingStore ["component:a"] := by
  apply SubgraphQuery.withinLimits_of_tables
  · rw [nodes_containingStore]
    simp [neighboursQuery]
  · rw [edges_containingStore]
    simp [neighboursQuery]

theorem containsEdge_crossed {edgeKinds : Option (List EdgeKind)}
    {nodeKinds : Option (List GraphNodeKind)}
    (hedge : GraphStore.selectsKind edgeKinds .contains = true)
    (hnode : selectsNodeKind nodeKinds .component = true) :
    containsEdge ∈
      (neighboursQuery edgeKinds nodeKinds).crossedEdges containingStore ["component:a"] := by
  have haccept : (neighboursQuery edgeKinds nodeKinds).accept containingStore "component:a" =
      some (sampleNode "component:a" "a") :=
    SubgraphQuery.accept_eq_some.mpr ⟨getNode_component, hnode⟩
  have hrow : (⟨containsEdge, firstScope⟩ : EdgeRow) ∈ containingStore.current.edges := by
    rw [← KeyedTable.mem_rows, edges_containingStore]
    exact List.mem_singleton_self _
  rw [SubgraphQuery.mem_crossedEdges]
  refine ⟨"component:a", 0, by simp [neighboursQuery], .seed (by simp) ?_, ?_⟩
  · rw [SubgraphQuery.network_accept, haccept]
    rfl
  · rw [SubgraphQuery.mem_incidentEdges]
    exact ⟨⟨⟨_, hrow, rfl⟩, hedge⟩, .inl ⟨by simp [neighboursQuery], rfl⟩⟩

/-- What the validators make of the evidence path `./ /`. -/
def unreadableEntry : ProvenanceEntry :=
  ⟨.authoritative, .manifest, none, "derived from a manifest", [" "]⟩

def unreadableNode : GraphNode :=
  ⟨"component:b", "b", [], [unreadableEntry], .component .library .python [] []⟩

def unreadableStore : GraphStore :=
  [GraphOperation.addOrUpdateNode unreadableNode firstScope].foldl GraphOperation.after
    GraphStore.empty

theorem unreadableQuery (edgeKinds : Option (List EdgeKind)) :
    UnfilteredQuery unreadableStore ["component:b"] (neighboursQuery edgeKinds none) where
  valid := neighboursQuery_valid _ _
  intact := by decide
  evidence := by
    have hnodes : unreadableStore.current.nodes.rows = [⟨unreadableNode, firstScope⟩] := by
      decide
    have hedges : unreadableStore.current.edges.rows = [] := by decide
    constructor
    · intro row hrow
      rw [← KeyedTable.mem_rows, hnodes, List.mem_singleton] at hrow
      simp [hrow, unreadableNode]
    · intro row hrow
      rw [← KeyedTable.mem_rows, hedges] at hrow
      cases hrow
  seeds := by decide
  kinds := rfl

theorem querySubgraphBfs_unreadableStore (edgeKinds : Option (List EdgeKind)) :
    querySubgraphBfs unreadableStore ["component:b"] (neighboursQuery edgeKinds none) =
      .error (.python (.valueError "evidence_paths must not contain empty values")) := by
  have hget : unreadableStore.getNode "component:b" =
      .error (.python (.valueError "evidence_paths must not contain empty values")) := by
    rw [GraphStore.getNode_eq]
    decide
  have hseed : SubgraphQuery.visitSeed unreadableStore (neighboursQuery edgeKinds none) []
      "component:b" =
        .error (.python (.valueError "evidence_paths must not contain empty values")) := by
    rw [SubgraphQuery.visitSeed, hget]
    rfl
  unfold querySubgraphBfs
  rw [if_neg (by simp [neighboursQuery]), if_neg (by simp [neighboursQuery])]
  have hsorted : sortedBy id ["component:b"] = ["component:b"] := rfl
  rw [hsorted, List.foldlM_cons, hseed]
  rfl

/-- An empty list of kinds filters nothing, and limits are not all that fails a query. -/
theorem queries_not_literal : ¬ QueriesReturnGivenKinds ∧ ¬ QueriesOnlyExceedLimits := by
  constructor
  · intro hgiven
    have hunfiltered : UnfilteredQuery containingStore ["component:a"]
        (neighboursQuery (some []) none) :=
      ⟨neighboursQuery_valid _ _, intact_containingStore, evidenceIntact_containingStore,
        hasKey_seed_containingStore, rfl⟩
    have hanswered := SubgraphQuery.answered_of_intact (neighboursQuery (some []) none)
      intact_containingStore evidenceIntact_containingStore readable_containingStore
      hasKey_seed_containingStore
    obtain ⟨subgraph, hrun, -, hedges⟩ := SubgraphQuery.returns_of_ends
      (neighboursQuery_valid _ _) (neighboursQuery_withinLimits _ _) hanswered fun _ hedge =>
        SubgraphQuery.ends_accepted_of_intact intact_containingStore readable_containingStore
          rfl hedge
    have hkind := hgiven _ _ _ hunfiltered subgraph hrun [] rfl containsEdge
      ((hedges _).mpr (containsEdge_crossed rfl rfl))
    cases hkind
  · intro honly
    have hlimit := honly _ _ _ (unreadableQuery none) _ (querySubgraphBfs_unreadableStore none)
    cases hlimit

theorem querySubgraphBfs_exact_containingStore :
    ∃ subgraph, querySubgraphBfs containingStore ["component:a"] (neighboursQuery none none) =
        .ok subgraph ∧
      ∀ nodeId, nodeId ∈ subgraph.nodes.map Prod.fst ↔
        (neighboursQuery none none).StepsFrom containingStore ["component:a"] 1 nodeId := by
  have hanswered := SubgraphQuery.answered_of_intact (neighboursQuery none none)
    intact_containingStore evidenceIntact_containingStore readable_containingStore
    hasKey_seed_containingStore
  obtain ⟨error, hrun, -⟩ | ⟨subgraph, hrun, hnodes, -⟩ :=
    querySubgraphBfs_exact (neighboursQuery_bindable none none) intact_containingStore
      evidenceIntact_containingStore readable_containingStore hasKey_seed_containingStore rfl
  · obtain ⟨subgraph, hok, -⟩ := SubgraphQuery.returns_of_ends
      (neighboursQuery_valid none none) (neighboursQuery_withinLimits _ _) hanswered fun _ hedge =>
        SubgraphQuery.ends_accepted_of_intact intact_containingStore readable_containingStore
          rfl hedge
    rw [hrun] at hok
    cases hok
  · exact ⟨subgraph, hrun, hnodes⟩

/-! ## Integrity -/

/-- A query whose row limit can be bound is never refused by the subgraph exactly when, where it completes, it
accepts both ends of every edge it records. -/
theorem querySubgraphBfs_integrity_iff (store : GraphStore) (seedIds : List String)
    {query : SubgraphQuery} (hbindable : query.Bindable) :
    (∀ error, querySubgraphBfs store seedIds query = .error error →
        error.isIntegrity = false) ↔
      (query.WithinLimits store seedIds → query.Answered store seedIds →
        ∀ edge ∈ query.crossedEdges store seedIds,
          (query.accept store edge.src).isSome = true ∧
            (query.accept store edge.dst).isSome = true) := by
  have hvalid := hbindable.toValid
  constructor
  · intro hnever hlimits hanswered
    by_contra hends
    obtain ⟨error, hfail, hintegrity⟩ :=
      SubgraphQuery.refused_of_ends hvalid hlimits hanswered hends
    rw [hnever error hfail] at hintegrity
    cases hintegrity
  · intro hends error hfail
    obtain ⟨hlimits, hanswered, -⟩ | ⟨-, other, hrun, hlimit⟩ | ⟨-, other, hrun, hother⟩ :=
      SubgraphQuery.querySubgraphBfs_cases store seedIds hvalid
    · obtain ⟨subgraph, hok, -⟩ := SubgraphQuery.returns_of_ends hvalid hlimits hanswered
        (hends hlimits hanswered)
      rw [hok] at hfail
      cases hfail
    · rw [hrun, Except.error.injEq] at hfail
      subst hfail
      cases other <;> first | rfl | cases hlimit
    · rw [hrun, Except.error.injEq] at hfail
      rw [← hfail]
      exact hother

/-! ### A filter on node kinds -/

/-- No query with valid arguments over a reachable store is refused by the subgraph. -/
def QueriesKeepIntegrity : Prop :=
  ∀ (operations : List GraphOperation) (seedIds : List String) (query : SubgraphQuery),
    query.Valid → ∀ error,
      querySubgraphBfs (operations.foldl GraphOperation.after GraphStore.empty) seedIds query =
        .error error → error.isIntegrity = false

/-- An intact store fails a query which leaves out the ends of its edges. -/
theorem queries_lose_integrity : ¬ QueriesKeepIntegrity := by
  intro hkeep
  have hanswered := SubgraphQuery.answered_of_intact (neighboursQuery none (some [.component]))
    intact_containingStore evidenceIntact_containingStore readable_containingStore
    hasKey_seed_containingStore
  have hends : ¬ ∀ edge ∈ (neighboursQuery none (some [.component])).crossedEdges
      containingStore ["component:a"],
        ((neighboursQuery none (some [.component])).accept containingStore
            edge.src).isSome = true ∧
          ((neighboursQuery none (some [.component])).accept containingStore
            edge.dst).isSome = true := by
    intro hall
    have hfile := (hall containsEdge (containsEdge_crossed rfl rfl)).2
    obtain ⟨node, hnode⟩ := Option.isSome_iff_exists.mp hfile
    obtain ⟨hget, hkind⟩ := SubgraphQuery.accept_eq_some.mp hnode
    rw [containsEdge, getNode_file, Except.ok.injEq] at hget
    rw [← hget] at hkind
    cases hkind
  obtain ⟨error, hrun, hintegrity⟩ := SubgraphQuery.refused_of_ends (neighboursQuery_valid _ _)
    (neighboursQuery_withinLimits _ _) hanswered hends
  have hnever := hkeep containingRun _ _ (neighboursQuery_valid _ _) error hrun
  rw [hnever] at hintegrity
  cases hintegrity

theorem querySubgraphBfs_integrity_unfiltered :
    (neighboursQuery none none).Bindable ∧
      ∀ error, querySubgraphBfs containingStore ["component:a"] (neighboursQuery none none) =
        .error error → error.isIntegrity = false :=
  ⟨neighboursQuery_bindable none none,
    (querySubgraphBfs_integrity_iff containingStore ["component:a"]
      (neighboursQuery_bindable none none)).mpr fun _ _ _ hedge =>
        SubgraphQuery.ends_accepted_of_intact intact_containingStore readable_containingStore rfl
          hedge⟩

end SuitCode
