import SuitCode.Library.LikePatterns
import SuitCode.SubgraphExactness

/-!
# Lookups of nodes by name

A lookup by the start of a name hands the name to `LIKE`, where a percent sign and an underscore
are wildcards.  A lookup of components fetches the first nodes of a name by their ids, and takes
the components among them.
-/

namespace SuitCode

open BreadthFirst ExceptList KeyedList LikePatterns

/-! ## The lookups -/

namespace GraphStore

/-- `SELECT payload_json FROM nodes WHERE name = ?`, or `name LIKE ?`, `ORDER BY id LIMIT ?`. -/
def findNodesByName (store : GraphStore) (name : String) (exact : Bool) (limit : ℤ) :
    GraphResult (List GraphNode) :=
  if limit ≤ 0 then
    .ok []
  else
    let rows := store.current.nodes.rows.filter fun row =>
      if exact then decide (row.node.name = name)
      else likeMatches (name ++ "%").toList row.node.name.toList
    ((sortedBy NodeRow.id rows).take limit.toNat).mapM fun row => nodeOfPayload row.payloadJson

def componentRows (store : GraphStore) (name : String) : List NodeRow :=
  store.current.nodes.rows.filter fun row =>
    row.node.name = name && row.kind = .component

def namedBefore (store : GraphStore) (name : String) (row : NodeRow) : ℕ :=
  store.current.nodes.rows.countP fun other => other.node.name = name && other.id < row.id

end GraphStore

def componentQuery (maxNodes : ℤ) : SubgraphQuery :=
  ⟨0, none, some [.component], maxNodes, max maxNodes 1, "both"⟩

def queryComponentByName (store : GraphStore) (name : String) (maxNodes : ℤ) :
    GraphResult Subgraph := do
  let nodes ← store.findNodesByName name true maxNodes
  querySubgraph store ((nodes.filter fun node => node.kind = .component).map GraphNode.id) 0 none
    (some [.component]) maxNodes (max maxNodes 1)

/-! ## What they promise, and when they keep it -/

namespace GraphStore

/-- With a large enough limit the lookup returns exactly the nodes whose name begins so. -/
def FindsByStart (store : GraphStore) (name : String) : Prop :=
  ∃ bound : ℤ, ∀ limit, bound ≤ limit →
    ∃ nodes, store.findNodesByName name false limit = .ok nodes ∧
      ∀ node, node ∈ nodes ↔ ∃ row ∈ store.current.nodes,
        Begins name.toList row.node.name.toList ∧ store.getNode row.id = .ok node

/-- The pattern matches only names which begin so, and the nodes can be read back. -/
def MatchesOnlyStarts (store : GraphStore) (name : String) : Prop :=
  ∀ row ∈ store.current.nodes,
    likeMatches (name ++ "%").toList row.node.name.toList = true →
      Begins name.toList row.node.name.toList ∧ ∃ node, store.getNode row.id = .ok node

/-- Every component of the name is returned where they are not more than the limit. -/
def FindsComponents (store : GraphStore) (name : String) (maxNodes : ℤ) : Prop :=
  0 < maxNodes → ((store.componentRows name).length : ℤ) ≤ maxNodes →
    ∃ subgraph, queryComponentByName store name maxNodes = .ok subgraph ∧
      ∀ row ∈ store.componentRows name, row.id ∈ subgraph.nodes.map Prod.fst

/-- The first nodes of the name can be read back, and the components of the name are among
them and have their evidence. -/
structure KeepsComponentsFirst (store : GraphStore) (name : String) (maxNodes : ℤ) : Prop where
  readable : ∀ row ∈ store.current.nodes, row.node.name = name →
    (store.namedBefore name row : ℤ) < maxNodes → ∃ node, store.getNode row.id = .ok node
  first : ∀ row ∈ store.componentRows name, (store.namedBefore name row : ℤ) < maxNodes
  evidence : ∀ row ∈ store.componentRows name, ∀ evidenceId ∈ row.node.evidenceIds,
    ∃ found, store.getEvidence evidenceId = .ok found

end GraphStore

variable {node : GraphNode} {row : NodeRow} {nodes : List GraphNode}

/-! ## Rows and what is read of them -/

theorem GraphNode.reread_same {result : GraphNode} (hread : node.reread = .ok result) :
    result.id = node.id ∧ result.kind = node.kind ∧ result.evidenceIds = node.evidenceIds := by
  unfold GraphNode.reread at hread
  obtain ⟨provenance, -, hvalid⟩ := bind_eq_ok.mp hread
  rw [eq_of_validated hvalid]
  exact ⟨rfl, rfl, rfl⟩

namespace GraphStore

section Rows

variable {store : GraphStore}

theorem getNode_of_row (hrow : row ∈ store.current.nodes) :
    store.getNode row.id = nodeOfPayload row.payloadJson := by
  unfold getNode
  rw [KeyedTable.lookup_eq_some_iff.mpr ⟨hrow, rfl⟩]

theorem read_same (hrow : row ∈ store.current.nodes) (hread : store.getNode row.id = .ok node) :
    node.id = row.id ∧ node.kind = row.kind ∧ node.evidenceIds = row.node.evidenceIds := by
  rw [getNode_of_row hrow] at hread
  have hpayload : nodeOfPayload row.payloadJson = liftPy row.node.reread :=
    nodeOfPayload_nodePayloadJson row.node
  rw [hpayload, liftPy_eq_ok] at hread
  exact GraphNode.reread_same hread

theorem mem_componentRows {name : String} :
    row ∈ store.componentRows name ↔
      row ∈ store.current.nodes ∧ row.node.name = name ∧ row.kind = .component := by
  simp [componentRows, KeyedTable.mem_rows]

theorem findNodesByName_of_pos {name : String} {exact : Bool} {limit : ℤ} (hlimit : 0 < limit) :
    store.findNodesByName name exact limit =
      ((sortedBy NodeRow.id (store.current.nodes.rows.filter fun row =>
        if exact then decide (row.node.name = name)
        else likeMatches (name ++ "%").toList row.node.name.toList)).take limit.toNat).mapM
          fun row => nodeOfPayload row.payloadJson := by
  unfold findNodesByName
  rw [if_neg (by omega)]

end Rows

/-! ## Lookups by the start of a name -/

section Starts

variable {store : GraphStore} {name : String}

theorem pattern_toList (name : String) : (name ++ "%").toList = name.toList ++ ['%'] := by
  rw [String.toList_append]
  rfl

theorem findNodesByName_unlimited {limit : ℤ}
    (hlimit : (store.current.nodes.rows.length : ℤ) + 1 ≤ limit) :
    store.findNodesByName name false limit =
      (sortedBy NodeRow.id (store.current.nodes.rows.filter fun row =>
        likeMatches (name ++ "%").toList row.node.name.toList)).mapM
          fun row => nodeOfPayload row.payloadJson := by
  rw [findNodesByName_of_pos (by omega)]
  simp only [Bool.false_eq_true, if_false]
  rw [List.take_of_length_le]
  rw [(sortedBy_perm _ _).length_eq]
  have hfilter := List.length_filter_le
    (fun row : NodeRow => likeMatches (name ++ "%").toList row.node.name.toList)
    store.current.nodes.rows
  omega

theorem mem_matched :
    row ∈ sortedBy NodeRow.id (store.current.nodes.rows.filter fun row =>
        likeMatches (name ++ "%").toList row.node.name.toList) ↔
      row ∈ store.current.nodes ∧
        likeMatches (name ++ "%").toList row.node.name.toList = true := by
  rw [mem_sortedBy, List.mem_filter, KeyedTable.mem_rows]

theorem findsByStart_iff : store.FindsByStart name ↔ store.MatchesOnlyStarts name := by
  constructor
  · intro hfinds row hrow hmatches
    obtain ⟨bound, hfinds⟩ := hfinds
    obtain ⟨nodes, hnodes, hexactly⟩ :=
      hfinds (max bound (store.current.nodes.rows.length + 1)) (le_max_left _ _)
    rw [findNodesByName_unlimited (le_max_right _ _)] at hnodes
    obtain ⟨node, hnode, hread⟩ := exists_output_of_mem hnodes (mem_matched.mpr ⟨hrow, hmatches⟩)
    rw [← getNode_of_row hrow] at hread
    obtain ⟨other, hother, hbegins, hreadOther⟩ := (hexactly node).mp hnode
    -- both rows are read as the same node, so that they are one row
    have hid : other.id = row.id :=
      (read_same hother hreadOther).1.symm.trans (read_same hrow hread).1
    rw [KeyedTable.eq_of_mem hother hrow hid] at hbegins
    exact ⟨hbegins, node, hread⟩
  · intro honly
    use store.current.nodes.rows.length + 1
    intro limit hlimit
    rw [findNodesByName_unlimited hlimit]
    have hreads : ∀ row ∈ sortedBy NodeRow.id (store.current.nodes.rows.filter fun row =>
        likeMatches (name ++ "%").toList row.node.name.toList),
          ∃ node, nodeOfPayload row.payloadJson = .ok node := by
      intro row hrow
      rw [mem_matched] at hrow
      rw [← getNode_of_row hrow.1]
      exact (honly row hrow.1 hrow.2).2
    obtain ⟨nodes, hnodes⟩ := exists_mapM_iff.mpr hreads
    use nodes
    constructor
    · exact hnodes
    intro node
    constructor
    · intro hnode
      obtain ⟨row, hrow, hread⟩ := exists_input_of_mem hnodes hnode
      rw [mem_matched] at hrow
      use row
      exact ⟨hrow.1, (honly row hrow.1 hrow.2).1, (getNode_of_row hrow.1).trans hread⟩
    · intro hbegins
      obtain ⟨row, hrow, hbegins, hread⟩ := hbegins
      have hmatches := likeMatches_of_begins hbegins
      rw [← pattern_toList] at hmatches
      obtain ⟨other, hother, hreadOther⟩ :=
        exists_output_of_mem hnodes (mem_matched.mpr ⟨hrow, hmatches⟩)
      rw [← getNode_of_row hrow, hread] at hreadOther
      rw [Except.ok.inj hreadOther]
      exact hother

end Starts

end GraphStore

/-! ## Lookups of components -/

namespace SubgraphQuery

section DepthZero

variable {store : GraphStore} {query : SubgraphQuery} {seedIds : List String}

theorem crossedEdges_of_depth_zero (hdepth : query.depth = 0) :
    query.crossedEdges store seedIds = ∅ := by
  rw [Set.eq_empty_iff_forall_notMem]
  intro edge hedge
  obtain ⟨-, distance, hlt, -⟩ := mem_crossedEdges.mp hedge
  rw [hdepth] at hlt
  exact absurd hlt (Nat.not_lt_zero distance)

theorem mem_reachedNodes_of_depth_zero (hdepth : query.depth = 0) {nodeId : String} :
    nodeId ∈ query.reachedNodes store seedIds ↔
      nodeId ∈ seedIds ∧ (query.accept store nodeId).isSome = true := by
  have hreached : nodeId ∈ query.reachedNodes store seedIds ↔
      (query.network store).Within seedIds 0 nodeId := by
    simp [reachedNodes, hdepth]
  rw [hreached]
  constructor
  · intro hwithin
    cases hwithin with
    | seed hseed haccept => exact ⟨hseed, haccept⟩
  · intro hseed
    exact .seed hseed.1 hseed.2

theorem withinLimits_of_depth_zero (hdepth : query.depth = 0)
    (hnodes : (seedIds.length : ℤ) ≤ query.maxNodes) (hedges : 0 ≤ query.maxEdges) :
    query.WithinLimits store seedIds := by
  classical
  constructor
  · have hsubset : query.reachedNodes store seedIds ⊆ (seedIds.toFinset : Set String) := by
      intro nodeId hreached
      rw [Finset.mem_coe, List.mem_toFinset]
      exact ((mem_reachedNodes_of_depth_zero hdepth).mp hreached).1
    have hcard := Set.ncard_le_ncard hsubset (Finset.finite_toSet _)
    have hlength := List.toFinset_card_le seedIds
    rw [Set.ncard_coe_finset] at hcard
    omega
  · rw [crossedEdges_of_depth_zero hdepth, Set.ncard_empty]
    exact hedges

variable (store) in
theorem querySubgraphBfs_of_depth_zero (hvalid : query.Valid) (hdepth : query.depth = 0)
    (hnodes : (seedIds.length : ℤ) ≤ query.maxNodes) :
    (∃ subgraph, querySubgraphBfs store seedIds query = .ok subgraph ∧
        query.Answered store seedIds ∧
        ∀ nodeId, nodeId ∈ subgraph.nodes.map Prod.fst ↔
          nodeId ∈ seedIds ∧ (query.accept store nodeId).isSome = true) ∨
      (¬ query.Answered store seedIds ∧
        ∃ error, querySubgraphBfs store seedIds query = .error error) := by
  have hlimits : query.WithinLimits store seedIds :=
    withinLimits_of_depth_zero hdepth hnodes hvalid.maxEdges.le
  by_cases hanswered : query.Answered store seedIds
  · left
    have hends : ∀ edge ∈ query.crossedEdges store seedIds,
        (query.accept store edge.src).isSome = true ∧
          (query.accept store edge.dst).isSome = true := by
      intro edge hedge
      rw [crossedEdges_of_depth_zero hdepth] at hedge
      cases hedge
    obtain ⟨subgraph, hrun, hreached, -⟩ := returns_of_ends hvalid hlimits hanswered hends
    use subgraph
    constructor
    · exact hrun
    constructor
    · exact hanswered
    intro nodeId
    rw [hreached, mem_reachedNodes_of_depth_zero hdepth]
  · right
    constructor
    · exact hanswered
    obtain ⟨-, hok, -⟩ | ⟨hlost, -⟩ | ⟨-, error, hrun, -⟩ :=
      querySubgraphBfs_cases store seedIds hvalid
    · exact absurd hok hanswered
    · exact absurd hlimits hlost
    · exact ⟨error, hrun⟩

end DepthZero

end SubgraphQuery

namespace GraphStore

section Components

variable {store : GraphStore} {name : String} {maxNodes : ℤ}

def fetchedRows (store : GraphStore) (name : String) (maxNodes : ℤ) : List NodeRow :=
  (sortedBy NodeRow.id (store.current.nodes.rows.filter fun row => row.node.name = name)).take
    maxNodes.toNat

theorem findNodesByName_exact (hpositive : 0 < maxNodes) :
    store.findNodesByName name true maxNodes =
      (store.fetchedRows name maxNodes).mapM fun row => nodeOfPayload row.payloadJson := by
  rw [findNodesByName_of_pos hpositive]
  simp only [if_true, fetchedRows]

theorem mem_fetchedRows (hpositive : 0 < maxNodes) :
    row ∈ store.fetchedRows name maxNodes ↔
      row ∈ store.current.nodes ∧ row.node.name = name ∧
        (store.namedBefore name row : ℤ) < maxNodes := by
  have hkeys : ((store.current.nodes.rows.filter fun row =>
      row.node.name = name).map NodeRow.id).Nodup :=
    store.current.nodes.distinct.sublist (List.filter_sublist.map _)
  have hcount : ∀ row : NodeRow, ((store.current.nodes.rows.filter fun row =>
      row.node.name = name).countP fun other => other.id < row.id) =
        store.namedBefore name row := by
    intro row
    rw [List.countP_filter, namedBefore]
    congr 1
    funext other
    exact Bool.and_comm _ _
  have hmem : row ∈ (store.current.nodes.rows.filter fun row => row.node.name = name) ↔
      row ∈ store.current.nodes ∧ row.node.name = name := by
    rw [List.mem_filter, KeyedTable.mem_rows, decide_eq_true_eq]
  unfold fetchedRows
  constructor
  · intro hrow
    have hnamed := mem_sortedBy.mp (List.mem_of_mem_take hrow)
    rw [mem_take_sortedBy_iff hkeys hnamed, hcount] at hrow
    have hparts := hmem.mp hnamed
    exact ⟨hparts.1, hparts.2, by omega⟩
  · intro hrow
    have hnamed := hmem.mpr ⟨hrow.1, hrow.2.1⟩
    rw [mem_take_sortedBy_iff hkeys hnamed, hcount]
    omega

theorem mem_seedIds {nodeId : String} (hpositive : 0 < maxNodes)
    (hnodes : store.findNodesByName name true maxNodes = .ok nodes) :
    nodeId ∈ (nodes.filter fun node => node.kind = .component).map GraphNode.id ↔
      ∃ row ∈ store.componentRows name, row.id = nodeId ∧
        (store.namedBefore name row : ℤ) < maxNodes := by
  rw [findNodesByName_exact hpositive] at hnodes
  constructor
  · intro hseed
    obtain ⟨node, hnode, hid⟩ := List.mem_map.mp hseed
    have hparts := List.mem_filter.mp hnode
    obtain ⟨row, hrow, hread⟩ := exists_input_of_mem hnodes hparts.1
    obtain ⟨hstored, hname, hfirst⟩ := (mem_fetchedRows hpositive).mp hrow
    rw [← getNode_of_row hstored] at hread
    have hsame := read_same hstored hread
    use row
    constructor
    · have hkind : node.kind = .component := of_decide_eq_true hparts.2
      exact mem_componentRows.mpr ⟨hstored, hname, hsame.2.1.symm.trans hkind⟩
    · exact ⟨hsame.1.symm.trans hid, hfirst⟩
  · intro hrow
    obtain ⟨row, hcomponent, hid, hfirst⟩ := hrow
    obtain ⟨hstored, hname, hkind⟩ := mem_componentRows.mp hcomponent
    obtain ⟨node, hnode, hread⟩ :=
      exists_output_of_mem hnodes ((mem_fetchedRows hpositive).mpr ⟨hstored, hname, hfirst⟩)
    rw [← getNode_of_row hstored] at hread
    have hsame := read_same hstored hread
    rw [List.mem_map]
    use node
    constructor
    · rw [List.mem_filter]
      exact ⟨hnode, decide_eq_true (hsame.2.1.trans hkind)⟩
    · exact hsame.1.trans hid

theorem seedIds_length (hpositive : 0 < maxNodes)
    (hnodes : store.findNodesByName name true maxNodes = .ok nodes) :
    ((((nodes.filter fun node => node.kind = .component).map GraphNode.id).length : ℕ) : ℤ) ≤
      maxNodes := by
  rw [findNodesByName_exact hpositive] at hnodes
  have hlength := (mapM_eq_ok_iff.mp hnodes).length_eq
  have htake : (store.fetchedRows name maxNodes).length ≤ maxNodes.toNat := List.length_take_le _ _
  have hfilter := List.length_filter_le (fun node : GraphNode => decide (node.kind = .component))
    nodes
  rw [List.length_map]
  omega

theorem componentQuery_valid (hpositive : 0 < maxNodes) : (componentQuery maxNodes).Valid where
  depth := le_refl 0
  maxNodes := hpositive
  maxEdges := lt_of_lt_of_le Int.one_pos (le_max_right maxNodes 1)

theorem queryComponentByName_of_found
    (hnodes : store.findNodesByName name true maxNodes = .ok nodes) :
    queryComponentByName store name maxNodes =
      querySubgraphBfs store ((nodes.filter fun node => node.kind = .component).map GraphNode.id)
        (componentQuery maxNodes) := by
  unfold queryComponentByName
  rw [hnodes]
  rfl

theorem accept_component (hrow : row ∈ store.current.nodes) (hkind : row.kind = .component)
    (hread : store.getNode row.id = .ok node) :
    ((componentQuery maxNodes).accept store row.id).isSome = true := by
  have hsame := read_same hrow hread
  have haccept : (componentQuery maxNodes).accept store row.id = some node := by
    apply SubgraphQuery.accept_eq_some.mpr
    constructor
    · exact hread
    · rw [hsame.2.1, hkind]
      rfl
  rw [haccept]
  rfl

theorem findsComponents_iff :
    store.FindsComponents name maxNodes ↔
      (0 < maxNodes → ((store.componentRows name).length : ℤ) ≤ maxNodes →
        store.KeepsComponentsFirst name maxNodes) := by
  unfold FindsComponents
  apply forall_congr'
  intro hpositive
  apply forall_congr'
  intro _
  have hvalid := componentQuery_valid hpositive
  constructor
  · intro hfinds
    obtain ⟨subgraph, hquery, hreturned⟩ := hfinds
    obtain ⟨nodes, hnodes, -⟩ := bind_eq_ok.mp hquery
    have hreadable : ∀ row ∈ store.current.nodes, row.node.name = name →
        (store.namedBefore name row : ℤ) < maxNodes → ∃ node, store.getNode row.id = .ok node := by
      intro row hrow hname hfirst
      rw [findNodesByName_exact hpositive] at hnodes
      obtain ⟨node, -, hread⟩ :=
        exists_output_of_mem hnodes ((mem_fetchedRows hpositive).mpr ⟨hrow, hname, hfirst⟩)
      exact ⟨node, (getNode_of_row hrow).trans hread⟩
    rw [queryComponentByName_of_found hnodes] at hquery
    cases SubgraphQuery.querySubgraphBfs_of_depth_zero store hvalid rfl
        (seedIds_length hpositive hnodes) with
    | inr hlost =>
        obtain ⟨-, error, herror⟩ := hlost
        rw [hquery] at herror
        cases herror
    | inl hrun =>
        obtain ⟨exact, hexact, hanswered, hmembers⟩ := hrun
        rw [hquery] at hexact
        rw [← Except.ok.inj hexact] at hmembers
        have hseeded : ∀ row ∈ store.componentRows name,
            (store.namedBefore name row : ℤ) < maxNodes := by
          intro row hrow
          have hseed := ((hmembers row.id).mp (hreturned row hrow)).1
          obtain ⟨other, hother, hid, hfirst⟩ := (mem_seedIds hpositive hnodes).mp hseed
          rw [KeyedTable.eq_of_mem (mem_componentRows.mp hother).1 (mem_componentRows.mp hrow).1
            hid] at hfirst
          exact hfirst
        constructor
        · exact hreadable
        · exact hseeded
        · intro row hrow evidenceId hevidence
          obtain ⟨hstored, hname, -⟩ := mem_componentRows.mp hrow
          obtain ⟨node, hread⟩ := hreadable row hstored hname (hseeded row hrow)
          have hreached := (SubgraphQuery.mem_reachedNodes_of_depth_zero rfl).mpr
            ((hmembers row.id).mp (hreturned row hrow))
          apply hanswered.nodeEvidence row.id hreached node hread evidenceId
          rw [(read_same hstored hread).2.2]
          exact hevidence
  · intro hkeeps
    have hreads : ∀ row ∈ store.fetchedRows name maxNodes,
        ∃ node, nodeOfPayload row.payloadJson = .ok node := by
      intro row hrow
      obtain ⟨hstored, hname, hfirst⟩ := (mem_fetchedRows hpositive).mp hrow
      rw [← getNode_of_row hstored]
      exact hkeeps.readable row hstored hname hfirst
    obtain ⟨nodes, hnodes⟩ := exists_mapM_iff.mpr hreads
    rw [← findNodesByName_exact hpositive] at hnodes
    rw [queryComponentByName_of_found hnodes]
    have hanswered : (componentQuery maxNodes).Answered store
        ((nodes.filter fun node => node.kind = .component).map GraphNode.id) := by
      have hnone : ∀ edge, edge ∉ (componentQuery maxNodes).crossedEdges store
          ((nodes.filter fun node => node.kind = .component).map GraphNode.id) := by
        intro edge hedge
        rw [SubgraphQuery.crossedEdges_of_depth_zero rfl] at hedge
        cases hedge
      constructor
      · intro seedId hseed
        obtain ⟨row, hrow, hid, hfirst⟩ := (mem_seedIds hpositive hnodes).mp hseed
        obtain ⟨hstored, hname, -⟩ := mem_componentRows.mp hrow
        rw [← hid]
        exact hkeeps.readable row hstored hname hfirst
      · intro edge hedge
        exact absurd hedge (hnone edge)
      · intro nodeId hreached node hread evidenceId hevidence
        have hseed := ((SubgraphQuery.mem_reachedNodes_of_depth_zero rfl).mp hreached).1
        obtain ⟨row, hrow, hid, -⟩ := (mem_seedIds hpositive hnodes).mp hseed
        rw [← hid] at hread
        rw [(read_same (mem_componentRows.mp hrow).1 hread).2.2] at hevidence
        exact hkeeps.evidence row hrow evidenceId hevidence
      · intro edge hedge
        exact absurd hedge (hnone edge)
    cases SubgraphQuery.querySubgraphBfs_of_depth_zero store hvalid rfl
        (seedIds_length hpositive hnodes) with
    | inr hlost => exact absurd hanswered hlost.1
    | inl hrun =>
        obtain ⟨subgraph, hrun, -, hmembers⟩ := hrun
        use subgraph
        constructor
        · exact hrun
        intro row hrow
        obtain ⟨hstored, hname, hkind⟩ := mem_componentRows.mp hrow
        have hfirst := hkeeps.first row hrow
        obtain ⟨node, hread⟩ := hkeeps.readable row hstored hname hfirst
        rw [hmembers, mem_seedIds hpositive hnodes]
        exact ⟨⟨row, hrow, rfl, hfirst⟩, accept_component hstored hkind hread⟩

end Components

/-! ## When the lookups keep their promises -/

/-- Both lookups keep their promises for a store and a name exactly when the pattern matches no
other names, and when the components of the name, where they are not more than the limit, are
among the first nodes of the name. -/
theorem nameLookups_iff (store : GraphStore) (name : String) (maxNodes : ℤ) :
    (store.FindsByStart name ∧ store.FindsComponents name maxNodes) ↔
      (store.MatchesOnlyStarts name ∧
        (0 < maxNodes → ((store.componentRows name).length : ℤ) ≤ maxNodes →
          store.KeepsComponentsFirst name maxNodes)) := by
  rw [findsByStart_iff, findsComponents_iff]

def sharedNameStore : GraphStore :=
  [GraphOperation.addOrUpdateNode ⟨"a:file", "app", [], [sampleManifestEntry],
      .file "app" none "component:app"⟩ firstScope,
    .addOrUpdateNode (sampleNode "component:app" "app") firstScope].foldl GraphOperation.after
      GraphStore.empty

/-- A wildcard in a name, and nodes of other kinds before the components, fail the lookups. -/
theorem lookups_not_always :
    (¬ ∀ (store : GraphStore) (name : String), store.FindsByStart name) ∧
      ¬ ∀ (store : GraphStore) (name : String) (maxNodes : ℤ),
        store.FindsComponents name maxNodes := by
  have hrows : sharedNameStore.current.nodes.rows =
      [⟨⟨"a:file", "app", [], [sampleManifestEntry], .file "app" none "component:app"⟩,
          firstScope⟩,
        ⟨sampleNode "component:app" "app", firstScope⟩] := by
    decide
  have hcomponent : ⟨sampleNode "component:app" "app", firstScope⟩ ∈
      sharedNameStore.componentRows "app" := by
    unfold componentRows
    rw [hrows]
    decide
  constructor
  · intro halways
    have honly := findsByStart_iff.mp (halways sharedNameStore "a_")
    have hbegins := (honly ⟨sampleNode "component:app" "app", firstScope⟩
      (mem_componentRows.mp hcomponent).1 (by decide)).1
    exact absurd hbegins (by decide)
  · intro halways
    have hfinds := halways sharedNameStore "app" 1
    rw [findsComponents_iff] at hfinds
    have hlength : ((sharedNameStore.componentRows "app").length : ℤ) ≤ 1 := by
      unfold componentRows
      rw [hrows]
      decide
    have hfirst := (hfinds (by omega) hlength).first _ hcomponent
    unfold namedBefore at hfirst
    rw [hrows] at hfirst
    revert hfirst
    decide

end GraphStore

end SuitCode
