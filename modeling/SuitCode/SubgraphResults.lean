import SuitCode.GraphTraversal
import SuitCode.GraphReferences

/-!
# What a subgraph query returns

A query which returns has visited the nodes within its depth and recorded the
edges at the smaller distances.  Where it raises, a limit is too small for this
exact result, a lookup has failed, or an end of a recorded edge is missing from
the visited nodes, which only the subgraph notices.
-/

namespace SuitCode

open BreadthFirst ExceptList KeyedList

variable {visited : List (Visit String GraphNode)}

/-! ## Seeds -/

namespace SubgraphQuery

section Seeds

variable {store : GraphStore} {query : SubgraphQuery}

structure Seeded (store : GraphStore) (query : SubgraphQuery) (seeds : List String)
    (visited : List (Visit String GraphNode)) : Prop where
  nodup : (visited.map Visit.id).Nodup
  distance : ∀ x ∈ visited, x.distance = 0
  accepted : ∀ x ∈ visited, (query.network store).accept x.id = some x.value
  ids : ∀ nodeId, nodeId ∈ visited.map Visit.id ↔
    nodeId ∈ seeds ∧ ((query.network store).accept nodeId).isSome = true

theorem seeded_nil (store : GraphStore) (query : SubgraphQuery) : Seeded store query [] [] := by
  constructor <;> simp

theorem Seeded.skip {seeds : List String} (hseeded : Seeded store query seeds visited)
    {seedId : String}
    (hskip : ((query.network store).accept seedId).isSome = true →
      seedId ∈ visited.map Visit.id) : Seeded store query (seeds ++ [seedId]) visited where
  nodup := hseeded.nodup
  distance := hseeded.distance
  accepted := hseeded.accepted
  ids := by
    intro nodeId
    rw [hseeded.ids, List.mem_append, List.mem_singleton]
    constructor
    · intro hmem
      exact ⟨.inl hmem.1, hmem.2⟩
    · intro hmem
      cases hmem.1 with
      | inl hseed => exact ⟨hseed, hmem.2⟩
      | inr heq =>
          subst heq
          exact (hseeded.ids nodeId).mp (hskip hmem.2)

theorem Seeded.visit {seeds : List String} (hseeded : Seeded store query seeds visited)
    {seedId : String} {node : GraphNode} (haccept : (query.network store).accept seedId = some node)
    (hfresh : seedId ∉ visited.map Visit.id) :
    Seeded store query (seeds ++ [seedId]) (visited ++ [⟨seedId, 0, node⟩]) where
  nodup := by
    rw [List.map_append, List.nodup_append]
    refine ⟨hseeded.nodup, by simp, ?_⟩
    intro nodeId hnodeId other hother heq
    rw [List.map_singleton, List.mem_singleton] at hother
    have hsame : nodeId = seedId := heq.trans hother
    exact hfresh (hsame ▸ hnodeId)
  distance := by
    intro x hx
    rw [List.mem_append, List.mem_singleton] at hx
    cases hx with
    | inl hx => exact hseeded.distance x hx
    | inr hx => rw [hx]
  accepted := by
    intro x hx
    rw [List.mem_append, List.mem_singleton] at hx
    cases hx with
    | inl hx => exact hseeded.accepted x hx
    | inr hx =>
        rw [hx]
        exact haccept
  ids := by
    intro nodeId
    rw [List.map_append, List.mem_append, hseeded.ids, List.map_singleton, List.mem_singleton,
      List.mem_append, List.mem_singleton]
    by_cases heq : nodeId = seedId
    · subst heq
      simp [haccept]
    · simp [heq]

theorem foldlM_visitSeed {before : List String} (seeds : List String)
    (hseeded : Seeded store query before visited) :
    (∃ after, seeds.foldlM (query.visitSeed store) visited = .ok after ∧
      (∀ seedId ∈ seeds, ∃ node, store.getNode seedId = .ok node) ∧
      Seeded store query (before ++ seeds) after) ∨
    ∃ error, seeds.foldlM (query.visitSeed store) visited = .error error ∧
      ∃ seedId ∈ seeds, store.getNode seedId = .error error := by
  induction seeds generalizing before visited with
  | nil =>
      left
      refine ⟨visited, rfl, by simp, ?_⟩
      rwa [List.append_nil]
  | cons seedId seeds ih =>
      rw [List.foldlM_cons, visitSeed]
      cases hget : store.getNode seedId with
      | error error =>
          right
          exact ⟨error, rfl, seedId, List.mem_cons_self, hget⟩
      | ok node =>
          rw [ok_bind]
          have hone : ∃ after, (if (selectsNodeKind query.nodeKinds node.kind &&
                decide (seedId ∉ visited.map Visit.id)) = true then
                pure (visited ++ [⟨seedId, 0, node⟩]) else pure visited :
                GraphResult (List (Visit String GraphNode))) = .ok after ∧
              Seeded store query (before ++ [seedId]) after := by
            by_cases hkind : selectsNodeKind query.nodeKinds node.kind = true
            · by_cases hfresh : seedId ∈ visited.map Visit.id
              · rw [if_neg (by simp [hfresh])]
                exact ⟨visited, rfl, hseeded.skip fun _ => hfresh⟩
              · rw [if_pos (by simp [hkind, hfresh])]
                exact ⟨_, rfl, hseeded.visit (accept_eq_some.mpr ⟨hget, hkind⟩) hfresh⟩
            · rw [if_neg (by simp [hkind])]
              refine ⟨visited, rfl, hseeded.skip fun haccept => ?_⟩
              obtain ⟨found, hfound⟩ := Option.isSome_iff_exists.mp haccept
              obtain ⟨hsame, hselected⟩ := accept_eq_some.mp hfound
              rw [hget, Except.ok.injEq] at hsame
              exact absurd (hsame ▸ hselected) hkind
          obtain ⟨visited', hvisit, hvisited'⟩ := hone
          rw [hvisit, ok_bind]
          have hrest := ih hvisited'
          rw [List.append_assoc, List.singleton_append] at hrest
          cases hrest with
          | inl hok =>
              obtain ⟨after, hafter, hread, hseeds⟩ := hok
              left
              refine ⟨after, hafter, ?_, hseeds⟩
              intro other hother
              cases List.mem_cons.mp hother with
              | inl heq => exact ⟨node, heq ▸ hget⟩
              | inr hother => exact hread other hother
          | inr herror =>
              obtain ⟨error, hfail, other, hother, hlost⟩ := herror
              right
              exact ⟨error, hfail, other, List.mem_cons_of_mem _ hother, hlost⟩

end Seeds

end SubgraphQuery

/-! ## Evidence -/

theorem foldlM_collectEvidence (store : GraphStore) (ids : List String)
    (evidence : List (String × Evidence)) :
    (∃ collected, ids.foldlM (collectEvidence store) evidence = .ok collected ∧
      (∀ evidenceId ∈ ids, evidenceId ∉ evidence.map Prod.fst →
        ∃ found, store.getEvidence evidenceId = .ok found) ∧
      ∀ evidenceId, evidenceId ∈ collected.map Prod.fst ↔
        evidenceId ∈ evidence.map Prod.fst ∨ evidenceId ∈ ids) ∨
    ∃ error, ids.foldlM (collectEvidence store) evidence = .error error ∧
      ∃ evidenceId ∈ ids, store.getEvidence evidenceId = .error error := by
  induction ids generalizing evidence with
  | nil => exact .inl ⟨evidence, rfl, by simp, by simp⟩
  | cons id ids ih =>
      rw [List.foldlM_cons, collectEvidence]
      by_cases hknown : id ∈ evidence.map Prod.fst
      · rw [if_pos hknown, ok_bind]
        cases ih evidence with
        | inl hok =>
            obtain ⟨collected, hcollected, hfound, hids⟩ := hok
            left
            refine ⟨collected, hcollected, ?_, ?_⟩
            · intro other hother habsent
              cases List.mem_cons.mp hother with
              | inl heq => exact absurd (heq ▸ hknown) habsent
              | inr hother => exact hfound other hother habsent
            · intro other
              rw [hids, List.mem_cons]
              by_cases heq : other = id
              · subst heq
                simp only [hknown, true_or]
              · simp only [heq, false_or]
        | inr herror =>
            obtain ⟨error, hfail, other, hother, hlost⟩ := herror
            exact .inr ⟨error, hfail, other, List.mem_cons_of_mem _ hother, hlost⟩
      · rw [if_neg hknown]
        cases hget : store.getEvidence id with
        | error error => exact .inr ⟨error, rfl, id, List.mem_cons_self, hget⟩
        | ok found =>
            rw [ok_bind, pure_bind]
            cases ih (evidence ++ [(id, found)]) with
            | inl hok =>
                obtain ⟨collected, hcollected, hfound, hids⟩ := hok
                left
                refine ⟨collected, hcollected, ?_, ?_⟩
                · intro other hother habsent
                  by_cases heq : other = id
                  · exact ⟨found, heq ▸ hget⟩
                  · apply hfound other ((List.mem_cons.mp hother).resolve_left heq)
                    rw [List.map_append, List.mem_append, List.map_singleton,
                      List.mem_singleton]
                    exact not_or.mpr ⟨habsent, heq⟩
                · intro other
                  rw [hids, List.map_append, List.mem_append, List.map_singleton,
                    List.mem_singleton, List.mem_cons, or_assoc]
            | inr herror =>
                obtain ⟨error, hfail, other, hother, hlost⟩ := herror
                exact .inr ⟨error, hfail, other, List.mem_cons_of_mem _ hother, hlost⟩

/-! ## Integrity -/

theorem Subgraph.missingEvidence_eq_nil {subgraph : Subgraph} {ids : List String}
    (hids : ∀ evidenceId ∈ ids, evidenceId ∈ subgraph.evidence.map Prod.fst) :
    subgraph.missingEvidence ids = [] := by
  rw [missingEvidence, sortedBy_eq_nil, List.filter_eq_nil_iff]
  intro evidenceId hmem
  simpa using hids evidenceId (mem_of_mem_dedupeBy hmem)

theorem Subgraph.checkEdge_eq {subgraph : Subgraph} {edge : Edge}
    (hids : ∀ evidenceId ∈ edge.evidenceIds, evidenceId ∈ subgraph.evidence.map Prod.fst) :
    subgraph.checkEdge edge =
      if edge.src ∉ subgraph.nodes.map Prod.fst ∨ edge.dst ∉ subgraph.nodes.map Prod.fst then
        .error (.integrityError ("edge " ++ edgeText edge ++ " references missing endpoint")
          "Ensure both src and dst nodes are included in Subgraph.nodes.")
      else .ok () := by
  unfold checkEdge
  rw [missingEvidence_eq_nil hids]

def EvidenceCollected (search : Traversal) (evidence : List (String × Evidence)) : Prop :=
  (∀ x ∈ search.visited, ∀ evidenceId ∈ x.value.evidenceIds,
    evidenceId ∈ evidence.map Prod.fst) ∧
  ∀ edge ∈ search.edges, ∀ evidenceId ∈ edge.evidenceIds, evidenceId ∈ evidence.map Prod.fst

def EndsVisited (search : Traversal) : Prop :=
  ∀ edge ∈ search.edges,
    edge.src ∈ search.visited.map Visit.id ∧ edge.dst ∈ search.visited.map Visit.id

section Integrity

variable {search : Traversal} {evidence : List (String × Evidence)}

theorem map_fst_sortedSubgraph :
    (sortedSubgraph search evidence).nodes.map Prod.fst =
      (sortedBy Visit.id search.visited).map Visit.id := by
  simp [sortedSubgraph, Function.comp_def]

theorem mem_evidence_sortedSubgraph {evidenceId : String} :
    evidenceId ∈ (sortedSubgraph search evidence).evidence.map Prod.fst ↔
      evidenceId ∈ evidence.map Prod.fst := by
  simp [sortedSubgraph]

theorem mem_nodes_sortedSubgraph {nodeId : String} :
    nodeId ∈ (sortedSubgraph search evidence).nodes.map Prod.fst ↔
      nodeId ∈ search.visited.map Visit.id := by
  rw [map_fst_sortedSubgraph]
  simp

theorem mem_edges_sortedSubgraph {edge : Edge} :
    edge ∈ (sortedSubgraph search evidence).edges ↔ edge ∈ search.edges := by
  simp [sortedSubgraph]

theorem validateIntegrity_eq (hevidence : EvidenceCollected search evidence) :
    (sortedSubgraph search evidence).validateIntegrity = (do
      let _ ← (sortedSubgraph search evidence).edges.mapM
        (sortedSubgraph search evidence).checkEdge
      pure (sortedSubgraph search evidence)) := by
  have hnodes : (sortedSubgraph search evidence).nodes.mapM
      (fun entry => (sortedSubgraph search evidence).checkNode entry.2) =
        .ok ((sortedSubgraph search evidence).nodes.map fun _ => ()) := by
    rw [mapM_eq_ok_iff, List.forall₂_map_right_iff]
    refine List.forall₂_same.mpr fun entry hentry => ?_
    simp only [sortedSubgraph, List.mem_map, mem_sortedBy] at hentry
    obtain ⟨x, hx, heq⟩ := hentry
    have hmissing : (sortedSubgraph search evidence).missingEvidence entry.2.evidenceIds = [] := by
      apply Subgraph.missingEvidence_eq_nil
      intro evidenceId hmem
      rw [mem_evidence_sortedSubgraph]
      rw [← heq] at hmem
      exact hevidence.1 x hx evidenceId hmem
    rw [Subgraph.checkNode, hmissing]
  unfold Subgraph.validateIntegrity
  rw [if_neg, if_neg, if_neg, hnodes]
  · rfl
  · rw [not_not]
    exact (sortedBy_sortedBy GraphStore.edgeOrder search.edges).symm
  · rw [not_not]
    exact (sortedBy_map_sortedBy Prod.fst evidence).symm
  · rw [not_not, map_fst_sortedSubgraph]
    exact (sortedBy_map_sortedBy Visit.id search.visited).symm

theorem validateIntegrity_of_endsVisited (hevidence : EvidenceCollected search evidence)
    (hends : EndsVisited search) :
    (sortedSubgraph search evidence).validateIntegrity = .ok (sortedSubgraph search evidence) := by
  have hedges : (sortedSubgraph search evidence).edges.mapM
      (sortedSubgraph search evidence).checkEdge =
        .ok ((sortedSubgraph search evidence).edges.map fun _ => ()) := by
    rw [mapM_eq_ok_iff, List.forall₂_map_right_iff]
    refine List.forall₂_same.mpr fun edge hedge => ?_
    rw [mem_edges_sortedSubgraph] at hedge
    rw [Subgraph.checkEdge_eq fun id hid =>
      mem_evidence_sortedSubgraph.mpr (hevidence.2 edge hedge id hid), if_neg]
    rw [mem_nodes_sortedSubgraph, mem_nodes_sortedSubgraph, not_or, not_not, not_not]
    exact hends edge hedge
  rw [validateIntegrity_eq hevidence, hedges]
  rfl

theorem validateIntegrity_of_not_endsVisited (hevidence : EvidenceCollected search evidence)
    (hends : ¬ EndsVisited search) :
    ∃ error, (sortedSubgraph search evidence).validateIntegrity = .error error ∧
      error.isIntegrity = true := by
  have hchecks : ∀ edge ∈ (sortedSubgraph search evidence).edges,
      (sortedSubgraph search evidence).checkEdge edge = .ok () ∨
        ∃ error, (sortedSubgraph search evidence).checkEdge edge = .error error ∧
          error.isIntegrity = true := by
    intro edge hedge
    rw [mem_edges_sortedSubgraph] at hedge
    rw [Subgraph.checkEdge_eq fun id hid =>
      mem_evidence_sortedSubgraph.mpr (hevidence.2 edge hedge id hid)]
    split
    · exact .inr ⟨_, rfl, rfl⟩
    · exact .inl rfl
  rw [validateIntegrity_eq hevidence]
  cases hrun : (sortedSubgraph search evidence).edges.mapM
      (sortedSubgraph search evidence).checkEdge with
  | error error =>
      obtain ⟨edge, hedge, herror⟩ := exists_input_of_error hrun
      cases hchecks edge hedge with
      | inl hok =>
          rw [hok] at herror
          cases herror
      | inr hfail =>
          obtain ⟨raised, hraised, hintegrity⟩ := hfail
          rw [hraised, Except.error.injEq] at herror
          exact ⟨error, rfl, herror ▸ hintegrity⟩
  | ok units =>
      exfalso
      apply hends
      intro edge hedge
      obtain ⟨value, -, hok⟩ := exists_output_of_mem hrun (mem_edges_sortedSubgraph.mpr hedge)
      rw [Subgraph.checkEdge_eq fun id hid =>
        mem_evidence_sortedSubgraph.mpr (hevidence.2 edge hedge id hid)] at hok
      by_contra hmissing
      rw [if_pos] at hok
      · cases hok
      · rw [mem_nodes_sortedSubgraph, mem_nodes_sortedSubgraph]
        rwa [not_and_or] at hmissing

end Integrity

/-! ## The exact result -/

namespace SubgraphQuery

structure Valid (query : SubgraphQuery) : Prop where
  depth : 0 ≤ query.depth
  maxNodes : 0 < query.maxNodes
  maxEdges : 0 < query.maxEdges

/-- The row limit `max_edges + 1` is an integer which SQLite can take. -/
structure Bindable (query : SubgraphQuery) : Prop extends query.Valid where
  maxEdges_lt : query.maxEdges < 2 ^ 63 - 1

section Results

variable (store : GraphStore) (query : SubgraphQuery) (seedIds : List String)

/-- The nodes at most `depth` steps from a seed. -/
def reachedNodes : Set String :=
  {nodeId | (query.network store).Within seedIds query.depth.toNat nodeId}

/-- The edges incident to a node at a smaller distance than `depth`. -/
def crossedEdges : Set Edge :=
  {edge | (query.network store).Crossed seedIds query.depth.toNat edge}

structure WithinLimits : Prop where
  nodes : ((query.reachedNodes store seedIds).ncard : ℤ) ≤ query.maxNodes
  edges : ((query.crossedEdges store seedIds).ncard : ℤ) ≤ query.maxEdges

/-- Every lookup on the way to the exact result has its answer. -/
structure Answered : Prop where
  seeds : ∀ seedId ∈ seedIds, ∃ node, store.getNode seedId = .ok node
  ends : ∀ edge ∈ query.crossedEdges store seedIds,
    store.Answers edge.src ∧ store.Answers edge.dst
  nodeEvidence : ∀ nodeId ∈ query.reachedNodes store seedIds, ∀ node,
    store.getNode nodeId = .ok node → ∀ evidenceId ∈ node.evidenceIds,
      ∃ found, store.getEvidence evidenceId = .ok found
  edgeEvidence : ∀ edge ∈ query.crossedEdges store seedIds, ∀ evidenceId ∈ edge.evidenceIds,
    ∃ found, store.getEvidence evidenceId = .ok found

structure IsExact (search : Traversal) : Prop where
  nodes : ∀ nodeId, nodeId ∈ search.visited.map Visit.id ↔
    nodeId ∈ query.reachedNodes store seedIds
  edges : ∀ edge, edge ∈ search.edges ↔ edge ∈ query.crossedEdges store seedIds
  accepted : (query.network store).Accepted search
  nodeCount : (query.reachedNodes store seedIds).ncard = search.visited.length
  edgeCount : (query.crossedEdges store seedIds).ncard = search.edges.length

end Results

section Exact

variable {store : GraphStore} {query : SubgraphQuery} {seedIds : List String}

theorem IsExact.fits_iff {exact : Traversal} (hexact : query.IsExact store seedIds exact) :
    query.Fits exact ↔ query.WithinLimits store seedIds := by
  constructor
  · intro hfits
    exact ⟨hexact.nodeCount ▸ hfits.nodes, hexact.edgeCount ▸ hfits.edges⟩
  · intro hlimits
    exact ⟨hexact.nodeCount ▸ hlimits.nodes, hexact.edgeCount ▸ hlimits.edges⟩

theorem mem_rows_of_accept {nodeId : String}
    (haccept : ((query.network store).accept nodeId).isSome = true) :
    nodeId ∈ store.current.nodes.rows.map NodeRow.id := by
  obtain ⟨node, hnode⟩ := Option.isSome_iff_exists.mp haccept
  have hget := (accept_eq_some.mp hnode).1
  unfold GraphStore.getNode at hget
  cases hlookup : store.current.nodes.lookup nodeId with
  | none =>
      rw [hlookup] at hget
      cases hget
  | some row =>
      obtain ⟨hrow, hid⟩ := KeyedTable.lookup_eq_some_iff.mp hlookup
      rw [← hid]
      exact List.mem_map_of_mem hrow

theorem Seeded.frontier (hseeded : Seeded store query (sortedBy id seedIds) visited) :
    (query.network store).Frontier seedIds query.depth.toNat []
      ⟨visited, [], sortedBy Visit.id visited⟩ := by
  apply Network.frontier_start _ hseeded.nodup hseeded.distance hseeded.accepted
  · intro nodeId
    rw [hseeded.ids, mem_sortedBy]
  · exact (sortedBy_perm _ _).symm

theorem Seeded.isExact (hseeded : Seeded store query (sortedBy id seedIds) visited) :
    query.IsExact store seedIds
      ((query.network store).run query.depth.toNat store.current.nodes.rows.length
        ⟨visited, [], sortedBy Visit.id visited⟩) := by
  have hfuel : (store.current.nodes.rows.map NodeRow.id).length +
      (sortedBy Visit.id visited).length ≤
        store.current.nodes.rows.length + visited.length := by
    rw [List.length_map, (sortedBy_perm _ _).length_eq]
  obtain ⟨hempty, expanded, hfrontier⟩ := hseeded.frontier.run (fun _ => mem_rows_of_accept) hfuel
  constructor
  · exact hfrontier.mem_visited_iff hempty
  · exact hfrontier.mem_edges_iff hempty
  · exact hfrontier.accepted
  · exact hfrontier.ncard_within hempty
  · exact hfrontier.ncard_crossed hempty

theorem Seeded.tracks (hvalid : query.Valid)
    (hseeded : Seeded store query (sortedBy id seedIds) visited) :
    Tracks store query
      ((query.network store).run query.depth.toNat store.current.nodes.rows.length
        ⟨visited, [], sortedBy Visit.id visited⟩)
      (do
        raiseIfExceeds query.maxNodes visited.length "node"
        query.traverse store store.current.nodes.rows.length
          ⟨visited, [], sortedBy Visit.id visited⟩) := by
  by_cases hnodes : (visited.length : ℤ) ≤ query.maxNodes
  · rw [raiseIfExceeds_of_le "node" hnodes, ok_bind]
    apply tracks_traverse hvalid.depth hvalid.maxEdges hseeded.frontier
    · exact ⟨hnodes, le_of_lt hvalid.maxEdges⟩
    · intro edge hedge
      cases hedge
  · obtain ⟨error, hraise, herror⟩ := raiseIfExceeds_of_lt query.maxNodes visited.length "node"
      (by omega)
    rw [hraise]
    apply Tracks.exceeded herror
    intro hfits
    have hearlier := hfits.of_precedes (Network.precedes_run _ _ _ _)
    exact hnodes hearlier.nodes

theorem IsExact.evidence {exact : Traversal} (hexact : query.IsExact store seedIds exact) :
    (∃ evidence, (exact.visited.flatMap (fun visit => visit.value.evidenceIds) ++
        exact.edges.flatMap Edge.evidenceIds).foldlM (collectEvidence store) [] = .ok evidence ∧
      EvidenceCollected exact evidence ∧
      (query.Answered store seedIds ↔
        (∀ seedId ∈ seedIds, ∃ node, store.getNode seedId = .ok node) ∧
          store.EndsAnswer exact)) ∨
    (∃ error, (exact.visited.flatMap (fun visit => visit.value.evidenceIds) ++
        exact.edges.flatMap Edge.evidenceIds).foldlM (collectEvidence store) [] =
          .error error ∧ error.isIntegrity = false ∧ ¬ query.Answered store seedIds) := by
  obtain ⟨evidence, hrun, hfound, hids⟩ | ⟨error, hrun, evidenceId, hmem, hlost⟩ :=
    foldlM_collectEvidence store (exact.visited.flatMap (fun visit => visit.value.evidenceIds) ++
      exact.edges.flatMap Edge.evidenceIds) []
  · left
    refine ⟨evidence, hrun, ⟨?_, ?_⟩, ?_⟩
    · intro x hx evidenceId hid
      rw [hids]
      exact .inr (List.mem_append_left _ (List.mem_flatMap.mpr ⟨x, hx, hid⟩))
    · intro edge hedge evidenceId hid
      rw [hids]
      exact .inr (List.mem_append_right _ (List.mem_flatMap.mpr ⟨edge, hedge, hid⟩))
    · constructor
      · intro hanswered
        exact ⟨hanswered.seeds, fun edge hedge => hanswered.ends edge ((hexact.edges edge).mp hedge)⟩
      · intro hanswered
        constructor
        · exact hanswered.1
        · intro edge hedge
          exact hanswered.2 edge ((hexact.edges edge).mpr hedge)
        · intro nodeId hnodeId node hget evidenceId hid
          obtain ⟨x, hx, heq⟩ := List.mem_map.mp ((hexact.nodes nodeId).mpr hnodeId)
          have hvalue := (accept_eq_some.mp (hexact.accepted x hx)).1
          rw [heq, hget, Except.ok.injEq] at hvalue
          rw [hvalue] at hid
          exact hfound evidenceId (List.mem_append_left _ (List.mem_flatMap.mpr ⟨x, hx, hid⟩))
            (by simp)
        · intro edge hedge evidenceId hid
          exact hfound evidenceId (List.mem_append_right _
            (List.mem_flatMap.mpr ⟨edge, (hexact.edges edge).mpr hedge, hid⟩)) (by simp)
  · right
    refine ⟨error, hrun, GraphStore.isIntegrity_of_getEvidence hlost, ?_⟩
    intro hanswered
    have hsome : ∃ found, store.getEvidence evidenceId = .ok found := by
      cases List.mem_append.mp hmem with
      | inl hmem =>
          obtain ⟨x, hx, hid⟩ := List.mem_flatMap.mp hmem
          have hnode := (hexact.nodes x.id).mp (List.mem_map_of_mem hx)
          exact hanswered.nodeEvidence x.id hnode x.value
            (accept_eq_some.mp (hexact.accepted x hx)).1 evidenceId hid
      | inr hmem =>
          obtain ⟨edge, hedge, hid⟩ := List.mem_flatMap.mp hmem
          exact hanswered.edgeEvidence edge ((hexact.edges edge).mp hedge) evidenceId hid
    obtain ⟨found, hfound⟩ := hsome
    rw [hlost] at hfound
    cases hfound

/-- A query answers what the exact search finds, or refuses for a reason in the store. -/
theorem querySubgraphBfs_cases (store : GraphStore) (seedIds : List String)
    {query : SubgraphQuery} (hvalid : query.Valid) :
    (query.WithinLimits store seedIds ∧ query.Answered store seedIds ∧
      ∃ search evidence, query.IsExact store seedIds search ∧
        EvidenceCollected search evidence ∧
        querySubgraphBfs store seedIds query =
          (sortedSubgraph search evidence).validateIntegrity) ∨
    (¬ query.WithinLimits store seedIds ∧
      ∃ error, querySubgraphBfs store seedIds query = .error error ∧
        error.isQueryLimit = true) ∨
    (¬ query.Answered store seedIds ∧
      ∃ error, querySubgraphBfs store seedIds query = .error error ∧
        error.isIntegrity = false) := by
  have hdepth : ¬ query.depth < 0 := not_lt.mpr hvalid.depth
  have hlimits : ¬ (query.maxNodes ≤ 0 ∨ query.maxEdges ≤ 0) :=
    not_or.mpr ⟨not_le.mpr hvalid.maxNodes, not_le.mpr hvalid.maxEdges⟩
  unfold querySubgraphBfs
  rw [if_neg hdepth, if_neg hlimits]
  obtain ⟨visited, hvisited, hread, hseeded⟩ | ⟨error, herror, seedId, hseed, hlost⟩ :=
    foldlM_visitSeed (sortedBy id seedIds) (seeded_nil store query)
  · rw [List.nil_append] at hseeded
    rw [hvisited, ok_bind]
    have hexact := hseeded.isExact
    have htracks := hseeded.tracks hvalid
    rw [← bind_assoc]
    generalize (query.network store).run query.depth.toNat store.current.nodes.rows.length
      ⟨visited, [], sortedBy Visit.id visited⟩ = exact at hexact htracks
    generalize (do
      raiseIfExceeds query.maxNodes visited.length "node"
      query.traverse store store.current.nodes.rows.length
        ⟨visited, [], sortedBy Visit.id visited⟩) = outcome at htracks ⊢
    have hseeds : ∀ seedId ∈ seedIds, ∃ node, store.getNode seedId = .ok node :=
      fun seedId hseed => hread seedId (mem_sortedBy.mpr hseed)
    cases htracks with
    | done hfits hends =>
        rw [ok_bind]
        obtain ⟨evidence, hrun, hcollected, hanswered⟩ | ⟨error, hrun, herror, hlost⟩ :=
          hexact.evidence
        · rw [hrun, ok_bind]
          exact .inl ⟨hexact.fits_iff.mp hfits, hanswered.mpr ⟨hseeds, hends⟩, exact, evidence,
            hexact, hcollected, rfl⟩
        · rw [hrun]
          exact .inr (.inr ⟨hlost, error, rfl, herror⟩)
    | exceeded herror hfits =>
        exact .inr (.inl ⟨fun hlimits => hfits (hexact.fits_iff.mpr hlimits), _, rfl, herror⟩)
    | unreadable herror hends =>
        refine .inr (.inr ⟨fun hanswered => hends ?_, _, rfl, herror⟩)
        intro edge hedge
        exact hanswered.ends edge ((hexact.edges edge).mp hedge)
  · right
    right
    constructor
    · intro hanswered
      obtain ⟨node, hnode⟩ := hanswered.seeds seedId (mem_sortedBy.mp hseed)
      rw [hlost] at hnode
      cases hnode
    · rw [herror]
      exact ⟨error, rfl, GraphStore.isIntegrity_of_getNode hlost⟩

end Exact

end SubgraphQuery

end SuitCode
