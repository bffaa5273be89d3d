import SuitCode.SubgraphExactness

/-!
# Dependents and dependencies

A search against the direction of the edges comes back along its own steps.  Whatever the
store holds, the dependents and the dependencies which are returned are inverse to each
other, and a deeper query returns more.
-/

namespace BreadthFirst.Network

variable {ν ε κ α : Type} {network other : Network ν ε κ α}

def Reverses (network other : Network ν ε κ α) : Prop :=
  ∀ v e, e ∈ network.incident v →
    e ∈ other.incident (network.far v e) ∧ other.far (network.far v e) e = v

theorem Within.prepend {v u : ν} {e : ε} {d : ℕ} (haccept : (network.accept v).isSome = true)
    (hedge : e ∈ network.incident v) (hwithin : network.Within [network.far v e] d u) :
    network.Within [v] (d + 1) u := by
  induction hwithin with
  | @seed d u hseed hadmitted =>
      rw [List.mem_singleton] at hseed
      rw [hseed] at hadmitted ⊢
      have hstart : network.Within [v] d v := .seed (List.mem_singleton_self v) haccept
      exact .step hstart hedge hadmitted
  | step _ hnext hadmitted ih => exact .step ih hnext hadmitted

theorem Within.reverse (hreverses : network.Reverses other)
    (haccept : ∀ v, (network.accept v).isSome = true → (other.accept v).isSome = true)
    {v u : ν} {d : ℕ} (hwithin : network.Within [v] d u) : other.Within [u] d v := by
  induction hwithin with
  | @seed d u hseed hadmitted =>
      rw [List.mem_singleton] at hseed
      rw [hseed] at hadmitted ⊢
      exact .seed (List.mem_singleton_self v) (haccept v hadmitted)
  | @step d u e _ hedge hadmitted ih =>
      obtain ⟨hback, hfar⟩ := hreverses u e hedge
      rw [← hfar] at ih
      exact ih.prepend (haccept _ hadmitted) hback

end BreadthFirst.Network

namespace SuitCode

open BreadthFirst BreadthFirst.Network

namespace SubgraphQuery

variable {store : GraphStore} {query : SubgraphQuery} {seedIds : List String}

theorem valid_of_returned {subgraph : Subgraph}
    (hrun : querySubgraphBfs store seedIds query = .ok subgraph) : query.Valid := by
  unfold querySubgraphBfs at hrun
  split at hrun
  · cases hrun
  · split at hrun
    · cases hrun
    · constructor
      · omega
      · omega
      · omega

theorem exact_of_returned {subgraph : Subgraph}
    (hrun : querySubgraphBfs store seedIds query = .ok subgraph) :
    (∀ nodeId, nodeId ∈ subgraph.nodes.map Prod.fst ↔
        nodeId ∈ query.reachedNodes store seedIds) ∧
      ∀ edge, edge ∈ subgraph.edges ↔ edge ∈ query.crossedEdges store seedIds := by
  obtain ⟨-, -, search, evidence, hexact, hcollected, hcase⟩ | ⟨-, error, hcase, -⟩ |
      ⟨-, error, hcase, -⟩ := querySubgraphBfs_cases store seedIds (valid_of_returned hrun)
  · rw [hcase] at hrun
    by_cases hends : EndsVisited search
    · rw [validateIntegrity_of_endsVisited hcollected hends, Except.ok.injEq] at hrun
      rw [← hrun]
      constructor
      · intro nodeId
        rw [mem_nodes_sortedSubgraph, hexact.nodes]
      · intro edge
        rw [mem_edges_sortedSubgraph, hexact.edges]
    · obtain ⟨error, herror, -⟩ := validateIntegrity_of_not_endsVisited hcollected hends
      rw [herror] at hrun
      cases hrun
  · rw [hcase] at hrun
    cases hrun
  · rw [hcase] at hrun
    cases hrun

theorem reverses_of_directions {back : SubgraphQuery} (hkinds : back.edgeKinds = query.edgeKinds)
    (hdirections : query.direction = "in" ∧ back.direction = "out" ∨
      query.direction = "out" ∧ back.direction = "in") :
    (query.network store).Reverses (back.network store) := by
  intro nodeId edge hedge
  have hincident := mem_incidentEdges.mp hedge
  have hselects : back.Selects store edge := by
    unfold Selects
    rw [hkinds]
    exact hincident.1
  have hback : (back.network store).incident ((query.network store).far nodeId edge) =
      back.incidentEdges store (nextNodeId nodeId edge) := rfl
  have hfar : (back.network store).far ((query.network store).far nodeId edge) edge =
      nextNodeId (nextNodeId nodeId edge) edge := rfl
  rw [hback, hfar, mem_incidentEdges]
  unfold nextNodeId
  cases hdirections with
  | inl hin =>
      have hdst : edge.dst = nodeId := by simpa [hin.1] using hincident.2
      by_cases hloop : edge.src = nodeId
      · simp [hselects, hin.2, hloop, hdst]
      · simp [hselects, hin.2, hloop, hdst]
  | inr hout =>
      have hsrc : edge.src = nodeId := by simpa [hout.1] using hincident.2
      by_cases hloop : edge.dst = nodeId
      · simp [hselects, hout.2, hloop, hsrc]
      · simp [hselects, hout.2, hsrc, Ne.symm hloop]

theorem reached_back {back : SubgraphQuery} {nodeId other : String}
    (hreached : other ∈ query.reachedNodes store [nodeId])
    (hreverses : (query.network store).Reverses (back.network store))
    (hnodes : back.nodeKinds = query.nodeKinds) (hdepth : back.depth = query.depth) :
    nodeId ∈ back.reachedNodes store [other] := by
  have haccept : back.accept store = query.accept store := by
    funext id
    simp only [accept, hnodes]
  have hback : (back.network store).Within [other] query.depth.toNat nodeId := by
    apply Within.reverse hreverses _ hreached
    intro id hadmitted
    rw [network_accept] at hadmitted ⊢
    rw [haccept]
    exact hadmitted
  rw [← hdepth] at hback
  exact hback

end SubgraphQuery

structure DependencyQueriesAgree (store : GraphStore) : Prop where
  inverse : ∀ nodeId other depth maxNodes maxEdges maxNodes' maxEdges' dependents dependencies,
    queryDependents store nodeId depth maxNodes maxEdges = .ok dependents →
    queryDependencies store other depth maxNodes' maxEdges' = .ok dependencies →
    (other ∈ dependents.nodes.map Prod.fst ↔ nodeId ∈ dependencies.nodes.map Prod.fst)
  deeper : ∀ seedIds (query : SubgraphQuery) depth maxNodes maxEdges near far,
    query.depth ≤ depth → querySubgraphBfs store seedIds query = .ok near →
    querySubgraphBfs store seedIds
      { query with depth := depth, maxNodes := maxNodes, maxEdges := maxEdges } = .ok far →
    near.nodes.map Prod.fst ⊆ far.nodes.map Prod.fst ∧ near.edges ⊆ far.edges

/-- The store may lack nodes, hold unreadable ones, or edges without their ends. -/
theorem dependencyQueries_agree (store : GraphStore) : DependencyQueriesAgree store where
  inverse := by
    intro nodeId other depth maxNodes maxEdges maxNodes' maxEdges' dependents dependencies
      hdependents hdependencies
    rw [(SubgraphQuery.exact_of_returned hdependents).1,
      (SubgraphQuery.exact_of_returned hdependencies).1]
    constructor
    · intro hreached
      exact SubgraphQuery.reached_back hreached
        (SubgraphQuery.reverses_of_directions rfl (.inl ⟨rfl, rfl⟩)) rfl rfl
    · intro hreached
      exact SubgraphQuery.reached_back hreached
        (SubgraphQuery.reverses_of_directions rfl (.inr ⟨rfl, rfl⟩)) rfl rfl
  deeper := by
    intro seedIds query depth maxNodes maxEdges near far hdepth hnear hfar
    have hnearExact := SubgraphQuery.exact_of_returned hnear
    have hfarExact := SubgraphQuery.exact_of_returned hfar
    have hle : query.depth.toNat ≤ depth.toNat := Int.toNat_le_toNat hdepth
    constructor
    · intro nodeId hnode
      rw [hfarExact.1]
      have hreached : (query.network store).Within seedIds query.depth.toNat nodeId :=
        (hnearExact.1 nodeId).mp hnode
      exact hreached.mono hle
    · intro edge hedge
      rw [hfarExact.2]
      obtain ⟨nodeId, distance, hlt, hcrossed⟩ := (hnearExact.2 edge).mp hedge
      exact ⟨nodeId, distance, hlt.trans_le hle, hcrossed⟩

end SuitCode
