import SuitCode.GraphQueries
import SuitCode.GraphRoundTrip

/-!
# The walk of a subgraph query

The edges which the fetches of a query would return without their limit make a
network.  The walk follows the breadth-first search of this network until it
exceeds a limit or meets a node which cannot be read.
-/

namespace SuitCode

open BreadthFirst ExceptList KeyedList

/-! ## Limits and lookups -/

def GraphException.isQueryLimit : GraphException → Bool
  | .queryLimitError _ _ => true
  | _ => false

def GraphException.isIntegrity : GraphException → Bool
  | .integrityError _ _ => true
  | _ => false

theorem raiseIfExceeds_of_le {maxValue : ℤ} {observed : ℕ} (what : String)
    (hle : (observed : ℤ) ≤ maxValue) : raiseIfExceeds maxValue observed what = .ok () := by
  rw [raiseIfExceeds, if_neg (by omega)]

theorem raiseIfExceeds_of_lt (maxValue : ℤ) (observed : ℕ) (what : String)
    (hlt : maxValue < (observed : ℤ)) :
    ∃ error, raiseIfExceeds maxValue observed what = .error error ∧
      error.isQueryLimit = true := by
  rw [raiseIfExceeds, if_pos hlt]
  exact ⟨_, rfl, rfl⟩

theorem GraphStore.getNode_eq (store : GraphStore) (nodeId : String) :
    store.getNode nodeId =
      match store.current.nodes.lookup nodeId with
      | none =>
          .error (.notFoundError ("node not found: " ++ nodeId) "Check node id before lookup.")
      | some row => liftPy row.node.reread := by
  unfold GraphStore.getNode
  cases store.current.nodes.lookup nodeId with
  | none => rfl
  | some row => exact nodeOfPayload_nodePayloadJson row.node

theorem GraphStore.getEvidence_eq (store : GraphStore) (evidenceId : String) :
    store.getEvidence evidenceId =
      match store.current.evidence.lookup evidenceId with
      | none =>
          .error (.notFoundError ("evidence not found: " ++ evidenceId)
            "Check evidence id before lookup.")
      | some row => liftPy row.evidence.validate := by
  unfold GraphStore.getEvidence
  cases store.current.evidence.lookup evidenceId with
  | none => rfl
  | some row => exact evidenceOfPayload_evidencePayloadJson row.evidence

variable {error : GraphException} {nodeId : String} {node : GraphNode} {after exact : Traversal}
  {edges : List Edge}

theorem isIntegrity_of_liftPy {α : Type} {result : PyResult α}
    (herror : liftPy result = .error error) : error.isIntegrity = false := by
  cases result with
  | ok value => simp [liftPy] at herror
  | error raised =>
      simp only [liftPy, Except.error.injEq] at herror
      subst herror
      rfl

theorem GraphStore.isIntegrity_of_getNode {store : GraphStore}
    (herror : store.getNode nodeId = .error error) :
    error.isIntegrity = false := by
  rw [getNode_eq] at herror
  cases hlookup : store.current.nodes.lookup nodeId with
  | none =>
      simp only [hlookup, Except.error.injEq] at herror
      subst herror
      rfl
  | some row =>
      simp only [hlookup] at herror
      exact isIntegrity_of_liftPy herror

theorem GraphStore.isIntegrity_of_getEvidence {store : GraphStore} {evidenceId : String}
    (herror : store.getEvidence evidenceId = .error error) :
    error.isIntegrity = false := by
  rw [getEvidence_eq] at herror
  cases hlookup : store.current.evidence.lookup evidenceId with
  | none =>
      simp only [hlookup, Except.error.injEq] at herror
      subst herror
      rfl
  | some row =>
      simp only [hlookup] at herror
      exact isIntegrity_of_liftPy herror

def GraphStore.Answers (store : GraphStore) (nodeId : String) : Prop :=
  ∀ error, store.getNode nodeId = .error error → ∃ message remediation,
    error = .notFoundError message remediation

theorem GraphStore.Answers.of_ok {store : GraphStore} (hget : store.getNode nodeId = .ok node) :
    store.Answers nodeId := by
  intro error herror
  rw [hget] at herror
  cases herror

/-! ## The network of a query -/

namespace SubgraphQuery

def accept (store : GraphStore) (query : SubgraphQuery) (nodeId : String) : Option GraphNode :=
  match store.getNode nodeId with
  | .error _ => none
  | .ok node => if selectsNodeKind query.nodeKinds node.kind then some node else none

theorem accept_eq_some {store : GraphStore} {query : SubgraphQuery} :
    query.accept store nodeId = some node ↔
      store.getNode nodeId = .ok node ∧ selectsNodeKind query.nodeKinds node.kind = true := by
  unfold accept
  cases store.getNode nodeId with
  | error error => simp
  | ok found =>
      simp only [Except.ok.injEq]
      by_cases hkind : selectsNodeKind query.nodeKinds found.kind = true
      · rw [if_pos hkind, Option.some.injEq]
        constructor
        · intro heq
          subst heq
          exact ⟨rfl, hkind⟩
        · exact And.left
      · rw [if_neg hkind]
        constructor
        · intro heq
          cases heq
        · intro hfound
          exact absurd (hfound.1 ▸ hfound.2) hkind

def selectedEdges (store : GraphStore) (query : SubgraphQuery) (column : Edge → String)
    (value : String) : List Edge :=
  (sortedBy (fun row => GraphStore.edgeOrder row.edge)
    (store.current.edges.rows.filter fun row =>
      column row.edge = value && GraphStore.selectsKind query.edgeKinds row.edge.kind)).map
        EdgeRow.edge

def outgoing (store : GraphStore) (query : SubgraphQuery) (nodeId : String) : List Edge :=
  if query.direction ∈ ["out", "both"] then query.selectedEdges store Edge.src nodeId else []

def incoming (store : GraphStore) (query : SubgraphQuery) (nodeId : String) : List Edge :=
  if query.direction ∈ ["in", "both"] then query.selectedEdges store Edge.dst nodeId else []

def incidentEdges (store : GraphStore) (query : SubgraphQuery) (nodeId : String) : List Edge :=
  sortedBy GraphStore.edgeOrder (query.outgoing store nodeId ++ query.incoming store nodeId)

def Selects (store : GraphStore) (query : SubgraphQuery) (edge : Edge) : Prop :=
  (∃ row ∈ store.current.edges, row.edge = edge) ∧
    GraphStore.selectsKind query.edgeKinds edge.kind = true

theorem mem_selectedEdges {store : GraphStore} {query : SubgraphQuery} {column : Edge → String}
    {value : String} {edge : Edge} :
    edge ∈ query.selectedEdges store column value ↔
      query.Selects store edge ∧ column edge = value := by
  simp only [selectedEdges, List.mem_map, mem_sortedBy, List.mem_filter, Bool.and_eq_true,
    decide_eq_true_eq, Selects, KeyedTable.mem_rows]
  constructor
  · intro hedge
    obtain ⟨row, ⟨hrow, hcolumn, hkind⟩, heq⟩ := hedge
    subst heq
    exact ⟨⟨⟨row, hrow, rfl⟩, hkind⟩, hcolumn⟩
  · intro hedge
    obtain ⟨⟨⟨row, hrow, heq⟩, hkind⟩, hcolumn⟩ := hedge
    subst heq
    exact ⟨row, ⟨hrow, hcolumn, hkind⟩, rfl⟩

theorem mem_incidentEdges {store : GraphStore} {query : SubgraphQuery} {edge : Edge} :
    edge ∈ query.incidentEdges store nodeId ↔
      query.Selects store edge ∧
        (query.direction ∈ ["out", "both"] ∧ edge.src = nodeId ∨
          query.direction ∈ ["in", "both"] ∧ edge.dst = nodeId) := by
  rw [incidentEdges, mem_sortedBy, List.mem_append, outgoing, incoming]
  by_cases hout : query.direction ∈ ["out", "both"]
  · by_cases hin : query.direction ∈ ["in", "both"]
    · rw [if_pos hout, if_pos hin, mem_selectedEdges, mem_selectedEdges]
      simp only [hout, hin, true_and, and_or_left]
    · rw [if_pos hout, if_neg hin, mem_selectedEdges]
      simp only [hout, hin, true_and, false_and, or_false, List.not_mem_nil]
  · by_cases hin : query.direction ∈ ["in", "both"]
    · rw [if_neg hout, if_pos hin, mem_selectedEdges]
      simp only [hout, hin, true_and, false_and, false_or, List.not_mem_nil]
    · rw [if_neg hout, if_neg hin]
      simp only [hout, hin, false_and, or_false, and_false, List.not_mem_nil]

theorem eq_of_edgeOrder {store : GraphStore} {query : SubgraphQuery} {edge other : Edge}
    (hedge : query.Selects store edge) (hother : query.Selects store other)
    (hkey : GraphStore.edgeOrder edge = GraphStore.edgeOrder other) : edge = other := by
  obtain ⟨⟨row, hrow, heq⟩, -⟩ := hedge
  obtain ⟨⟨row', hrow', heq'⟩, -⟩ := hother
  subst heq
  subst heq'
  have hparts : row.edge.kind.value = row'.edge.kind.value ∧
      row.edge.src = row'.edge.src ∧ row.edge.dst = row'.edge.dst := by
    simpa [GraphStore.edgeOrder] using hkey
  have hkind := EdgeKind.value_injective hparts.1
  have hsame : row = row' := by
    apply KeyedTable.eq_of_mem hrow hrow'
    simp only [EdgeRow.key, edgeKey, hkind, hparts]
  rw [hsame]

def network (store : GraphStore) (query : SubgraphQuery) :
    Network String Edge (String ×ₗ String ×ₗ String) GraphNode where
  incident := query.incidentEdges store
  far := nextNodeId
  key := GraphStore.edgeOrder
  accept := query.accept store
  key_injective := by
    intro v w edge other hedge hother hkey
    exact eq_of_edgeOrder (mem_incidentEdges.mp hedge).1 (mem_incidentEdges.mp hother).1 hkey

theorem network_accept (store : GraphStore) (query : SubgraphQuery) :
    (query.network store).accept = query.accept store := rfl

theorem nodup_selectedEdges (store : GraphStore) (query : SubgraphQuery)
    (column : Edge → String) (value : String) :
    (query.selectedEdges store column value).Nodup := by
  have hkeys : (query.selectedEdges store column value).map edgeKey |>.Nodup := by
    rw [selectedEdges, List.map_map]
    have hrows : (store.current.edges.rows.filter fun row =>
        column row.edge = value && GraphStore.selectsKind query.edgeKinds row.edge.kind).map
          EdgeRow.key |>.Nodup :=
      (List.filter_sublist.map _).nodup store.current.edges.distinct
    exact ((sortedBy_perm _ _).map _).nodup_iff.mpr hrows
  exact .of_map _ hkeys

/-! ## Following the search -/

structure Fits (query : SubgraphQuery) (search : Traversal) : Prop where
  nodes : (search.visited.length : ℤ) ≤ query.maxNodes
  edges : (search.edges.length : ℤ) ≤ query.maxEdges

end SubgraphQuery

/-- Both ends of every recorded edge are found or known not to be stored. -/
def GraphStore.EndsAnswer (store : GraphStore) (search : Traversal) : Prop :=
  ∀ edge ∈ search.edges, store.Answers edge.src ∧ store.Answers edge.dst

namespace SubgraphQuery

inductive Tracks (store : GraphStore) (query : SubgraphQuery) (exact : Traversal) :
    GraphResult Traversal → Prop where
  | done (hfits : query.Fits exact) (hends : store.EndsAnswer exact) :
      Tracks store query exact (.ok exact)
  | exceeded {error : GraphException} (herror : error.isQueryLimit = true)
      (hfits : ¬ query.Fits exact) : Tracks store query exact (.error error)
  | unreadable {error : GraphException} (herror : error.isIntegrity = false)
      (hends : ¬ store.EndsAnswer exact) : Tracks store query exact (.error error)

section Tracks

variable {store : GraphStore} {query : SubgraphQuery}

theorem Fits.of_precedes {search : Traversal} (hfits : query.Fits after)
    (hprecedes : Network.Precedes search after) : query.Fits search := by
  have hnodes := hprecedes.visited.length_le
  have hedges := hprecedes.edges.length_le
  have hfitsNodes := hfits.nodes
  have hfitsEdges := hfits.edges
  constructor
  · omega
  · omega

theorem EndsAnswer.of_subset {search : Traversal} (hends : store.EndsAnswer after)
    (hsubset : search.edges ⊆ after.edges) : store.EndsAnswer search := fun edge hedge =>
  hends edge (hsubset hedge)

/-- Two steps which track the exact search track it one after the other. -/
theorem Tracks.bind {outcome : GraphResult Traversal} {next : Traversal → GraphResult Traversal}
    (htracks : Tracks store query exact outcome) (hprecedes : Network.Precedes exact after)
    (hnext : query.Fits exact → store.EndsAnswer exact → Tracks store query after (next exact)) :
    Tracks store query after (outcome >>= next) := by
  cases htracks with
  | done hfits hends => exact hnext hfits hends
  | exceeded herror hfits =>
      exact .exceeded herror fun hafter => hfits (hafter.of_precedes hprecedes)
  | unreadable herror hends =>
      exact .unreadable herror fun hafter => hends (EndsAnswer.of_subset hafter
        hprecedes.edges.subset)

theorem network_recordEdge (edges : List Edge) (edge : Edge) :
    (query.network store).recordEdge edges edge =
      if GraphStore.edgeOrder edge ∈ edges.map GraphStore.edgeOrder then edges
      else edges ++ [edge] := by
  by_cases hmem : GraphStore.edgeOrder edge ∈ edges.map GraphStore.edgeOrder
  · rw [if_pos hmem]
    exact if_pos hmem
  · rw [if_neg hmem]
    exact if_neg hmem

theorem recordEdge_of_fits {edge : Edge}
    (hfits : (((query.network store).recordEdge edges edge).length : ℤ) ≤ query.maxEdges) :
    query.recordEdge edges edge = .ok ((query.network store).recordEdge edges edge) := by
  rw [network_recordEdge] at hfits ⊢
  unfold recordEdge
  by_cases hmem : GraphStore.edgeOrder edge ∈ edges.map GraphStore.edgeOrder
  · rw [if_pos hmem, if_pos hmem]
  · rw [if_neg hmem, List.length_append, List.length_singleton] at hfits
    rw [if_neg hmem, if_neg hmem, raiseIfExceeds_of_le "edge" hfits]
    rfl

theorem recordEdge_of_not_fits {edge : Edge} (hedges : (edges.length : ℤ) ≤ query.maxEdges)
    (hfits : ¬ (((query.network store).recordEdge edges edge).length : ℤ) ≤ query.maxEdges) :
    ∃ error, query.recordEdge edges edge = .error error ∧ error.isQueryLimit = true := by
  rw [network_recordEdge] at hfits
  unfold recordEdge
  by_cases hmem : GraphStore.edgeOrder edge ∈ edges.map GraphStore.edgeOrder
  · rw [if_pos hmem] at hfits
    exact absurd hedges hfits
  · rw [if_neg hmem, List.length_append, List.length_singleton] at hfits
    obtain ⟨error, hraise, herror⟩ := raiseIfExceeds_of_lt query.maxEdges
      (edges.length + 1) "edge" (by omega)
    refine ⟨error, ?_, herror⟩
    rw [if_neg hmem, hraise]
    rfl

theorem ends_of_nextNodeId {current : String} {edge : Edge}
    (hcurrent : edge.src = current ∨ edge.dst = current) {p : String → Prop} :
    p current ∧ p (nextNodeId current edge) ↔ p current ∧ p edge.src ∧ p edge.dst := by
  unfold nextNodeId
  by_cases hsrc : edge.src = current
  · rw [if_pos hsrc, hsrc]
    simp
  · rw [if_neg hsrc]
    have hdst : edge.dst = current := hcurrent.resolve_left hsrc
    rw [hdst]
    simp [and_comm]

theorem EndsAnswer.recordEdge {search : Traversal} {edge : Edge} (hends : store.EndsAnswer search)
    (hafter : after.edges = (query.network store).recordEdge search.edges edge)
    (hedge : store.Answers edge.src ∧ store.Answers edge.dst) : store.EndsAnswer after := by
  intro other hother
  rw [hafter] at hother
  cases Network.of_mem_recordEdge hother with
  | inl hother => exact hends other hother
  | inr hother =>
      subst hother
      exact hedge

theorem answers_of_accept (haccept : (query.network store).accept nodeId = some node) :
    store.Answers nodeId :=
  .of_ok (accept_eq_some.mp haccept).1

theorem not_endsAnswer {current : Visit String GraphNode} {search : Traversal} {edge : Edge}
    (hincident : edge.src = current.id ∨ edge.dst = current.id)
    (hcurrent : store.Answers current.id)
    (hedges : exact.edges = (query.network store).recordEdge search.edges edge)
    (hnext : ¬ store.Answers (nextNodeId current.id edge)) : ¬ store.EndsAnswer exact := by
  intro hends
  obtain ⟨recorded, hrecorded, hkey⟩ :=
    Network.exists_mem_recordEdge (query.network store) search.edges edge
  rw [← hedges] at hrecorded
  have hanswers := hends recorded hrecorded
  have hparts : recorded.kind.value = edge.kind.value ∧
      recorded.src = edge.src ∧ recorded.dst = edge.dst := by
    simpa [GraphStore.edgeOrder, network] using hkey
  rw [hparts.2.1, hparts.2.2] at hanswers
  exact hnext ((ends_of_nextNodeId hincident).mpr ⟨hcurrent, hanswers⟩).2

section Next

variable {current : Visit String GraphNode} {search : Traversal} {edge : Edge}

/-- What visiting the other end has to start from, once the edge is recorded. -/
structure Recorded (store : GraphStore) (query : SubgraphQuery)
    (current : Visit String GraphNode) (search : Traversal) (edge : Edge) : Prop where
  incident : edge.src = current.id ∨ edge.dst = current.id
  current : store.Answers current.id
  accepted : (query.network store).Accepted search
  ends : store.EndsAnswer search
  nodes : (search.visited.length : ℤ) ≤ query.maxNodes
  limit : (((query.network store).recordEdge search.edges edge).length : ℤ) ≤ query.maxEdges

theorem Recorded.endsAnswer (hrecorded : Recorded store query current search edge)
    (hnext : store.Answers (nextNodeId current.id edge)) :
    store.EndsAnswer ((query.network store).meet current search edge) :=
  EndsAnswer.recordEdge hrecorded.ends (Network.edges_meet _ _ _ _)
    ((ends_of_nextNodeId hrecorded.incident).mp ⟨hrecorded.current, hnext⟩).2

theorem Recorded.done (hrecorded : Recorded store query current search edge)
    (hsame : (query.network store).meet current search edge =
      { search with edges := (query.network store).recordEdge search.edges edge })
    (hnext : store.Answers (nextNodeId current.id edge)) :
    Tracks store query ((query.network store).meet current search edge)
      (.ok { search with edges := (query.network store).recordEdge search.edges edge }) := by
  rw [← hsame]
  apply Tracks.done
  · rw [hsame]
    exact ⟨hrecorded.nodes, hrecorded.limit⟩
  · exact hrecorded.endsAnswer hnext

theorem Recorded.visit (hrecorded : Recorded store query current search edge) {node : GraphNode}
    (hseen : nextNodeId current.id edge ∉ search.visited.map Visit.id)
    (hget : store.getNode (nextNodeId current.id edge) = .ok node)
    (hkind : selectsNodeKind query.nodeKinds node.kind = true) :
    Tracks store query ((query.network store).meet current search edge) (do
      let visit := ⟨nextNodeId current.id edge, current.distance + 1, node⟩
      raiseIfExceeds query.maxNodes (search.visited.length + 1) "node"
      pure ⟨search.visited ++ [visit], (query.network store).recordEdge search.edges edge,
        search.queue ++ [visit]⟩) := by
  have haccept : (query.network store).accept (nextNodeId current.id edge) = some node :=
    accept_eq_some.mpr ⟨hget, hkind⟩
  have hmeet : (query.network store).meet current search edge =
      ⟨search.visited ++ [⟨nextNodeId current.id edge, current.distance + 1, node⟩],
        (query.network store).recordEdge search.edges edge,
        search.queue ++ [⟨nextNodeId current.id edge, current.distance + 1, node⟩]⟩ :=
    Network.meet_of_accepted hseen haccept
  have hlength : ((query.network store).meet current search edge).visited.length =
      search.visited.length + 1 := by
    rw [hmeet, List.length_append, List.length_singleton]
  by_cases hnodes : ((search.visited.length + 1 : ℕ) : ℤ) ≤ query.maxNodes
  · simp only [raiseIfExceeds_of_le "node" hnodes, ok_bind]
    rw [← hmeet]
    apply Tracks.done
    · constructor
      · rw [hlength]
        exact hnodes
      · rw [Network.edges_meet]
        exact hrecorded.limit
    · exact hrecorded.endsAnswer (.of_ok hget)
  · obtain ⟨error, hraise, herror⟩ := raiseIfExceeds_of_lt query.maxNodes
      (search.visited.length + 1) "node" (by omega)
    simp only [hraise, error_bind]
    apply Tracks.exceeded herror
    intro hfits
    have hexceeds := hfits.nodes
    rw [hlength] at hexceeds
    exact hnodes hexceeds

theorem Recorded.tracks (hrecorded : Recorded store query current search edge) :
    Tracks store query ((query.network store).meet current search edge)
      (query.visitNext store current
        { search with edges := (query.network store).recordEdge search.edges edge }
        (nextNodeId current.id edge)) := by
  unfold visitNext
  by_cases hseen : nextNodeId current.id edge ∈ search.visited.map Visit.id
  · rw [if_pos hseen]
    obtain ⟨x, hx, hid⟩ := List.mem_map.mp hseen
    apply hrecorded.done (Network.meet_of_seen hseen)
    rw [← hid]
    exact answers_of_accept (hrecorded.accepted x hx)
  · rw [if_neg hseen]
    cases hget : store.getNode (nextNodeId current.id edge) with
    | error error =>
        have haccept : (query.network store).accept (nextNodeId current.id edge) = none := by
          simp only [network, accept, hget]
        have hsame := Network.meet_of_refused hseen haccept
        have hlost : (∀ message remediation, error ≠ .notFoundError message remediation) →
            Tracks store query ((query.network store).meet current search edge)
              (.error error) := by
          intro hne
          apply Tracks.unreadable (GraphStore.isIntegrity_of_getNode hget)
          apply not_endsAnswer hrecorded.incident hrecorded.current (Network.edges_meet _ _ _ _)
          intro hanswers
          obtain ⟨message, remediation, herror⟩ := hanswers error hget
          exact hne message remediation herror
        cases error with
        | notFoundError message remediation =>
            apply hrecorded.done hsame
            intro other hother
            rw [hget, Except.error.injEq] at hother
            exact ⟨message, remediation, hother.symm⟩
        | _ => exact hlost (by simp)
    | ok node =>
        by_cases hkind : selectsNodeKind query.nodeKinds node.kind = true
        · simp only [hkind, if_true]
          exact hrecorded.visit hseen hget hkind
        · have haccept : (query.network store).accept (nextNodeId current.id edge) = none := by
            simp only [network, accept, hget, if_neg hkind]
          simp only [if_neg hkind]
          exact hrecorded.done (Network.meet_of_refused hseen haccept) (.of_ok hget)

theorem tracks_meetEdge (hincident : edge.src = current.id ∨ edge.dst = current.id)
    (hcurrent : store.Answers current.id) (haccepted : (query.network store).Accepted search)
    (hfits : query.Fits search) (hends : store.EndsAnswer search) :
    Tracks store query ((query.network store).meet current search edge)
      (query.meetEdge store current search edge) := by
  unfold meetEdge
  by_cases hlimit :
      (((query.network store).recordEdge search.edges edge).length : ℤ) ≤ query.maxEdges
  · rw [recordEdge_of_fits hlimit, ok_bind]
    have hrecorded : Recorded store query current search edge :=
      ⟨hincident, hcurrent, haccepted, hends, hfits.nodes, hlimit⟩
    exact hrecorded.tracks
  · obtain ⟨error, hraise, herror⟩ := recordEdge_of_not_fits hfits.edges hlimit
    rw [hraise]
    apply Tracks.exceeded herror
    intro hexact
    have hedges := hexact.edges
    rw [Network.edges_meet] at hedges
    exact hlimit hedges

theorem tracks_foldlM (hincident : ∀ edge ∈ edges, edge.src = current.id ∨ edge.dst = current.id)
    (hcurrent : store.Answers current.id) (haccepted : (query.network store).Accepted search)
    (hfits : query.Fits search) (hends : store.EndsAnswer search) :
    Tracks store query (edges.foldl ((query.network store).meet current) search)
      (edges.foldlM (query.meetEdge store current) search) := by
  induction edges generalizing search with
  | nil => exact .done hfits hends
  | cons edge edges ih =>
      rw [List.foldlM_cons, List.foldl_cons]
      have hmeet := tracks_meetEdge (hincident edge List.mem_cons_self) hcurrent haccepted hfits
        hends
      apply hmeet.bind (Network.precedes_foldl_meet _ _ _ _)
      intro hfits hends
      exact ih (fun edge hedge => hincident edge (List.mem_cons_of_mem _ hedge))
        (haccepted.meet current edge) hfits hends

end Next

/-! ## Row limits -/

theorem edgesQuery_eq_take {column : Edge → String} {value : String}
    (hlimit : 0 < query.maxEdges) :
    store.edgesQuery column value query.edgeKinds (query.maxEdges + 1) =
      .ok ((query.selectedEdges store column value).take (query.maxEdges + 1).toNat) := by
  rw [edgesQuery_eq_ok store column value query.edgeKinds (by omega), selectedEdges,
    List.map_take]

theorem fetchOutgoing_eq (hlimit : 0 < query.maxEdges) (nodeId : String) :
    query.fetchOutgoing store nodeId =
      .ok ((query.outgoing store nodeId).take (query.maxEdges + 1).toNat) := by
  unfold fetchOutgoing outgoing
  by_cases hdirection : query.direction ∈ ["out", "both"]
  · rw [if_pos hdirection, if_pos hdirection, GraphStore.getEdgesFrom, edgesQuery_eq_take hlimit]
  · rw [if_neg hdirection, if_neg hdirection, List.take_nil]

theorem fetchIncoming_eq (hlimit : 0 < query.maxEdges) (nodeId : String) :
    query.fetchIncoming store nodeId =
      .ok ((query.incoming store nodeId).take (query.maxEdges + 1).toNat) := by
  unfold fetchIncoming incoming
  by_cases hdirection : query.direction ∈ ["in", "both"]
  · rw [if_pos hdirection, if_pos hdirection, GraphStore.getEdgesTo, edgesQuery_eq_take hlimit]
  · rw [if_neg hdirection, if_neg hdirection, List.take_nil]

theorem nodup_outgoing (nodeId : String) : (query.outgoing store nodeId).Nodup := by
  unfold outgoing
  by_cases hdirection : query.direction ∈ ["out", "both"]
  · rw [if_pos hdirection]
    exact nodup_selectedEdges store query _ _
  · rw [if_neg hdirection]
    exact List.nodup_nil

theorem nodup_incoming (nodeId : String) : (query.incoming store nodeId).Nodup := by
  unfold incoming
  by_cases hdirection : query.direction ∈ ["in", "both"]
  · rw [if_pos hdirection]
    exact nodup_selectedEdges store query _ _
  · rw [if_neg hdirection]
    exact List.nodup_nil

def fetchedEdges (store : GraphStore) (query : SubgraphQuery) (nodeId : String) : List Edge :=
  sortedBy GraphStore.edgeOrder
    ((query.outgoing store nodeId).take (query.maxEdges + 1).toNat ++
      (query.incoming store nodeId).take (query.maxEdges + 1).toNat)

theorem fetchedEdges_subset (nodeId : String) :
    query.fetchedEdges store nodeId ⊆ query.incidentEdges store nodeId := by
  intro edge hedge
  rw [fetchedEdges, mem_sortedBy, List.mem_append] at hedge
  rw [incidentEdges, mem_sortedBy, List.mem_append]
  exact hedge.imp List.mem_of_mem_take List.mem_of_mem_take

theorem fetchedEdges_cases (hlimit : 0 < query.maxEdges) (store : GraphStore)
    (nodeId : String) :
    query.fetchedEdges store nodeId = query.incidentEdges store nodeId ∨
      ∃ edges : List Edge, edges.Nodup ∧ edges ⊆ query.fetchedEdges store nodeId ∧
        query.maxEdges < edges.length := by
  by_cases hout : ((query.outgoing store nodeId).length : ℤ) ≤ query.maxEdges
  · by_cases hin : ((query.incoming store nodeId).length : ℤ) ≤ query.maxEdges
    · left
      rw [fetchedEdges, incidentEdges, List.take_of_length_le (by omega),
        List.take_of_length_le (by omega)]
    · right
      refine ⟨(query.incoming store nodeId).take (query.maxEdges + 1).toNat,
        (nodup_incoming nodeId).take, ?_, ?_⟩
      · intro edge hedge
        rw [fetchedEdges, mem_sortedBy]
        exact List.mem_append_right _ hedge
      · rw [List.length_take]
        omega
  · right
    refine ⟨(query.outgoing store nodeId).take (query.maxEdges + 1).toNat,
      (nodup_outgoing nodeId).take, ?_, ?_⟩
    · intro edge hedge
      rw [fetchedEdges, mem_sortedBy]
      exact List.mem_append_left _ hedge
    · rw [List.length_take]
      omega

theorem not_fits_of_subset (hnodup : edges.Nodup) (hsubset : edges ⊆ exact.edges)
    (hlt : query.maxEdges < edges.length) :
    ¬ query.Fits exact := by
  intro hfits
  have hlength := (hnodup.subperm hsubset).length_le
  have hedges := hfits.edges
  omega

theorem Tracks.of_cut {cut : Traversal} {outcome : GraphResult Traversal}
    (htracks : Tracks store query cut outcome) (hsubset : cut.edges ⊆ exact.edges)
    (hcut : ¬ query.Fits cut) (hexact : ¬ query.Fits exact) :
    Tracks store query exact outcome := by
  cases htracks with
  | done hfits hends => exact absurd hfits hcut
  | exceeded herror hfits => exact .exceeded herror hexact
  | unreadable herror hends =>
      exact .unreadable herror fun hafter => hends (EndsAnswer.of_subset hafter hsubset)

/-! ## The loop -/

section Loop

variable {seeds : List String} {expanded queue : List (Visit String GraphNode)}
  {search : Traversal} {current : Visit String GraphNode}

theorem tracks_fetched (hlimit : 0 < query.maxEdges)
    (hfrontier : (query.network store).Frontier seeds query.depth.toNat expanded search)
    (hcurrent : current ∈ search.visited) (hfits : query.Fits search)
    (hends : store.EndsAnswer search) :
    Tracks store query
      ((query.incidentEdges store current.id).foldl ((query.network store).meet current)
        { search with queue := queue })
      ((query.fetchedEdges store current.id).foldlM (query.meetEdge store current)
        { search with queue := queue }) := by
  have hshadow := hfrontier.unshadowed current.id
  have hsubset : query.fetchedEdges store current.id ⊆ query.incidentEdges store current.id :=
    fetchedEdges_subset current.id
  have hincident : ∀ edge ∈ query.fetchedEdges store current.id,
      edge.src = current.id ∨ edge.dst = current.id := by
    intro edge hedge
    have hmem := mem_incidentEdges.mp (hsubset hedge)
    exact hmem.2.imp And.right And.right
  have htracks : Tracks store query
      ((query.fetchedEdges store current.id).foldl ((query.network store).meet current)
        { search with queue := queue })
      ((query.fetchedEdges store current.id).foldlM (query.meetEdge store current)
        { search with queue := queue }) :=
    tracks_foldlM hincident (answers_of_accept (hfrontier.accepted current hcurrent))
      hfrontier.accepted ⟨hfits.nodes, hfits.edges⟩ hends
  obtain hall | ⟨edges, hnodup, hfetched, hlt⟩ :=
    fetchedEdges_cases hlimit store current.id
  · rwa [hall] at htracks ⊢
  · obtain ⟨found, hgrown⟩ := Network.exists_grown_foldl (query.network store) current
      { search with queue := queue } (query.incidentEdges store current.id) hshadow
    obtain ⟨found', hgrown'⟩ := Network.exists_grown_foldl (query.network store) current
      { search with queue := queue } (query.fetchedEdges store current.id)
      fun e he f hf => hshadow e (hsubset he) f (hf.imp_right fun hf => hsubset hf)
    have hedges : edges ⊆ ((query.fetchedEdges store current.id).foldl
        ((query.network store).meet current) { search with queue := queue }).edges :=
      fun e he => (hgrown'.edges e).mpr (.inr (hfetched he))
    have hcut := fun e he => (hgrown.edges e).mpr
      (((hgrown'.edges e).mp he).imp_right fun he => hsubset he)
    exact htracks.of_cut hcut (not_fits_of_subset hnodup hedges hlt)
      (not_fits_of_subset hnodup (fun e he => hcut e (hedges he)) hlt)

theorem tracks_expandCurrent (hdepth : 0 ≤ query.depth) (hlimit : 0 < query.maxEdges)
    (hfrontier : (query.network store).Frontier seeds query.depth.toNat expanded search)
    (hqueue : search.queue = current :: queue) (hfits : query.Fits search)
    (hends : store.EndsAnswer search) :
    Tracks store query ((query.network store).expand query.depth.toNat search)
      (query.expandCurrent store current { search with queue := queue }) := by
  have hcurrent : current ∈ search.visited := by
    apply hfrontier.mem_visited_of_mem_queue
    rw [hqueue]
    exact List.mem_cons_self
  unfold expandCurrent Network.expand
  simp only [hqueue]
  by_cases hreached : query.depth ≤ current.distance
  · rw [if_pos hreached, if_pos (by omega)]
    exact .done ⟨hfits.nodes, hfits.edges⟩ hends
  · rw [if_neg hreached, if_neg (by omega), fetchOutgoing_eq hlimit, ok_bind,
      fetchIncoming_eq hlimit, ok_bind]
    exact tracks_fetched hlimit hfrontier hcurrent hfits hends

theorem tracks_traverse (hdepth : 0 ≤ query.depth) (hlimit : 0 < query.maxEdges)
    (hfrontier : (query.network store).Frontier seeds query.depth.toNat expanded search)
    (hfits : query.Fits search) (hends : store.EndsAnswer search) (fuel : ℕ) :
    Tracks store query ((query.network store).run query.depth.toNat fuel search)
      (query.traverse store fuel search) := by
  induction fuel generalizing expanded search with
  | zero => exact .done hfits hends
  | succ fuel ih =>
      unfold traverse Network.run
      cases hqueue : search.queue with
      | nil => exact .done hfits hends
      | cons current queue =>
          have hstep := tracks_expandCurrent hdepth hlimit hfrontier hqueue hfits hends
          apply hstep.bind (Network.precedes_run _ _ _ _)
          intro hfits hends
          exact ih (hfrontier.expand hqueue) hfits hends

end Loop

end Tracks

end SubgraphQuery

end SuitCode
