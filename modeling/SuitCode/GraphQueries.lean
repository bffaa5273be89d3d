import SuitCode.GraphStore
import SuitCode.Library.BreadthFirst
import SuitCode.Library.PythonRepr

/-!
# Subgraph queries

A query walks breadth first from its seeds.  It records every edge it fetches
before it looks at the node behind the edge, which it visits where the node is
stored and of a selected kind.  The nodes, edges and evidence it has collected
are handed to a subgraph, which checks its own integrity.
-/

namespace SuitCode

open BreadthFirst KeyedList PythonRepr

/-! ## Subgraphs -/

structure Subgraph where
  nodes : List (String × GraphNode)
  edges : List Edge
  evidence : List (String × Evidence)
  deriving DecidableEq, Repr

namespace Subgraph

/-- `sorted(set(ids) - set(self.evidence))`. -/
def missingEvidence (subgraph : Subgraph) (ids : List String) : List String :=
  sortedBy id ((dedupeBy id ids).filter fun id => id ∉ subgraph.evidence.map Prod.fst)

def checkNode (subgraph : Subgraph) (node : GraphNode) : GraphResult Unit :=
  match subgraph.missingEvidence node.evidenceIds with
  | [] => .ok ()
  | missing =>
      .error (.integrityError
        ("node " ++ node.id ++ " references missing evidence: " ++ pyReprList missing)
        "Include all referenced evidence in Subgraph.evidence.")

def edgeText (edge : Edge) : String := edge.kind.value ++ ":" ++ edge.src ++ "->" ++ edge.dst

def checkEdge (subgraph : Subgraph) (edge : Edge) : GraphResult Unit :=
  if edge.src ∉ subgraph.nodes.map Prod.fst ∨ edge.dst ∉ subgraph.nodes.map Prod.fst then
    .error (.integrityError ("edge " ++ edgeText edge ++ " references missing endpoint")
      "Ensure both src and dst nodes are included in Subgraph.nodes.")
  else
    match subgraph.missingEvidence edge.evidenceIds with
    | [] => .ok ()
    | missing =>
        .error (.integrityError
          ("edge " ++ edgeText edge ++ " references missing evidence: " ++ pyReprList missing)
          "Include all referenced evidence in Subgraph.evidence.")

def validateIntegrity (subgraph : Subgraph) : GraphResult Subgraph :=
  if subgraph.nodes.map Prod.fst ≠ sortedBy id (subgraph.nodes.map Prod.fst) then
    .error (.integrityError "nodes must be sorted by node id"
      "Sort node keys lexicographically before building Subgraph.")
  else if subgraph.evidence.map Prod.fst ≠ sortedBy id (subgraph.evidence.map Prod.fst) then
    .error (.integrityError "evidence must be sorted by evidence id"
      "Sort evidence keys lexicographically before building Subgraph.")
  else if subgraph.edges ≠ sortedBy GraphStore.edgeOrder subgraph.edges then
    .error (.integrityError "edges must be sorted by (kind, src, dst)"
      "Sort edges deterministically before creating Subgraph.")
  else do
    let _ ← subgraph.nodes.mapM fun entry => subgraph.checkNode entry.2
    let _ ← subgraph.edges.mapM subgraph.checkEdge
    pure subgraph

end Subgraph

/-! ## The walk -/

structure SubgraphQuery where
  depth : ℤ
  edgeKinds : Option (List EdgeKind)
  nodeKinds : Option (List GraphNodeKind)
  maxNodes : ℤ
  maxEdges : ℤ
  direction : String
  deriving DecidableEq, Repr

/-- `distance` and `nodes` as one list of visits, `edge_keys` and `edge_map` as
one list of edges, both in the order of insertion. -/
abbrev Traversal := Search String Edge GraphNode

/-- `not (node_kinds and kind not in node_kinds)`. -/
def selectsNodeKind (kinds : Option (List GraphNodeKind)) (kind : GraphNodeKind) : Bool :=
  match kinds with
  | none => true
  | some kinds => kinds.isEmpty || kind ∈ kinds

def raiseIfExceeds (maxValue : ℤ) (observed : ℕ) (what : String) : GraphResult Unit :=
  if maxValue < observed then
    .error (.queryLimitError
      ("query exceeded " ++ what ++ " limit: " ++ toString observed ++ ">" ++ toString maxValue)
      "Increase max limits or narrow query parameters.")
  else
    .ok ()

/-- `edge.dst if edge.src == current else edge.src`. -/
def nextNodeId (current : String) (edge : Edge) : String :=
  if edge.src = current then edge.dst else edge.src

namespace SubgraphQuery

def visitSeed (store : GraphStore) (query : SubgraphQuery)
    (visited : List (Visit String GraphNode)) (seedId : String) :
    GraphResult (List (Visit String GraphNode)) := do
  let node ← store.getNode seedId
  if selectsNodeKind query.nodeKinds node.kind && seedId ∉ visited.map Visit.id then
    pure (visited ++ [⟨seedId, 0, node⟩])
  else
    pure visited

def fetchOutgoing (store : GraphStore) (query : SubgraphQuery) (nodeId : String) :
    GraphResult (List Edge) :=
  if query.direction ∈ ["out", "both"] then
    store.getEdgesFrom nodeId query.edgeKinds (query.maxEdges + 1)
  else
    .ok []

def fetchIncoming (store : GraphStore) (query : SubgraphQuery) (nodeId : String) :
    GraphResult (List Edge) :=
  if query.direction ∈ ["in", "both"] then
    store.getEdgesTo nodeId query.edgeKinds (query.maxEdges + 1)
  else
    .ok []

def recordEdge (query : SubgraphQuery) (edges : List Edge) (edge : Edge) :
    GraphResult (List Edge) :=
  if GraphStore.edgeOrder edge ∈ edges.map GraphStore.edgeOrder then
    .ok edges
  else do
    raiseIfExceeds query.maxEdges (edges.length + 1) "edge"
    pure (edges ++ [edge])

def visitNext (store : GraphStore) (query : SubgraphQuery) (current : Visit String GraphNode)
    (search : Traversal) (nodeId : String) : GraphResult Traversal :=
  if nodeId ∈ search.visited.map Visit.id then
    .ok search
  else
    match store.getNode nodeId with
    | .error (.notFoundError _ _) => .ok search
    | .error error => .error error
    | .ok node =>
        if selectsNodeKind query.nodeKinds node.kind then do
          let visit := ⟨nodeId, current.distance + 1, node⟩
          raiseIfExceeds query.maxNodes (search.visited.length + 1) "node"
          pure ⟨search.visited ++ [visit], search.edges, search.queue ++ [visit]⟩
        else
          .ok search

def meetEdge (store : GraphStore) (query : SubgraphQuery) (current : Visit String GraphNode)
    (search : Traversal) (edge : Edge) : GraphResult Traversal := do
  let edges ← query.recordEdge search.edges edge
  query.visitNext store current { search with edges := edges } (nextNodeId current.id edge)

def expandCurrent (store : GraphStore) (query : SubgraphQuery)
    (current : Visit String GraphNode) (search : Traversal) : GraphResult Traversal :=
  if query.depth ≤ current.distance then
    .ok search
  else do
    let outgoing ← query.fetchOutgoing store current.id
    let incoming ← query.fetchIncoming store current.id
    (sortedBy GraphStore.edgeOrder (outgoing ++ incoming)).foldlM
      (query.meetEdge store current) search

/-- `while queue:`.  No more nodes are popped than are stored, which bounds the fuel. -/
def traverse (store : GraphStore) (query : SubgraphQuery) : ℕ → Traversal → GraphResult Traversal
  | 0, search => .ok search
  | fuel + 1, search =>
      match search.queue with
      | [] => .ok search
      | current :: queue => do
          let search ← query.expandCurrent store current { search with queue := queue }
          query.traverse store fuel search

end SubgraphQuery

def collectEvidence (store : GraphStore) (evidence : List (String × Evidence))
    (evidenceId : String) : GraphResult (List (String × Evidence)) :=
  if evidenceId ∈ evidence.map Prod.fst then
    .ok evidence
  else do
    let found ← store.getEvidence evidenceId
    pure (evidence ++ [(evidenceId, found)])

def sortedSubgraph (search : Traversal) (evidence : List (String × Evidence)) : Subgraph where
  nodes := (sortedBy Visit.id search.visited).map fun visit => (visit.id, visit.value)
  edges := sortedBy GraphStore.edgeOrder search.edges
  evidence := sortedBy Prod.fst evidence

def querySubgraphBfs (store : GraphStore) (seedIds : List String) (query : SubgraphQuery) :
    GraphResult Subgraph :=
  if query.depth < 0 then
    liftPy (raiseValueError "depth must be >= 0")
  else if query.maxNodes ≤ 0 ∨ query.maxEdges ≤ 0 then
    liftPy (raiseValueError "max_nodes and max_edges must be > 0")
  else do
    let visited ← (sortedBy id seedIds).foldlM (query.visitSeed store) []
    raiseIfExceeds query.maxNodes visited.length "node"
    let search ← query.traverse store store.current.nodes.rows.length
      ⟨visited, [], sortedBy Visit.id visited⟩
    let evidence ←
      (search.visited.flatMap (fun visit => visit.value.evidenceIds) ++
        search.edges.flatMap Edge.evidenceIds).foldlM (collectEvidence store) []
    (sortedSubgraph search evidence).validateIntegrity

/-! ## The queries of the workspace graph -/

def querySubgraph (store : GraphStore) (seedIds : List String) (depth : ℤ)
    (edgeKinds : Option (List EdgeKind)) (nodeKinds : Option (List GraphNodeKind))
    (maxNodes maxEdges : ℤ) : GraphResult Subgraph :=
  querySubgraphBfs store seedIds ⟨depth, edgeKinds, nodeKinds, maxNodes, maxEdges, "both"⟩

def queryDependents (store : GraphStore) (nodeId : String) (depth maxNodes maxEdges : ℤ) :
    GraphResult Subgraph :=
  querySubgraphBfs store [nodeId] ⟨depth, some [.dependsOn], none, maxNodes, maxEdges, "in"⟩

def queryDependencies (store : GraphStore) (nodeId : String) (depth maxNodes maxEdges : ℤ) :
    GraphResult Subgraph :=
  querySubgraphBfs store [nodeId] ⟨depth, some [.dependsOn], none, maxNodes, maxEdges, "out"⟩

end SuitCode
