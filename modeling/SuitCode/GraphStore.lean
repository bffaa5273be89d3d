import SuitCode.GraphSerialization

/-!
# The workspace graph store

Three tables behind one connection.  A statement which writes opens a
transaction when none is open, also when it affects no row; `BEGIN` inside an
open transaction is an error.  A refresh runs a writer and then drops the rows
of its scope which the writer has not upserted.  Over the store stand the
operations of the workspace graph, which commit on their success path.
-/

namespace SuitCode

open KeyedList KeyedTable

/-! ## Tables -/

/-- A row of the nodes table: its columns are functions of the node. -/
structure NodeRow where
  node : GraphNode
  scope : String
  deriving DecidableEq, Repr

namespace NodeRow

def id (row : NodeRow) : String := row.node.id

def kind (row : NodeRow) : GraphNodeKind := row.node.kind

def payloadJson (row : NodeRow) : String := nodePayloadJson row.node

end NodeRow

structure EdgeRow where
  edge : Edge
  scope : String
  deriving DecidableEq, Repr

namespace EdgeRow

def key (row : EdgeRow) : EdgeKey := edgeKey row.edge

def payloadJson (row : EdgeRow) : String := edgePayloadJson row.edge

end EdgeRow

structure EvidenceRow where
  evidence : Evidence
  scope : String
  deriving DecidableEq, Repr

namespace EvidenceRow

def id (row : EvidenceRow) : String := row.evidence.id

def payloadJson (row : EvidenceRow) : String := evidencePayloadJson row.evidence

end EvidenceRow

structure Tables where
  nodes : KeyedTable NodeRow.id
  edges : KeyedTable EdgeRow.key
  evidence : KeyedTable EvidenceRow.id
  deriving DecidableEq

def Tables.empty : Tables := ⟨.empty, .empty, .empty⟩

/-! ## The connection -/

/-- The committed tables, and those of the open transaction. -/
structure GraphStore where
  committed : Tables
  transaction : Option Tables
  deriving DecidableEq

namespace GraphStore

def empty : GraphStore := ⟨.empty, none⟩

def current (store : GraphStore) : Tables := store.transaction.getD store.committed

/-- `INSERT`, `UPDATE` or `DELETE`. -/
def execute (store : GraphStore) (change : Tables → Tables) : GraphStore :=
  { store with transaction := some (change store.current) }

/-- `BEGIN IMMEDIATE`. -/
def begin (store : GraphStore) : GraphResult Unit × GraphStore :=
  match store.transaction with
  | some _ =>
      (.error (.operationalError "cannot start a transaction within a transaction"), store)
  | none => (.ok (), { store with transaction := some store.committed })

def commit (store : GraphStore) : GraphStore := ⟨store.current, none⟩

def rollback (store : GraphStore) : GraphStore := { store with transaction := none }

/-! ## Writing -/

def upsertNode (store : GraphStore) (node : GraphNode) (scope : String) : GraphStore :=
  store.execute fun tables => { tables with nodes := tables.nodes.upsert ⟨node, scope⟩ }

def upsertEdge (store : GraphStore) (edge : Edge) (scope : String) : GraphStore :=
  store.execute fun tables => { tables with edges := tables.edges.upsert ⟨edge, scope⟩ }

def upsertEvidence (store : GraphStore) (evidence : Evidence) (scope : String) : GraphStore :=
  store.execute fun tables => { tables with evidence := tables.evidence.upsert ⟨evidence, scope⟩ }

/-- `SELECT 1 FROM edges WHERE src = ? OR dst = ?`. -/
def isReferenced (store : GraphStore) (nodeId : String) : Bool :=
  store.current.edges.rows.any fun row => row.edge.src = nodeId || row.edge.dst = nodeId

def deleteNode (store : GraphStore) (nodeId : String) : GraphResult Unit × GraphStore :=
  if store.isReferenced nodeId then
    (.error (.storeError ("cannot delete node " ++ nodeId ++ "; edges still reference it")
      "Delete referencing edges first."), store)
  else
    let deleted := store.execute fun tables => { tables with nodes := tables.nodes.delete nodeId }
    if store.current.nodes.HasKey nodeId then
      (.ok (), deleted)
    else
      (.error (.notFoundError ("node not found: " ++ nodeId) "Check node id before deletion."),
        deleted)

def deleteEdge (store : GraphStore) (src : String) (kind : EdgeKind) (dst : String) :
    GraphResult Unit × GraphStore :=
  let deleted := store.execute fun tables =>
    { tables with edges := tables.edges.delete (src, kind, dst) }
  if store.current.edges.HasKey (src, kind, dst) then
    (.ok (), deleted)
  else
    (.error (.notFoundError ("edge not found: " ++ kind.value ++ ":" ++ src ++ "->" ++ dst)
      "Check edge key before deletion."), deleted)

def scopeNodeIds (store : GraphStore) (scope : String) : List String :=
  (store.current.nodes.rows.filter fun row => row.scope = scope).map NodeRow.id

def scopeEdges (store : GraphStore) (scope : String) : List EdgeKey :=
  (store.current.edges.rows.filter fun row => row.scope = scope).map EdgeRow.key

def scopeEvidenceIds (store : GraphStore) (scope : String) : List String :=
  (store.current.evidence.rows.filter fun row => row.scope = scope).map EvidenceRow.id

/-- One `DELETE` for every edge of the scope which has not been seen. -/
def purgeEdges (store : GraphStore) (scope : String) (seen : List EdgeKey) : GraphStore :=
  ((store.scopeEdges scope).filter fun key => key ∉ seen).foldl
    (fun store key => store.execute fun tables => { tables with edges := tables.edges.delete key })
    store

def purgeNodes (store : GraphStore) (scope : String) (seen : List String) : GraphStore :=
  ((store.scopeNodeIds scope).filter fun id => id ∉ seen).foldl
    (fun store id => store.execute fun tables => { tables with nodes := tables.nodes.delete id })
    store

def purgeEvidence (store : GraphStore) (scope : String) (seen : List String) : GraphStore :=
  ((store.scopeEvidenceIds scope).filter fun id => id ∉ seen).foldl
    (fun store id => store.execute fun tables =>
      { tables with evidence := tables.evidence.delete id })
    store

def purgeScopeNotSeen (store : GraphStore) (scope : String) (seenNodeIds : List String)
    (seenEdgeKeys : List EdgeKey) (seenEvidenceIds : List String) : GraphStore :=
  ((store.purgeEdges scope seenEdgeKeys).purgeNodes scope seenNodeIds).purgeEvidence scope
    seenEvidenceIds

/-! ## Reading -/

def getNode (store : GraphStore) (nodeId : String) : GraphResult GraphNode :=
  match store.current.nodes.lookup nodeId with
  | none => .error (.notFoundError ("node not found: " ++ nodeId) "Check node id before lookup.")
  | some row => nodeOfPayload row.payloadJson

def getEvidence (store : GraphStore) (evidenceId : String) : GraphResult Evidence :=
  match store.current.evidence.lookup evidenceId with
  | none =>
      .error (.notFoundError ("evidence not found: " ++ evidenceId)
        "Check evidence id before lookup.")
  | some row => evidenceOfPayload row.payloadJson

/-- `if kinds:`: neither `None` nor the empty set filters. -/
def selectsKind (kinds : Option (List EdgeKind)) (kind : EdgeKind) : Bool :=
  match kinds with
  | none => true
  | some kinds => kinds.isEmpty || kind ∈ kinds

/-- `(kind, src, dst)`, in the order of the texts. -/
def edgeOrder (edge : Edge) : String ×ₗ String ×ₗ String :=
  toLex (edge.kind.value, toLex (edge.src, edge.dst))

/-- `SELECT payload_json FROM edges WHERE {column} = ? ... ORDER BY kind, src, dst LIMIT ?`, for
a limit below `2 ^ 63`, from which on `sqlite3` binds no integer. -/
def edgesQuery (store : GraphStore) (column : Edge → String) (value : String)
    (kinds : Option (List EdgeKind)) (limit : ℤ) : GraphResult (List Edge) :=
  if limit ≤ 0 then
    .ok []
  else
    let rows := store.current.edges.rows.filter fun row =>
      column row.edge = value && selectsKind kinds row.edge.kind
    ((sortedBy (fun row => edgeOrder row.edge) rows).take limit.toNat).mapM fun row =>
      edgeOfPayload row.payloadJson

def getEdgesFrom (store : GraphStore) (src : String) (kinds : Option (List EdgeKind))
    (limit : ℤ) : GraphResult (List Edge) :=
  store.edgesQuery Edge.src src kinds limit

def getEdgesTo (store : GraphStore) (dst : String) (kinds : Option (List EdgeKind))
    (limit : ℤ) : GraphResult (List Edge) :=
  store.edgesQuery Edge.dst dst kinds limit

end GraphStore

/-! ## Scopes -/

def isScopeChar (c : Char) : Bool := c.isAlphanum || c = '_' || c = '.' || c = '-'

def isScopePart (part : List Char) : Bool := part ≠ [] && part.all isScopeChar

/-- `SCOPE_PATTERN.fullmatch`: three parts between colons, the first `provider`. -/
def matchesScopePattern (scope : String) : Bool :=
  match scope.toList.splitOn ':' with
  | [provider, name, profile] =>
      provider = ['p', 'r', 'o', 'v', 'i', 'd', 'e', 'r'] && isScopePart name &&
        isScopePart profile
  | _ => false

def validateScope (scope : String) : GraphResult Unit :=
  if matchesScopePattern scope then
    .ok ()
  else
    .error (.scopeError ("invalid scope format: " ++ scope)
      "Use 'provider:<name>:<profile>' scope format.")

/-! ## Refreshes -/

inductive Write where
  | node (node : GraphNode)
  | edge (edge : Edge)
  | evidence (evidence : Evidence)
  deriving DecidableEq, Repr

structure GraphWriter where
  store : GraphStore
  scope : String
  seenNodeIds : List String
  seenEdgeKeys : List EdgeKey
  seenEvidenceIds : List String

def GraphWriter.perform (writer : GraphWriter) : Write → GraphWriter
  | .node node =>
      { writer with
        store := writer.store.upsertNode node writer.scope
        seenNodeIds := writer.seenNodeIds ++ [node.id] }
  | .edge edge =>
      { writer with
        store := writer.store.upsertEdge edge writer.scope
        seenEdgeKeys := writer.seenEdgeKeys ++ [edgeKey edge] }
  | .evidence evidence =>
      { writer with
        store := writer.store.upsertEvidence evidence writer.scope
        seenEvidenceIds := writer.seenEvidenceIds ++ [evidence.id] }

inductive WriterEnd where
  | returns
  /-- It raises an `Exception`. -/
  | raises (name : String)
  /-- It raises a `BaseException` which is not an `Exception`. -/
  | interrupted (name : String)
  deriving DecidableEq, Repr

/-- What a writer function does: its upserts in order, and how it ends. -/
structure WriterFn where
  writes : List Write
  ending : WriterEnd
  deriving DecidableEq, Repr

structure RefreshSnapshot where
  seenNodeIds : List String
  seenEdgeKeys : List EdgeKey
  seenEvidenceIds : List String
  deriving DecidableEq, Repr

def GraphWriter.run (store : GraphStore) (scope : String) (writes : List Write) : GraphWriter :=
  writes.foldl GraphWriter.perform ⟨store, scope, [], [], []⟩

def runRefresh (store : GraphStore) (scope : String) (writerFn : WriterFn) :
    GraphResult RefreshSnapshot × GraphStore :=
  match validateScope scope with
  | .error error => (.error error, store)
  | .ok () =>
      match store.begin with
      | (.error error, store) => (.error error, store)
      | (.ok (), store) =>
          let writer := GraphWriter.run store scope writerFn.writes
          match writerFn.ending with
          | .returns =>
              (.ok ⟨writer.seenNodeIds, writer.seenEdgeKeys, writer.seenEvidenceIds⟩,
                (writer.store.purgeScopeNotSeen scope writer.seenNodeIds writer.seenEdgeKeys
                  writer.seenEvidenceIds).commit)
          | .raises name => (.error (.raised name), writer.store.rollback)
          -- `except Exception` lets it pass: nothing is rolled back
          | .interrupted name => (.error (.raised name), writer.store)

/-! ## The workspace graph -/

inductive GraphOperation where
  | addOrUpdateNode (node : GraphNode) (scope : String)
  | addOrUpdateEdge (edge : Edge) (scope : String)
  | addOrUpdateEvidence (evidence : Evidence) (scope : String)
  | removeNode (nodeId : String)
  | removeEdge (src : String) (kind : EdgeKind) (dst : String)
  | refresh (scope : String) (writerFn : WriterFn)

def addOrUpdate (store : GraphStore) (scope : String) (write : GraphStore → GraphStore) :
    GraphResult Unit × GraphStore :=
  match validateScope scope with
  | .error error => (.error error, store)
  | .ok () => (.ok (), (write store).commit)

def commitRemoval : GraphResult Unit × GraphStore → GraphResult Unit × GraphStore
  | (.error error, store) => (.error error, store)
  | (.ok (), store) => (.ok (), store.commit)

def GraphOperation.run (store : GraphStore) : GraphOperation → GraphResult Unit × GraphStore
  | .addOrUpdateNode node scope => addOrUpdate store scope fun store => store.upsertNode node scope
  | .addOrUpdateEdge edge scope => addOrUpdate store scope fun store => store.upsertEdge edge scope
  | .addOrUpdateEvidence evidence scope =>
      addOrUpdate store scope fun store => store.upsertEvidence evidence scope
  | .removeNode nodeId => commitRemoval (store.deleteNode nodeId)
  | .removeEdge src kind dst => commitRemoval (store.deleteEdge src kind dst)
  | .refresh scope writerFn =>
      match runRefresh store scope writerFn with
      | (.error error, store) => (.error error, store)
      | (.ok _, store) => (.ok (), store)

end SuitCode
