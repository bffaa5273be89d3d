import SuitCode.GraphStore

/-!
# What the store operations do to the tables

A refresh on a closed connection replaces, in each of the three tables, the
rows of its scope by those its writer has written.
-/

namespace SuitCode

open KeyedTable

namespace GraphStore

@[simp] theorem current_execute (store : GraphStore) (change : Tables → Tables) :
    (store.execute change).current = change store.current := rfl

@[simp] theorem committed_execute (store : GraphStore) (change : Tables → Tables) :
    (store.execute change).committed = store.committed := rfl

@[simp] theorem transaction_execute (store : GraphStore) (change : Tables → Tables) :
    (store.execute change).transaction = some (change store.current) := rfl

@[simp] theorem current_commit (store : GraphStore) : store.commit.current = store.current := rfl

@[simp] theorem committed_commit (store : GraphStore) :
    store.commit.committed = store.current := rfl

@[simp] theorem transaction_commit (store : GraphStore) : store.commit.transaction = none := rfl

@[simp] theorem current_rollback (store : GraphStore) :
    store.rollback.current = store.committed := rfl

@[simp] theorem committed_rollback (store : GraphStore) :
    store.rollback.committed = store.committed := rfl

@[simp] theorem transaction_rollback (store : GraphStore) :
    store.rollback.transaction = none := rfl

theorem current_of_closed {store : GraphStore} (hclosed : store.transaction = none) :
    store.current = store.committed := by
  simp [current, hclosed]

theorem begin_eq_ok_iff {store : GraphStore} :
    store.begin.1 = .ok () ↔ store.transaction = none := by
  cases hopen : store.transaction <;> simp [begin, hopen]

theorem begin_of_closed {store : GraphStore} (hclosed : store.transaction = none) :
    store.begin = (.ok (), ⟨store.committed, some store.committed⟩) := by
  simp [begin, hclosed]

/-! ## Bulk deletions -/

theorem foldl_execute {α : Type} (items : List α) (change : α → Tables → Tables)
    (committed tables : Tables) :
    items.foldl (fun (store : GraphStore) item => store.execute (change item))
        ⟨committed, some tables⟩ =
      ⟨committed, some (items.foldl (fun tables item => change item tables) tables)⟩ := by
  induction items generalizing tables with
  | nil => rfl
  | cons item items ih => exact ih (change item tables)

theorem foldl_delete_edges (keys : List EdgeKey) (tables : Tables) :
    keys.foldl (fun tables key => { tables with edges := tables.edges.delete key }) tables =
      { tables with edges := tables.edges.deleteAll keys } := by
  induction keys generalizing tables with
  | nil => rfl
  | cons key keys ih => exact ih _

theorem foldl_delete_nodes (ids : List String) (tables : Tables) :
    ids.foldl (fun tables id => { tables with nodes := tables.nodes.delete id }) tables =
      { tables with nodes := tables.nodes.deleteAll ids } := by
  induction ids generalizing tables with
  | nil => rfl
  | cons id ids ih => exact ih _

theorem foldl_delete_evidence (ids : List String) (tables : Tables) :
    ids.foldl (fun tables id => { tables with evidence := tables.evidence.delete id }) tables =
      { tables with evidence := tables.evidence.deleteAll ids } := by
  induction ids generalizing tables with
  | nil => rfl
  | cons id ids ih => exact ih _

end GraphStore

/-! ## What a writer has written -/

def writtenNodes (scope : String) (writes : List Write) : List NodeRow :=
  writes.filterMap fun write =>
    match write with
    | .node node => some ⟨node, scope⟩
    | _ => none

def writtenEdges (scope : String) (writes : List Write) : List EdgeRow :=
  writes.filterMap fun write =>
    match write with
    | .edge edge => some ⟨edge, scope⟩
    | _ => none

def writtenEvidence (scope : String) (writes : List Write) : List EvidenceRow :=
  writes.filterMap fun write =>
    match write with
    | .evidence evidence => some ⟨evidence, scope⟩
    | _ => none

theorem scope_of_mem_writtenNodes {scope : String} {writes : List Write} {row : NodeRow}
    (hrow : row ∈ writtenNodes scope writes) : row.scope = scope := by
  rw [writtenNodes, List.mem_filterMap] at hrow
  obtain ⟨write, -, hwrite⟩ := hrow
  cases write <;> simp at hwrite
  rw [← hwrite]

theorem scope_of_mem_writtenEdges {scope : String} {writes : List Write} {row : EdgeRow}
    (hrow : row ∈ writtenEdges scope writes) : row.scope = scope := by
  rw [writtenEdges, List.mem_filterMap] at hrow
  obtain ⟨write, -, hwrite⟩ := hrow
  cases write <;> simp at hwrite
  rw [← hwrite]

theorem scope_of_mem_writtenEvidence {scope : String} {writes : List Write}
    {row : EvidenceRow} (hrow : row ∈ writtenEvidence scope writes) : row.scope = scope := by
  rw [writtenEvidence, List.mem_filterMap] at hrow
  obtain ⟨write, -, hwrite⟩ := hrow
  cases write <;> simp at hwrite
  rw [← hwrite]

namespace Tables

def written (tables : Tables) (scope : String) (writes : List Write) : Tables where
  nodes := tables.nodes.upsertAll (writtenNodes scope writes)
  edges := tables.edges.upsertAll (writtenEdges scope writes)
  evidence := tables.evidence.upsertAll (writtenEvidence scope writes)

def refreshed (tables : Tables) (scope : String) (writes : List Write) : Tables where
  nodes := tables.nodes.replaceOwned (fun row => row.scope = scope) (writtenNodes scope writes)
  edges := tables.edges.replaceOwned (fun row => row.scope = scope) (writtenEdges scope writes)
  evidence :=
    tables.evidence.replaceOwned (fun row => row.scope = scope) (writtenEvidence scope writes)

end Tables

/-- What a writer leaves behind: the tables with its rows, and the ids it has written. -/
theorem GraphWriter.run_eq (committed tables : Tables) (scope : String) (writes : List Write) :
    GraphWriter.run ⟨committed, some tables⟩ scope writes =
      ⟨⟨committed, some (tables.written scope writes)⟩, scope,
        (writtenNodes scope writes).map NodeRow.id, (writtenEdges scope writes).map EdgeRow.key,
        (writtenEvidence scope writes).map EvidenceRow.id⟩ := by
  induction writes using List.reverseRecOn with
  | nil => rfl
  | append_singleton writes write ih =>
      rw [GraphWriter.run] at ih ⊢
      rw [List.foldl_append, ih]
      cases write with
      | node node =>
          simp [perform, GraphStore.upsertNode, GraphStore.execute, GraphStore.current,
            writtenNodes, writtenEdges, writtenEvidence, Tables.written, upsertAll, NodeRow.id]
      | edge edge =>
          simp [perform, GraphStore.upsertEdge, GraphStore.execute, GraphStore.current,
            writtenNodes, writtenEdges, writtenEvidence, Tables.written, upsertAll, EdgeRow.key]
      | evidence evidence =>
          simp [perform, GraphStore.upsertEvidence, GraphStore.execute, GraphStore.current,
            writtenNodes, writtenEdges, writtenEvidence, Tables.written, upsertAll,
            EvidenceRow.id]

theorem purge_written (committed tables : Tables) (scope : String) (writes : List Write) :
    GraphStore.purgeScopeNotSeen ⟨committed, some (tables.written scope writes)⟩ scope
        ((writtenNodes scope writes).map NodeRow.id) ((writtenEdges scope writes).map EdgeRow.key)
        ((writtenEvidence scope writes).map EvidenceRow.id) =
      ⟨committed, some (tables.refreshed scope writes)⟩ := by
  simp only [GraphStore.purgeScopeNotSeen, GraphStore.purgeEdges, GraphStore.purgeNodes,
    GraphStore.purgeEvidence, GraphStore.scopeEdges, GraphStore.scopeNodeIds,
    GraphStore.scopeEvidenceIds, GraphStore.current, Option.getD_some, GraphStore.foldl_execute,
    GraphStore.foldl_delete_edges, GraphStore.foldl_delete_nodes,
    GraphStore.foldl_delete_evidence, Tables.refreshed, replaceOwned, Tables.written]
  congr
  funext key
  exact decide_eq_decide.mpr Iff.rfl

/-! ## A refresh, case by case -/

section Refresh

variable {store : GraphStore} {scope : String} {writerFn : WriterFn}

theorem validateScope_cases (scope : String) :
    validateScope scope = .ok () ∨ ∃ error, validateScope scope = .error error := by
  cases hscope : validateScope scope with
  | ok => exact .inl rfl
  | error error => exact .inr ⟨error, rfl⟩

theorem runRefresh_of_invalid {error : GraphException}
    (hscope : validateScope scope = .error error) :
    runRefresh store scope writerFn = (.error error, store) := by
  simp [runRefresh, hscope]

theorem runRefresh_of_open (hscope : validateScope scope = .ok ())
    (hopen : store.transaction ≠ none) :
    runRefresh store scope writerFn =
      (.error (.operationalError "cannot start a transaction within a transaction"), store) := by
  cases htransaction : store.transaction with
  | none => exact absurd htransaction hopen
  | some tables => simp [runRefresh, hscope, GraphStore.begin, htransaction]

theorem runRefresh_of_closed (hscope : validateScope scope = .ok ())
    (hclosed : store.transaction = none) :
    runRefresh store scope writerFn =
      match writerFn.ending with
      | .returns =>
          (.ok ⟨(writtenNodes scope writerFn.writes).map NodeRow.id,
              (writtenEdges scope writerFn.writes).map EdgeRow.key,
              (writtenEvidence scope writerFn.writes).map EvidenceRow.id⟩,
            ⟨store.committed.refreshed scope writerFn.writes, none⟩)
      | .raises name => (.error (.raised name), store)
      | .interrupted name =>
          (.error (.raised name),
            ⟨store.committed, some (store.committed.written scope writerFn.writes)⟩) := by
  have hbegin := GraphStore.begin_of_closed hclosed
  simp only [runRefresh, hscope, hbegin, GraphWriter.run_eq]
  cases writerFn.ending with
  | returns => simp only [purge_written]; rfl
  | raises name =>
      obtain ⟨committed, transaction⟩ := store
      subst hclosed
      rfl
  | interrupted name => rfl

theorem runRefresh_eq_ok {snapshot : RefreshSnapshot} {after : GraphStore}
    (hok : runRefresh store scope writerFn = (.ok snapshot, after)) :
    validateScope scope = .ok () ∧ store.transaction = none ∧ writerFn.ending = .returns ∧
      after = ⟨store.committed.refreshed scope writerFn.writes, none⟩ := by
  rcases validateScope_cases scope with hscope | ⟨error, hscope⟩
  · by_cases hclosed : store.transaction = none
    · rw [runRefresh_of_closed hscope hclosed] at hok
      cases hending : writerFn.ending with
      | returns =>
          simp only [hending, Prod.mk.injEq] at hok
          exact ⟨hscope, hclosed, rfl, hok.2.symm⟩
      | raises name => simp [hending] at hok
      | interrupted name => simp [hending] at hok
    · rw [runRefresh_of_open hscope hclosed] at hok
      simp at hok
  · rw [runRefresh_of_invalid hscope] at hok
    simp at hok

end Refresh

end SuitCode
