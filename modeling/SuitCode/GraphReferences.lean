import SuitCode.GraphRefresh
import SuitCode.Library.Runs

/-!
# Referential integrity of the committed graph

Single deletions refuse a node which an edge references.  A refresh drops the
nodes of its scope without looking at the edges of other scopes, and this is
the only way in which a grounded run leaves an edge without an endpoint.
-/

namespace SuitCode

open KeyedTable Runs

inductive StoreOperation where
  | upsertNode (node : GraphNode) (scope : String)
  | upsertEdge (edge : Edge) (scope : String)
  | upsertEvidence (evidence : Evidence) (scope : String)
  | deleteNode (nodeId : String)
  | deleteEdge (src : String) (kind : EdgeKind) (dst : String)
  | begin
  | commit
  | rollback
  | refresh (scope : String) (writerFn : WriterFn)

/-- The store behind an operation, whether it returns or raises. -/
def StoreOperation.after (store : GraphStore) : StoreOperation → GraphStore
  | .upsertNode node scope => store.upsertNode node scope
  | .upsertEdge edge scope => store.upsertEdge edge scope
  | .upsertEvidence evidence scope => store.upsertEvidence evidence scope
  | .deleteNode nodeId => (store.deleteNode nodeId).2
  | .deleteEdge src kind dst => (store.deleteEdge src kind dst).2
  | .begin => store.begin.2
  | .commit => store.commit
  | .rollback => store.rollback
  | .refresh scope writerFn => (runRefresh store scope writerFn).2

namespace Tables

def HasEndpoints (tables : Tables) (edge : Edge) : Prop :=
  tables.nodes.HasKey edge.src ∧ tables.nodes.HasKey edge.dst

instance (tables : Tables) (edge : Edge) : Decidable (tables.HasEndpoints edge) :=
  inferInstanceAs (Decidable (_ ∧ _))

/-- Every edge has both its endpoints. -/
def Intact (tables : Tables) : Prop := ∀ row ∈ tables.edges, tables.HasEndpoints row.edge

instance (tables : Tables) : Decidable tables.Intact :=
  inferInstanceAs (Decidable (∀ row ∈ tables.edges.rows, tables.HasEndpoints row.edge))

end Tables

def RefreshRuns (store : GraphStore) (scope : String) : Prop :=
  validateScope scope = .ok () ∧ store.transaction = none

/-- Every upserted edge has its endpoints when it is upserted, and still at the
end of its transaction. -/
def StoreOperation.Grounded (store : GraphStore) : StoreOperation → Prop
  | .upsertEdge edge _ => store.current.HasEndpoints edge
  | .refresh scope writerFn =>
      RefreshRuns store scope →
        (∀ before edge rest, writerFn.writes = before ++ .edge edge :: rest →
          (store.committed.written scope before).HasEndpoints edge) ∧
        (writerFn.ending = .returns → ∀ edge, .edge edge ∈ writerFn.writes →
          (store.committed.refreshed scope writerFn.writes).HasEndpoints edge)
  | _ => True

/-- A refresh which commits drops no node at either end of an edge which another
scope owns and the refresh does not upsert. -/
def StoreOperation.SparesEndpoints (store : GraphStore) : StoreOperation → Prop
  | .refresh scope writerFn =>
      RefreshRuns store scope → writerFn.ending = .returns →
        ∀ edgeRow ∈ store.committed.edges, edgeRow.scope ≠ scope →
          edgeRow.key ∉ (writtenEdges scope writerFn.writes).map EdgeRow.key →
          ∀ nodeRow ∈ store.committed.nodes, nodeRow.scope = scope →
            nodeRow.id ∉ (writtenNodes scope writerFn.writes).map NodeRow.id →
            nodeRow.id ≠ edgeRow.edge.src ∧ nodeRow.id ≠ edgeRow.edge.dst
  | _ => True

/-- What a connection has committed and what it sees are both intact. -/
structure GraphStore.Sound (store : GraphStore) : Prop where
  committed : store.committed.Intact
  current : store.current.Intact

variable {store : GraphStore} {tables : Tables} {nodeId scope : String} {writes : List Write}
  {writerFn : WriterFn}

theorem GraphStore.Sound.of_closed (hclosed : store.transaction = none)
    (hcommitted : store.committed.Intact) : store.Sound :=
  ⟨hcommitted, by rw [current_of_closed hclosed]; exact hcommitted⟩

/-! ## Single operations -/

theorem Tables.HasEndpoints.upsert_node {edge : Edge} (row : NodeRow)
    (hendpoints : tables.HasEndpoints edge) :
    ({ tables with nodes := tables.nodes.upsert row } : Tables).HasEndpoints edge :=
  ⟨hasKey_upsert.mpr (.inr hendpoints.1), hasKey_upsert.mpr (.inr hendpoints.2)⟩

theorem Tables.Intact.upsert_node (row : NodeRow) (hintact : tables.Intact) :
    ({ tables with nodes := tables.nodes.upsert row } : Tables).Intact := fun other hother =>
  (hintact other hother).upsert_node row

theorem Tables.Intact.upsert_edge (row : EdgeRow) (hintact : tables.Intact)
    (hendpoints : tables.HasEndpoints row.edge) :
    ({ tables with edges := tables.edges.upsert row } : Tables).Intact := by
  intro other hother
  rw [mem_upsert] at hother
  rcases hother with rfl | hother
  · exact hendpoints
  · exact hintact other hother.1

theorem Tables.Intact.delete_edge (key : EdgeKey) (hintact : tables.Intact) :
    ({ tables with edges := tables.edges.delete key } : Tables).Intact := by
  intro row hrow
  rw [mem_delete] at hrow
  exact hintact row hrow.1

theorem Tables.Intact.delete_node (hintact : tables.Intact)
    (hfree : ∀ row ∈ tables.edges, row.edge.src ≠ nodeId ∧ row.edge.dst ≠ nodeId) :
    ({ tables with nodes := tables.nodes.delete nodeId } : Tables).Intact := by
  intro row hrow
  have hends := hintact row hrow
  have hne := hfree row hrow
  exact ⟨hasKey_delete.mpr ⟨hends.1, hne.1⟩, hasKey_delete.mpr ⟨hends.2, hne.2⟩⟩

theorem not_isReferenced_iff :
    store.isReferenced nodeId = false ↔
      ∀ row ∈ store.current.edges, row.edge.src ≠ nodeId ∧ row.edge.dst ≠ nodeId := by
  simp [GraphStore.isReferenced, mem_rows]

theorem GraphStore.Sound.execute {change : Tables → Tables} (hsound : store.Sound)
    (hchange : (change store.current).Intact) :
    (store.execute change).Sound := ⟨hsound.committed, hchange⟩

theorem GraphStore.Sound.deleteNode (hsound : store.Sound) (nodeId : String) :
    (store.deleteNode nodeId).2.Sound := by
  by_cases hreferenced : store.isReferenced nodeId = true
  · simp only [GraphStore.deleteNode, hreferenced, if_true]
    exact hsound
  · have hfree := not_isReferenced_iff.mp (by simpa using hreferenced)
    have hdeleted : (store.execute fun tables =>
        { tables with nodes := tables.nodes.delete nodeId }).Sound := by
      refine hsound.execute ?_
      exact hsound.current.delete_node hfree
    by_cases hkey : store.current.nodes.HasKey nodeId
    · simpa [GraphStore.deleteNode, hreferenced, hkey] using hdeleted
    · simpa [GraphStore.deleteNode, hreferenced, hkey] using hdeleted

theorem GraphStore.Sound.deleteEdge (hsound : store.Sound) (src : String) (kind : EdgeKind)
    (dst : String) : (store.deleteEdge src kind dst).2.Sound := by
  have hdeleted : (store.execute fun tables =>
      { tables with edges := tables.edges.delete (src, kind, dst) }).Sound := by
    refine hsound.execute ?_
    exact hsound.current.delete_edge (src, kind, dst)
  by_cases hkey : store.current.edges.HasKey (src, kind, dst)
  · simpa [GraphStore.deleteEdge, hkey] using hdeleted
  · simpa [GraphStore.deleteEdge, hkey] using hdeleted

theorem GraphStore.Sound.begin (hsound : store.Sound) :
    store.begin.2.Sound := by
  cases hopen : store.transaction with
  | none =>
      rw [begin_of_closed hopen]
      exact ⟨hsound.committed, hsound.committed⟩
  | some tables => simpa [GraphStore.begin, hopen] using hsound

/-! ## Refreshes -/

theorem mem_writtenEdges_iff {row : EdgeRow} :
    row ∈ writtenEdges scope writes ↔ .edge row.edge ∈ writes ∧ row.scope = scope := by
  obtain ⟨edge, rowScope⟩ := row
  rw [writtenEdges, List.mem_filterMap]
  constructor
  · rintro ⟨write, hwrite, hrow⟩
    cases write with
    | edge written =>
        simp only [Option.some.injEq, EdgeRow.mk.injEq] at hrow
        obtain ⟨rfl, rfl⟩ := hrow
        exact ⟨hwrite, rfl⟩
    | node node => simp at hrow
    | evidence evidence => simp at hrow
  · rintro ⟨hwrite, rfl⟩
    exact ⟨_, hwrite, rfl⟩

theorem Tables.Intact.written (hintact : tables.Intact)
    (hgrounded : ∀ before edge rest, writes = before ++ .edge edge :: rest →
      (tables.written scope before).HasEndpoints edge) :
    (tables.written scope writes).Intact := by
  induction writes using List.reverseRecOn with
  | nil => exact hintact
  | append_singleton writes write ih =>
      have hbefore := ih fun before edge rest hsplit =>
        hgrounded before edge (rest ++ [write]) (by simp [hsplit])
      cases write with
      | node node =>
          have hnext := hbefore.upsert_node ⟨node, scope⟩
          simpa [Tables.written, writtenNodes, writtenEdges, writtenEvidence, upsertAll]
            using hnext
      | edge edge =>
          have hnext := hbefore.upsert_edge ⟨edge, scope⟩ (hgrounded writes edge [] rfl)
          simpa [Tables.written, writtenNodes, writtenEdges, writtenEvidence, upsertAll]
            using hnext
      | evidence evidence =>
          simpa [Tables.written, writtenNodes, writtenEdges, writtenEvidence, upsertAll,
            Tables.Intact, Tables.HasEndpoints] using hbefore

theorem hasKey_refreshed_iff (hkey : tables.nodes.HasKey nodeId) :
    (tables.refreshed scope writes).nodes.HasKey nodeId ↔
      ∀ row ∈ tables.nodes, row.scope = scope →
        row.id ∉ (writtenNodes scope writes).map NodeRow.id → row.id ≠ nodeId := by
  rw [Tables.refreshed, hasKey_replaceOwned]
  obtain ⟨present, hpresent, rfl⟩ := hkey
  constructor
  · rintro (hwritten | ⟨kept, hkept, hsame, hother⟩) row hrow hscope hunwritten heq
    · rw [heq] at hunwritten
      exact hunwritten hwritten
    · have hrows := eq_of_mem hkept hrow (hsame.trans heq.symm)
      rw [hrows] at hother
      simp [hscope] at hother
  · intro hspared
    by_cases hwritten : present.id ∈ (writtenNodes scope writes).map NodeRow.id
    · exact .inl hwritten
    · refine .inr ⟨present, hpresent, rfl, ?_⟩
      have hscope : present.scope ≠ scope := fun hscope =>
        hspared present hpresent hscope hwritten rfl
      simpa using hscope

theorem intact_refreshed_iff (hintact : tables.Intact)
    (hends : ∀ edge, .edge edge ∈ writes → (tables.refreshed scope writes).HasEndpoints edge) :
    (tables.refreshed scope writes).Intact ↔
      ∀ edgeRow ∈ tables.edges, edgeRow.scope ≠ scope →
        edgeRow.key ∉ (writtenEdges scope writes).map EdgeRow.key →
        ∀ nodeRow ∈ tables.nodes, nodeRow.scope = scope →
          nodeRow.id ∉ (writtenNodes scope writes).map NodeRow.id →
          nodeRow.id ≠ edgeRow.edge.src ∧ nodeRow.id ≠ edgeRow.edge.dst := by
  constructor
  · intro hafter edgeRow hedge hscope hunwritten nodeRow hnode hnodeScope hnodeUnwritten
    have hkept : edgeRow ∈ (tables.refreshed scope writes).edges :=
      mem_replaceOwned.mpr (.inr ⟨hedge, hunwritten, by simpa using hscope⟩)
    have hbefore := hintact edgeRow hedge
    have hends' := hafter edgeRow hkept
    exact ⟨(hasKey_refreshed_iff hbefore.1).mp hends'.1 nodeRow hnode hnodeScope hnodeUnwritten,
      (hasKey_refreshed_iff hbefore.2).mp hends'.2 nodeRow hnode hnodeScope hnodeUnwritten⟩
  · intro hspared row hrow
    rw [Tables.refreshed, mem_replaceOwned] at hrow
    rcases hrow with hlast | ⟨hrow, hunwritten, hscope⟩
    · have hwritten := (mem_writtenEdges_iff.mp (mem_of_lastWritten hlast).1).1
      exact hends row.edge hwritten
    · have hscope' : row.scope ≠ scope := by simpa using hscope
      have hbefore := hintact row hrow
      refine ⟨(hasKey_refreshed_iff hbefore.1).mpr ?_, (hasKey_refreshed_iff hbefore.2).mpr ?_⟩
      · intro nodeRow hnode hnodeScope hnodeUnwritten
        exact (hspared row hrow hscope' hunwritten nodeRow hnode hnodeScope hnodeUnwritten).1
      · intro nodeRow hnode hnodeScope hnodeUnwritten
        exact (hspared row hrow hscope' hunwritten nodeRow hnode hnodeScope hnodeUnwritten).2

theorem refresh_intact_iff (hsound : store.Sound)
    (hgrounded : (StoreOperation.refresh scope writerFn).Grounded store) :
    ((runRefresh store scope writerFn).2.committed.Intact ↔
        (StoreOperation.refresh scope writerFn).SparesEndpoints store) ∧
      ((runRefresh store scope writerFn).2.committed.Intact →
        (runRefresh store scope writerFn).2.Sound) := by
  rcases validateScope_cases scope with hscope | ⟨error, hscope⟩
  · by_cases hclosed : store.transaction = none
    · have hruns : RefreshRuns store scope := ⟨hscope, hclosed⟩
      have hrun : runRefresh store scope writerFn = _ := runRefresh_of_closed hscope hclosed
      have hedges := hgrounded hruns
      cases hending : writerFn.ending with
      | returns =>
          simp only [hending] at hrun
          rw [hrun]
          refine ⟨?_, fun hafter => .of_closed rfl hafter⟩
          rw [intact_refreshed_iff hsound.committed (hedges.2 hending)]
          constructor
          · intro hspared _ _
            exact hspared
          · intro hspared
            exact hspared hruns hending
      | raises name =>
          simp only [hending] at hrun
          rw [hrun]
          refine ⟨?_, fun _ => hsound⟩
          simp [StoreOperation.SparesEndpoints, hending, hsound.committed]
      | interrupted name =>
          simp only [hending] at hrun
          rw [hrun]
          refine ⟨?_, fun _ => ⟨hsound.committed, hsound.committed.written hedges.1⟩⟩
          simp [StoreOperation.SparesEndpoints, hending, hsound.committed]
    · rw [runRefresh_of_open hscope hclosed]
      refine ⟨?_, fun _ => hsound⟩
      simp [StoreOperation.SparesEndpoints, RefreshRuns, hclosed, hsound.committed]
  · rw [runRefresh_of_invalid hscope]
    refine ⟨?_, fun _ => hsound⟩
    simp [StoreOperation.SparesEndpoints, RefreshRuns, hscope, hsound.committed]

/-! ## Runs -/

theorem after_sound {operation : StoreOperation} (hsound : store.Sound)
    (hgrounded : operation.Grounded store)
    (hother : ∀ scope writerFn, operation ≠ .refresh scope writerFn) :
    (operation.after store).Sound := by
  cases operation with
  | upsertNode node scope =>
      rw [StoreOperation.after, GraphStore.upsertNode]
      refine hsound.execute ?_
      exact hsound.current.upsert_node ⟨node, scope⟩
  | upsertEdge edge scope =>
      have hendpoints : store.current.HasEndpoints edge := hgrounded
      rw [StoreOperation.after, GraphStore.upsertEdge]
      refine hsound.execute ?_
      exact hsound.current.upsert_edge ⟨edge, scope⟩ hendpoints
  | upsertEvidence evidence scope =>
      rw [StoreOperation.after, GraphStore.upsertEvidence]
      refine hsound.execute ?_
      exact hsound.current
  | deleteNode nodeId => exact hsound.deleteNode nodeId
  | deleteEdge src kind dst => exact hsound.deleteEdge src kind dst
  | begin => exact hsound.begin
  | commit => exact ⟨hsound.current, hsound.current⟩
  | rollback => exact ⟨hsound.committed, hsound.committed⟩
  | refresh scope writerFn => exact absurd rfl (hother scope writerFn)

theorem after_intact_iff {operation : StoreOperation} (hsound : store.Sound)
    (hgrounded : operation.Grounded store) :
    ((operation.after store).committed.Intact ↔ operation.SparesEndpoints store) ∧
      ((operation.after store).committed.Intact → (operation.after store).Sound) := by
  by_cases hrefresh : ∃ scope writerFn, operation = .refresh scope writerFn
  · obtain ⟨scope, writerFn, rfl⟩ := hrefresh
    exact refresh_intact_iff hsound hgrounded
  · have hother : ∀ scope writerFn, operation ≠ .refresh scope writerFn :=
      fun scope writerFn heq => hrefresh ⟨scope, writerFn, heq⟩
    have hafter := after_sound hsound hgrounded hother
    have hspares : operation.SparesEndpoints store := by
      cases operation with
      | refresh scope writerFn => exact absurd rfl (hother scope writerFn)
      | _ => trivial
    exact ⟨⟨fun _ => hspares, fun _ => hafter.committed⟩, fun _ => hafter⟩

/-- Over whole runs with grounded edges: every committed edge has both its
endpoints throughout, exactly when every refresh spares the endpoints of the
edges of other scopes. -/
theorem intact_throughout_iff {store : GraphStore} {operations : List StoreOperation}
    (hsound : store.Sound)
    (hgrounded : EveryStep StoreOperation.after
      (fun store operation => operation.Grounded store) store operations) :
    (∀ later ∈ reached StoreOperation.after store operations, later.committed.Intact) ↔
      EveryStep StoreOperation.after (fun store operation => operation.SparesEndpoints store)
        store operations := by
  refine forall_reached_iff GraphStore.Sound ?_ ?_ hsound hgrounded
  · intro store operation hsound hgrounded
    exact (after_intact_iff hsound hgrounded).1
  · intro store operation hsound hgrounded
    exact (after_intact_iff hsound hgrounded).2

/-! ## A dropped endpoint -/

def GroundedRunsStayIntact : Prop :=
  ∀ operations : List StoreOperation,
    EveryStep StoreOperation.after (fun store operation => operation.Grounded store)
      GraphStore.empty operations →
    ∀ later ∈ reached StoreOperation.after GraphStore.empty operations, later.committed.Intact

theorem empty_sound : GraphStore.empty.Sound := by
  constructor <;> intro row hrow <;> simp [GraphStore.empty, GraphStore.current, Tables.empty]
    at hrow

def sharedNode : WriterFn := ⟨[.node (sampleNode "shared" "first")], .returns⟩

def dependingNode : WriterFn :=
  ⟨[.node (sampleNode "other" "other"), .edge ⟨.dependsOn, "other", "shared", []⟩], .returns⟩

def nothing : WriterFn := ⟨[], .returns⟩

def droppingRun : List StoreOperation :=
  [.refresh firstScope sharedNode, .refresh secondScope dependingNode,
    .refresh firstScope nothing]

theorem grounded_of_noEdges (hedges : ∀ edge, .edge edge ∉ writerFn.writes) :
    (StoreOperation.refresh scope writerFn).Grounded store := by
  intro _
  constructor
  · intro before edge rest hwrites
    exact absurd (by simp [hwrites]) (hedges edge)
  · intro _ edge hedge
    exact absurd hedge (hedges edge)

theorem dependingNode_split {before rest : List Write} {edge : Edge}
    (hsplit : dependingNode.writes = before ++ .edge edge :: rest) :
    before = [.node (sampleNode "other" "other")] ∧
      edge = ⟨.dependsOn, "other", "shared", []⟩ := by
  cases before with
  | nil => simp [dependingNode] at hsplit
  | cons first before =>
      cases before with
      | nil => simp_all [dependingNode]
      | cons second before => simp [dependingNode] at hsplit

theorem dependingNode_grounded :
    (StoreOperation.refresh secondScope dependingNode).Grounded
      ((StoreOperation.refresh firstScope sharedNode).after GraphStore.empty) := by
  intro _
  constructor
  · intro before edge rest hsplit
    obtain ⟨rfl, rfl⟩ := dependingNode_split hsplit
    decide
  · intro _ edge hedge
    have hsame : edge = ⟨.dependsOn, "other", "shared", []⟩ := by
      simpa [dependingNode] using hedge
    subst hsame
    decide

theorem finalRefresh_grounded (hedges : ∀ edge, .edge edge ∉ writerFn.writes) :
    EveryStep StoreOperation.after (fun store operation => operation.Grounded store)
      GraphStore.empty [.refresh firstScope sharedNode, .refresh secondScope dependingNode,
        .refresh firstScope writerFn] := by
  have hshared : ∀ edge, .edge edge ∉ sharedNode.writes := by simp [sharedNode]
  exact .cons (grounded_of_noEdges hshared)
    (.cons dependingNode_grounded (.cons (grounded_of_noEdges hedges) .nil))

/-- A refresh may drop the node at which an edge of another scope ends. -/
theorem groundedRuns_not_intact : ¬ GroundedRunsStayIntact := by
  intro hintact
  have hall := hintact droppingRun (finalRefresh_grounded (by simp [nothing]))
  revert hall
  decide

def keepingRun : List StoreOperation :=
  [.refresh firstScope sharedNode, .refresh secondScope dependingNode,
    .refresh firstScope sharedNode]

theorem intact_throughout_keepingRun :
    GraphStore.empty.Sound ∧
      ∀ later ∈ reached StoreOperation.after GraphStore.empty keepingRun,
        later.committed.Intact := by
  refine ⟨empty_sound, (intact_throughout_iff empty_sound
    (finalRefresh_grounded (by simp [sharedNode]))).mpr (.cons ?_ (.cons ?_ (.cons ?_ .nil)))⟩
  · intro _ _ edgeRow hedge
    simp [GraphStore.empty, Tables.empty] at hedge
  · intro _ _ edgeRow hedge
    have hnone : ((StoreOperation.refresh firstScope sharedNode).after
        GraphStore.empty).committed.edges.rows = [] := by decide
    rw [← mem_rows, hnone] at hedge
    simp at hedge
  · intro _ _ edgeRow _ _ _ nodeRow hnode hscope hunwritten
    have hown : ∀ row ∈ ((StoreOperation.refresh secondScope dependingNode).after
        ((StoreOperation.refresh firstScope sharedNode).after
          GraphStore.empty)).committed.nodes.rows, row.scope = firstScope →
        row.id ∈ (writtenNodes firstScope sharedNode.writes).map NodeRow.id := by
      decide
    exact absurd (hown nodeRow hnode hscope) hunwritten

end SuitCode
