import SuitCode.GraphStoreFacts

/-!
# Refreshes: other scopes, exactness and atomicity

A successful refresh leaves the rows of its own scope exactly as the writer
wrote them last, and of the rows of other scopes exactly those whose key the
writer did not write.  A writer which raises leaves the store as it was.
-/

namespace SuitCode

open KeyedTable

/-! ## Rows of other scopes -/

def RefreshIsolatesScopes : Prop :=
  ∀ (store : GraphStore) (scope : String) (writerFn : WriterFn) (snapshot : RefreshSnapshot)
    (after : GraphStore), runRefresh store scope writerFn = (.ok snapshot, after) →
    (∀ row ∈ store.current.nodes, row.scope ≠ scope → row ∈ after.current.nodes) ∧
      (∀ row ∈ store.current.edges, row.scope ≠ scope → row ∈ after.current.edges) ∧
      (∀ row ∈ store.current.evidence, row.scope ≠ scope → row ∈ after.current.evidence)

section OtherScopes

variable {ρ κ : Type} [DecidableEq κ] {key : ρ → κ}

theorem mem_replaceOwned_of_not_owned {table : KeyedTable key} {owned : ρ → Bool}
    {written : List ρ} (hwritten : ∀ row ∈ written, owned row = true) {row : ρ}
    (hrow : owned row = false) :
    row ∈ table.replaceOwned owned written ↔ row ∈ table ∧ key row ∉ written.map key := by
  have hlast : lastWritten key written (key row) ≠ some row := by
    intro hlast
    have howned := hwritten row (mem_of_lastWritten hlast).1
    rw [hrow] at howned
    exact absurd howned (by decide)
  rw [mem_replaceOwned]
  simp [hlast, hrow]

theorem mem_replaceOwned_of_owned {table : KeyedTable key} {owned : ρ → Bool}
    {written : List ρ} {row : ρ} (hrow : owned row = true) :
    row ∈ table.replaceOwned owned written ↔
      lastWritten key written (key row) = some row := by
  rw [mem_replaceOwned]
  simp [hrow]

end OtherScopes

/-- A row of another scope survives a refresh unchanged exactly when the writer
does not upsert its key. -/
theorem refresh_keeps_otherScopes_iff
    {store after : GraphStore} {scope : String} {writerFn : WriterFn}
    {snapshot : RefreshSnapshot}
    (hok : runRefresh store scope writerFn = (.ok snapshot, after)) :
    (∀ row : NodeRow, row.scope ≠ scope →
        (row ∈ after.current.nodes ↔
          row ∈ store.current.nodes ∧ row.id ∉ snapshot.seenNodeIds)) ∧
      (∀ row : EdgeRow, row.scope ≠ scope →
        (row ∈ after.current.edges ↔
          row ∈ store.current.edges ∧ row.key ∉ snapshot.seenEdgeKeys)) ∧
      (∀ row : EvidenceRow, row.scope ≠ scope →
        (row ∈ after.current.evidence ↔
          row ∈ store.current.evidence ∧ row.id ∉ snapshot.seenEvidenceIds)) := by
  obtain ⟨hscope, hclosed, hending, hafter⟩ := runRefresh_eq_ok hok
  have hrun : runRefresh store scope writerFn = _ := runRefresh_of_closed hscope hclosed
  simp only [hending] at hrun
  rw [hrun] at hok
  simp only [Prod.mk.injEq, Except.ok.injEq] at hok
  obtain ⟨rfl, rfl⟩ := hok
  rw [GraphStore.current_of_closed hclosed]
  refine ⟨?_, ?_, ?_⟩
  · intro row hrow
    apply mem_replaceOwned_of_not_owned
    · intro other hother
      simpa using scope_of_mem_writtenNodes hother
    · simpa using hrow
  · intro row hrow
    apply mem_replaceOwned_of_not_owned
    · intro other hother
      simpa using scope_of_mem_writtenEdges hother
    · simpa using hrow
  · intro row hrow
    apply mem_replaceOwned_of_not_owned
    · intro other hother
      simpa using scope_of_mem_writtenEvidence hother
    · simpa using hrow

/-! ### Two scopes and one node id -/

def sampleManifestEntry : ProvenanceEntry :=
  ⟨.authoritative, .manifest, none, "derived from a manifest", ["pyproject.toml"]⟩

def sampleNode (id name : String) : GraphNode :=
  ⟨id, name, [], [sampleManifestEntry], .component .library .python [] []⟩

def firstScope : String := "provider:first:default"

def secondScope : String := "provider:second:default"

/-- A store in which the first scope has written the node `shared`. -/
def firstScopeStore : GraphStore :=
  ⟨⟨⟨[⟨sampleNode "shared" "first", firstScope⟩], by simp⟩, .empty, .empty⟩, none⟩

def takeOver : WriterFn := ⟨[.node (sampleNode "shared" "second")], .returns⟩

def addOther : WriterFn := ⟨[.node (sampleNode "other" "other")], .returns⟩

/-- A refresh takes over the node which another scope has under the same id. -/
theorem refresh_not_isolating : ¬ RefreshIsolatesScopes := by
  intro hisolates
  have hall := hisolates firstScopeStore secondScope takeOver _ _ rfl
  have hkept := hall.1 ⟨sampleNode "shared" "first", firstScope⟩ (by decide)
    (by decide)
  revert hkept
  decide

theorem refresh_keeps_otherScopes_addOther :
    (⟨sampleNode "shared" "first", firstScope⟩ : NodeRow) ∈
      (runRefresh firstScopeStore secondScope addOther).2.current.nodes := by
  have hok : runRefresh firstScopeStore secondScope addOther = (.ok ⟨["other"], [], []⟩, _) := rfl
  have hiff := refresh_keeps_otherScopes_iff hok
  exact (hiff.1 ⟨sampleNode "shared" "first", firstScope⟩ (by decide)).mpr
    ⟨by decide, by decide⟩

/-! ## Exactness and atomicity -/

/-- The rows of the scope are the last ones written under each key. -/
def RowsAreLastWritten (tables : Tables) (scope : String) (writes : List Write) : Prop :=
  (∀ row : NodeRow, (row ∈ tables.nodes ∧ row.scope = scope) ↔
      lastWritten NodeRow.id (writtenNodes scope writes) row.id = some row) ∧
    (∀ row : EdgeRow, (row ∈ tables.edges ∧ row.scope = scope) ↔
      lastWritten EdgeRow.key (writtenEdges scope writes) row.key = some row) ∧
    (∀ row : EvidenceRow, (row ∈ tables.evidence ∧ row.scope = scope) ↔
      lastWritten EvidenceRow.id (writtenEvidence scope writes) row.id = some row)

theorem rowsAreLastWritten_refreshed (tables : Tables) (scope : String) (writes : List Write) :
    RowsAreLastWritten (tables.refreshed scope writes) scope writes := by
  refine ⟨?_, ?_, ?_⟩
  · intro row
    by_cases hrow : row.scope = scope
    · rw [Tables.refreshed, mem_replaceOwned_of_owned (by simpa using hrow)]
      simp [hrow]
    · simp only [hrow, and_false, false_iff]
      intro hlast
      exact hrow (scope_of_mem_writtenNodes (mem_of_lastWritten hlast).1)
  · intro row
    by_cases hrow : row.scope = scope
    · rw [Tables.refreshed, mem_replaceOwned_of_owned (by simpa using hrow)]
      simp [hrow]
    · simp only [hrow, and_false, false_iff]
      intro hlast
      exact hrow (scope_of_mem_writtenEdges (mem_of_lastWritten hlast).1)
  · intro row
    by_cases hrow : row.scope = scope
    · rw [Tables.refreshed, mem_replaceOwned_of_owned (by simpa using hrow)]
      simp [hrow]
    · simp only [hrow, and_false, false_iff]
      intro hlast
      exact hrow (scope_of_mem_writtenEvidence (mem_of_lastWritten hlast).1)

/-- A writer which returns fixes the rows of its scope; one which raises an
exception, wherever it does, leaves the content of the store unchanged. -/
theorem refresh_exact_and_atomic (store : GraphStore) (scope : String) (writerFn : WriterFn) :
    (∀ snapshot after, runRefresh store scope writerFn = (.ok snapshot, after) →
        after.transaction = none ∧
          RowsAreLastWritten after.committed scope writerFn.writes) ∧
      (validateScope scope = .ok () → store.transaction = none → writerFn.ending = .returns →
        ∃ snapshot, (runRefresh store scope writerFn).1 = .ok snapshot) ∧
      (∀ name, writerFn.ending = .raises name →
        (∃ error, (runRefresh store scope writerFn).1 = .error error) ∧
          (runRefresh store scope writerFn).2 = store) := by
  refine ⟨?_, ?_, ?_⟩
  · intro snapshot after hok
    obtain ⟨-, -, -, rfl⟩ := runRefresh_eq_ok hok
    exact ⟨rfl, rowsAreLastWritten_refreshed store.committed scope writerFn.writes⟩
  · intro hscope hclosed hending
    rw [runRefresh_of_closed hscope hclosed, hending]
    exact ⟨_, rfl⟩
  · intro name hending
    rcases validateScope_cases scope with hscope | ⟨error, hscope⟩
    · by_cases hclosed : store.transaction = none
      · rw [runRefresh_of_closed hscope hclosed, hending]
        exact ⟨⟨_, rfl⟩, rfl⟩
      · rw [runRefresh_of_open hscope hclosed]
        exact ⟨⟨_, rfl⟩, rfl⟩
    · rw [runRefresh_of_invalid hscope]
      exact ⟨⟨_, rfl⟩, rfl⟩

def failingWriter : WriterFn := ⟨[.node (sampleNode "shared" "second")], .raises "RuntimeError"⟩

theorem refresh_exact_and_atomic_samples :
    (runRefresh firstScopeStore secondScope failingWriter).2 = firstScopeStore ∧
      ∃ snapshot, (runRefresh firstScopeStore secondScope takeOver).1 = .ok snapshot :=
  ⟨((refresh_exact_and_atomic firstScopeStore secondScope failingWriter).2.2 _ rfl).2,
    (refresh_exact_and_atomic firstScopeStore secondScope takeOver).2.1 (by decide)
      rfl rfl⟩

end SuitCode
