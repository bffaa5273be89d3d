import SuitCode.GraphRefresh
import SuitCode.Library.Runs

/-!
# Transactions behind the operations of the workspace graph

An operation commits on its success path only.  A deletion which finds no row
has opened a transaction before it raises, and so has a statement which SQLite
refuses and a refresh whose writer is interrupted; the next refresh then cannot
begin.
-/

namespace SuitCode

open KeyedTable Runs

/-- The store behind an operation, whether it returns or raises. -/
def GraphOperation.after (store : GraphStore) (operation : GraphOperation) : GraphStore :=
  (operation.run store).2

/-- An error of SQLite, such as `database is locked`, on which it keeps an open transaction. -/
inductive StoreFault where
  /-- The first statement which writes raises, behind the implicit `BEGIN`. -/
  | statement
  /-- What comes behind every write raises: `COMMIT`, or the purge of a refresh. -/
  | commit
  deriving DecidableEq

/-- An operation and the error which stops it, if one does. -/
structure GraphCall where
  operation : GraphOperation
  fault : Option StoreFault

/-- What a statement outside `transaction()` leaves where it or its `COMMIT` raises. -/
def StoreFault.leave (store : GraphStore) (write : GraphStore → GraphStore) :
    StoreFault → GraphStore
  | .statement => store.execute id
  | .commit => write store

def GraphOperation.stopped (store : GraphStore) (fault : StoreFault) :
    GraphOperation → GraphStore
  | .addOrUpdateNode node scope =>
      if validateScope scope = .ok () then
        fault.leave store fun store => store.upsertNode node scope
      else store
  | .addOrUpdateEdge edge scope =>
      if validateScope scope = .ok () then
        fault.leave store fun store => store.upsertEdge edge scope
      else store
  | .addOrUpdateEvidence evidence scope =>
      if validateScope scope = .ok () then
        fault.leave store fun store => store.upsertEvidence evidence scope
      else store
  | .removeNode nodeId =>
      if store.isReferenced nodeId then store
      else fault.leave store fun store => (store.deleteNode nodeId).2
  | .removeEdge src kind dst =>
      fault.leave store fun store => (store.deleteEdge src kind dst).2
  | .refresh scope writerFn =>
      match fault, writerFn.ending with
      -- `BEGIN IMMEDIATE` raises and opens nothing
      | .statement, _ => store
      -- `transaction()` rolls back as for a writer which raises
      | .commit, .returns =>
          (runRefresh store scope { writerFn with ending := .raises "OperationalError" }).2
      | .commit, _ => (runRefresh store scope writerFn).2

def GraphCall.after (store : GraphStore) (call : GraphCall) : GraphStore :=
  match call.fault with
  | none => call.operation.after store
  | some fault => call.operation.stopped store fault

/-- No transaction is open, and the next one can begin. -/
def GraphStore.CanBegin (store : GraphStore) : Prop :=
  store.transaction = none ∧ store.begin.1 = .ok ()

/-- The operation does not end behind a statement it has left uncommitted: a
deletion finds its row or is refused, and no writer is interrupted. -/
def GraphOperation.EndsTransaction (store : GraphStore) : GraphOperation → Prop
  | .removeNode nodeId =>
      store.isReferenced nodeId = true ∨ store.current.nodes.HasKey nodeId
  | .removeEdge src kind dst => store.current.edges.HasKey (src, kind, dst)
  | .refresh scope writerFn =>
      ∀ name, writerFn.ending = .interrupted name → validateScope scope ≠ .ok ()
  | _ => True

/-- The operation comes to a statement outside `transaction()`. -/
def GraphOperation.WritesAlone (store : GraphStore) : GraphOperation → Prop
  | .addOrUpdateNode _ scope => validateScope scope = .ok ()
  | .addOrUpdateEdge _ scope => validateScope scope = .ok ()
  | .addOrUpdateEvidence _ scope => validateScope scope = .ok ()
  | .removeNode nodeId => store.isReferenced nodeId = false
  | .removeEdge _ _ _ => True
  | .refresh _ _ => False

/-- No statement outside `transaction()` is stopped, and what is not stopped before ends its
transaction. -/
def GraphCall.EndsTransaction (store : GraphStore) (call : GraphCall) : Prop :=
  (call.fault ≠ none → ¬ call.operation.WritesAlone store) ∧
    (call.fault ≠ some .statement → call.operation.EndsTransaction store)

variable {store : GraphStore}

theorem canBegin_iff : store.CanBegin ↔ store.transaction = none := by
  rw [GraphStore.CanBegin, GraphStore.begin_eq_ok_iff, and_self]

theorem addOrUpdate_closed (scope : String) (write : GraphStore → GraphStore)
    (hclosed : store.transaction = none) :
    (addOrUpdate store scope write).2.transaction = none := by
  rcases validateScope_cases scope with hscope | ⟨error, hscope⟩
  · simp [addOrUpdate, hscope]
  · simp [addOrUpdate, hscope, hclosed]

theorem removeNode_closed_iff (nodeId : String) (hclosed : store.transaction = none) :
    (commitRemoval (store.deleteNode nodeId)).2.transaction = none ↔
      store.isReferenced nodeId = true ∨ store.current.nodes.HasKey nodeId := by
  by_cases hreferenced : store.isReferenced nodeId = true
  · simp [GraphStore.deleteNode, commitRemoval, hreferenced, hclosed]
  · by_cases hkey : store.current.nodes.HasKey nodeId
    · simp [GraphStore.deleteNode, commitRemoval, hreferenced, hkey]
    · simp [GraphStore.deleteNode, commitRemoval, hreferenced, hkey]

theorem removeEdge_closed_iff (src : String) (kind : EdgeKind) (dst : String) :
    (commitRemoval (store.deleteEdge src kind dst)).2.transaction = none ↔
      store.current.edges.HasKey (src, kind, dst) := by
  by_cases hkey : store.current.edges.HasKey (src, kind, dst)
  · simp [GraphStore.deleteEdge, commitRemoval, hkey]
  · simp [GraphStore.deleteEdge, commitRemoval, hkey]

theorem runRefresh_closed_iff (scope : String) (writerFn : WriterFn)
    (hclosed : store.transaction = none) :
    (runRefresh store scope writerFn).2.transaction = none ↔
      ∀ name, writerFn.ending = .interrupted name → validateScope scope ≠ .ok () := by
  rcases validateScope_cases scope with hscope | ⟨error, hscope⟩
  · rw [runRefresh_of_closed hscope hclosed]
    cases writerFn.ending <;> simp [hscope, hclosed]
  · rw [runRefresh_of_invalid hscope]
    simp [hscope, hclosed]

theorem refresh_after (store : GraphStore) (scope : String) (writerFn : WriterFn) :
    (GraphOperation.refresh scope writerFn).after store = (runRefresh store scope writerFn).2 := by
  simp only [GraphOperation.after, GraphOperation.run]
  cases runRefresh store scope writerFn with
  | mk result later => cases result <;> rfl

theorem after_closed_iff (operation : GraphOperation) (hclosed : store.transaction = none) :
    (operation.after store).transaction = none ↔ operation.EndsTransaction store := by
  cases operation with
  | addOrUpdateNode node scope =>
      simp [GraphOperation.after, GraphOperation.run, GraphOperation.EndsTransaction,
        addOrUpdate_closed _ _ hclosed]
  | addOrUpdateEdge edge scope =>
      simp [GraphOperation.after, GraphOperation.run, GraphOperation.EndsTransaction,
        addOrUpdate_closed _ _ hclosed]
  | addOrUpdateEvidence evidence scope =>
      simp [GraphOperation.after, GraphOperation.run, GraphOperation.EndsTransaction,
        addOrUpdate_closed _ _ hclosed]
  | removeNode nodeId => exact removeNode_closed_iff nodeId hclosed
  | removeEdge src kind dst => exact removeEdge_closed_iff src kind dst
  | refresh scope writerFn =>
      rw [refresh_after]
      exact runRefresh_closed_iff scope writerFn hclosed

theorem leave_open (store : GraphStore) (fault : StoreFault) {write : GraphStore → GraphStore}
    (hwrite : (write store).transaction ≠ none) : (fault.leave store write).transaction ≠ none := by
  cases fault with
  | statement => simp [StoreFault.leave, GraphStore.execute]
  | commit => exact hwrite

theorem stoppedUpsert_closed_iff (scope : String) (fault : StoreFault)
    {write : GraphStore → GraphStore} (hclosed : store.transaction = none)
    (hwrite : (write store).transaction ≠ none) :
    (if validateScope scope = .ok () then fault.leave store write else store).transaction =
        none ↔ ¬ validateScope scope = .ok () := by
  by_cases hscope : validateScope scope = .ok ()
  · rw [if_pos hscope]
    exact iff_of_false (leave_open store fault hwrite) (not_not.mpr hscope)
  · rw [if_neg hscope]
    exact iff_of_true hclosed hscope

theorem stopped_closed_iff (fault : StoreFault) (operation : GraphOperation)
    (hclosed : store.transaction = none) :
    (operation.stopped store fault).transaction = none ↔
      ¬ operation.WritesAlone store ∧ (fault = .commit → operation.EndsTransaction store) := by
  cases operation with
  | addOrUpdateNode node scope =>
      have hupsert : (store.upsertNode node scope).transaction ≠ none := by
        simp [GraphStore.upsertNode, GraphStore.execute]
      simpa [GraphOperation.stopped, GraphOperation.WritesAlone, GraphOperation.EndsTransaction]
        using stoppedUpsert_closed_iff scope fault hclosed hupsert
  | addOrUpdateEdge edge scope =>
      have hupsert : (store.upsertEdge edge scope).transaction ≠ none := by
        simp [GraphStore.upsertEdge, GraphStore.execute]
      simpa [GraphOperation.stopped, GraphOperation.WritesAlone, GraphOperation.EndsTransaction]
        using stoppedUpsert_closed_iff scope fault hclosed hupsert
  | addOrUpdateEvidence evidence scope =>
      have hupsert : (store.upsertEvidence evidence scope).transaction ≠ none := by
        simp [GraphStore.upsertEvidence, GraphStore.execute]
      simpa [GraphOperation.stopped, GraphOperation.WritesAlone, GraphOperation.EndsTransaction]
        using stoppedUpsert_closed_iff scope fault hclosed hupsert
  | removeNode nodeId =>
      by_cases hreferenced : store.isReferenced nodeId = true
      · simp [GraphOperation.stopped, GraphOperation.WritesAlone, GraphOperation.EndsTransaction,
          hreferenced, hclosed]
      · have hdelete : (store.deleteNode nodeId).2.transaction ≠ none := by
          rw [GraphStore.deleteNode, if_neg hreferenced]
          by_cases hkey : store.current.nodes.HasKey nodeId <;> simp [hkey, GraphStore.execute]
        have hleft : (fault.leave store fun store => (store.deleteNode nodeId).2).transaction ≠
            none := leave_open store fault hdelete
        simp [GraphOperation.stopped, GraphOperation.WritesAlone, hreferenced, hleft]
  | removeEdge src kind dst =>
      have hdelete : (store.deleteEdge src kind dst).2.transaction ≠ none := by
        rw [GraphStore.deleteEdge]
        by_cases hkey : store.current.edges.HasKey (src, kind, dst) <;>
          simp [hkey, GraphStore.execute]
      have hleft : (fault.leave store fun store => (store.deleteEdge src kind dst).2).transaction ≠
          none := leave_open store fault hdelete
      simp [GraphOperation.stopped, GraphOperation.WritesAlone, hleft]
  | refresh scope writerFn =>
      unfold GraphOperation.stopped GraphOperation.WritesAlone GraphOperation.EndsTransaction
      cases fault with
      | statement => simp [hclosed]
      | commit =>
          cases hending : writerFn.ending with
          | returns => simp [runRefresh_closed_iff scope _ hclosed, hending]
          | raises name => simp [runRefresh_closed_iff scope _ hclosed, hending]
          | interrupted name => simp [runRefresh_closed_iff scope _ hclosed, hending]

theorem call_closed_iff (call : GraphCall) (hclosed : store.transaction = none) :
    (call.after store).transaction = none ↔ call.EndsTransaction store := by
  unfold GraphCall.after GraphCall.EndsTransaction
  cases call.fault with
  | none => simpa using after_closed_iff call.operation hclosed
  | some fault =>
      have hstopped := stopped_closed_iff fault call.operation hclosed
      cases fault with
      | statement => simpa using hstopped
      | commit => simpa using hstopped

/-- Over whole runs: behind every operation a transaction can begin, exactly when every
operation of the run ends its own and SQLite refuses no statement outside `transaction()`. -/
theorem canBegin_throughout_iff {store : GraphStore} {calls : List GraphCall}
    (hclosed : store.transaction = none) :
    (∀ later ∈ reached GraphCall.after store calls, later.CanBegin) ↔
      EveryStep GraphCall.after (fun store call => call.EndsTransaction store) store calls := by
  have hassumed : EveryStep GraphCall.after (fun _ _ => True) store calls :=
    EveryStep.of_forall (fun _ _ => trivial) store calls
  refine forall_reached_iff (fun store => store.transaction = none) ?_ ?_ hclosed hassumed
  · intro store call hgood _
    rw [canBegin_iff]
    exact call_closed_iff call hgood
  · intro store call _ _ hobserved
    exact canBegin_iff.mp hobserved

/-! ## A removed node which is not there -/

def OperationsCloseTransactions : Prop :=
  ∀ (store : GraphStore) (calls : List GraphCall), store.transaction = none →
    ∀ later ∈ reached GraphCall.after store calls, later.CanBegin

/-- Removing a node which is not there leaves its transaction open. -/
theorem operations_leak_transactions : ¬ OperationsCloseTransactions := by
  intro hcloses
  have hlater := hcloses GraphStore.empty [⟨.removeNode "absent", none⟩] rfl _ List.mem_cons_self
  rw [canBegin_iff] at hlater
  revert hlater
  decide

/-- A refresh whose `COMMIT` is refused, and a removal. -/
theorem canBegin_throughout_sample :
    firstScopeStore.transaction = none ∧
      ∀ later ∈ reached GraphCall.after firstScopeStore
        [⟨.refresh secondScope addOther, some .commit⟩, ⟨.refresh secondScope addOther, none⟩,
          ⟨.removeNode "other", none⟩], later.CanBegin := by
  refine ⟨rfl, (canBegin_throughout_iff rfl).mpr (.cons ?_ (.cons ?_ (.cons ?_ .nil)))⟩
  · refine ⟨fun _ => id, fun _ name hending => ?_⟩
    simp [addOther] at hending
  · refine ⟨fun hfault => absurd rfl hfault, fun _ name hending => ?_⟩
    simp [addOther] at hending
  · refine ⟨fun hfault => absurd rfl hfault, fun _ => .inr ?_⟩
    decide

end SuitCode
