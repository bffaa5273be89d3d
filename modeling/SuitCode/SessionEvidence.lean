import SuitCode.Library.FirstOccurrences
import SuitCode.Library.KeyedTable
import SuitCode.Library.Runs
import Mathlib.Data.String.Basic
import Mathlib.Algebra.BigOperators.Group.List.Basic
import Mathlib.Algebra.GroupWithZero.Nat

/-!
# The evidence of a session

Every recorded call reads the events of its repository, takes the evidence which its
session has not shown there as unique, and appends its own event.  Reading and appending
are steps of their own, so that calls of several threads and recorders may interleave.
-/

namespace SuitCode

open KeyedList

/-! ## Calls -/

structure EvidenceItem where
  evidenceId : String
  tokenCount : ℕ
  deriving DecidableEq, Repr

def tokenSum (items : List EvidenceItem) : ℕ := (items.map EvidenceItem.tokenCount).sum

def evidenceIds (items : List EvidenceItem) : List String :=
  items.map EvidenceItem.evidenceId

def evidenceTable (items : List EvidenceItem) : KeyedTable EvidenceItem.evidenceId :=
  KeyedTable.empty.upsertAll items

/-- `_collect_evidence_items`, for the references of a payload and what each of them shows. -/
def collectEvidenceItems {ρ : Type} (evidenceItemForReference : ρ → Option EvidenceItem)
    (references : List ρ) : List EvidenceItem :=
  sortedBy EvidenceItem.evidenceId
    (evidenceTable (references.filterMap evidenceItemForReference)).rows

theorem nodup_collectEvidenceItems {ρ : Type} (evidenceItemForReference : ρ → Option EvidenceItem)
    (references : List ρ) :
    (evidenceIds (collectEvidenceItems evidenceItemForReference references)).Nodup := by
  have hperm := (sortedBy_perm EvidenceItem.evidenceId
    (evidenceTable (references.filterMap evidenceItemForReference)).rows).map
      EvidenceItem.evidenceId
  exact hperm.nodup_iff.mpr (evidenceTable _).distinct

/-- A call with the evidence it shows, each evidence id once. -/
structure RecordedCall where
  repositoryRoot : String
  sessionId : String
  status : String
  evidenceItems : List EvidenceItem
  distinct : (evidenceIds evidenceItems).Nodup
  deriving DecidableEq

/-- The call of `record_success`. -/
def successCall {ρ : Type} (repositoryRoot sessionId : String)
    (evidenceItemForReference : ρ → Option EvidenceItem) (references : List ρ) : RecordedCall :=
  ⟨repositoryRoot, sessionId, "success",
    collectEvidenceItems evidenceItemForReference references,
    nodup_collectEvidenceItems evidenceItemForReference references⟩

/-- The call of `record_error`. -/
def errorCall (repositoryRoot sessionId : String) : RecordedCall :=
  ⟨repositoryRoot, sessionId, "error", [], by simp [evidenceIds]⟩

/-! ## Events -/

/-- An event of a store.  Of the unique items the code writes number and sum alone. -/
structure EvidenceEvent where
  projectRoot : String
  sessionId : String
  status : String
  evidenceItems : List EvidenceItem
  uniqueItems : List EvidenceItem
  evidenceFootprintTokens : ℕ
  uniqueSessionEvidenceTokens : ℕ
  duplicateSessionEvidenceTokens : ℕ
  evidenceItemCount : ℕ
  dedupedSessionEvidenceItemCount : ℕ
  deriving DecidableEq, Repr

/-- The event `_record` makes of a call, with the evidence ids it has seen. -/
def evidenceEvent (call : RecordedCall) (seenIds : List String) : EvidenceEvent :=
  let uniqueItems := call.evidenceItems.filter fun item => item.evidenceId ∉ seenIds
  let evidenceFootprintTokens := tokenSum call.evidenceItems
  let uniqueSessionEvidenceTokens := tokenSum uniqueItems
  { projectRoot := call.repositoryRoot
    sessionId := call.sessionId
    status := call.status
    evidenceItems := call.evidenceItems
    uniqueItems := uniqueItems
    evidenceFootprintTokens := evidenceFootprintTokens
    uniqueSessionEvidenceTokens := uniqueSessionEvidenceTokens
    duplicateSessionEvidenceTokens := evidenceFootprintTokens - uniqueSessionEvidenceTokens
    evidenceItemCount := call.evidenceItems.length
    dedupedSessionEvidenceItemCount := uniqueItems.length }

/-! ## Interleaved calls -/

structure LoadedCall where
  thread : ℕ
  call : RecordedCall
  seenIds : List String
  deriving DecidableEq

/-- The events of all stores in the order of their appending, and the calls between their
two steps. -/
structure EvidenceState where
  events : List EvidenceEvent
  loaded : List LoadedCall
  deriving DecidableEq

namespace EvidenceState

def initial : EvidenceState := ⟨[], []⟩

def sessionEvents (state : EvidenceState) (sessionId : String) : List EvidenceEvent :=
  state.events.filter fun event => event.sessionId = sessionId

def sessionItems (state : EvidenceState) (sessionId : String) : List EvidenceItem :=
  (state.sessionEvents sessionId).flatMap EvidenceEvent.evidenceItems

def countedItems (state : EvidenceState) (sessionId : String) : List EvidenceItem :=
  (state.sessionEvents sessionId).flatMap EvidenceEvent.uniqueItems

/-- `seen_ids`: the evidence of the session in the store of one repository. -/
def seenIds (state : EvidenceState) (repositoryRoot sessionId : String) : List String :=
  evidenceIds (((state.sessionEvents sessionId).filter fun event =>
    event.projectRoot = repositoryRoot).flatMap EvidenceEvent.evidenceItems)

def loadedBy (state : EvidenceState) (thread : ℕ) : Option LoadedCall :=
  state.loaded.find? fun loaded => loaded.thread = thread

/-- `load_events` of a call. -/
def load (state : EvidenceState) (thread : ℕ) (call : RecordedCall) : EvidenceState :=
  { state with
    loaded := ⟨thread, call, state.seenIds call.repositoryRoot call.sessionId⟩ :: state.loaded }

/-- `append_event` of a loaded call. -/
def append (state : EvidenceState) (loaded : LoadedCall) : EvidenceState :=
  { events := state.events ++ [evidenceEvent loaded.call loaded.seenIds]
    loaded := state.loaded.filter fun other => other.thread ≠ loaded.thread }

end EvidenceState

inductive EvidenceOperation where
  | load (thread : ℕ) (call : RecordedCall)
  | append (thread : ℕ)
  deriving DecidableEq

/-- One step of a thread; a thread which is not at this step does nothing. -/
def evidenceStep (state : EvidenceState) (operation : EvidenceOperation) : EvidenceState :=
  match operation with
  | .load thread call =>
      match state.loadedBy thread with
      | none => state.load thread call
      | some _ => state
  | .append thread =>
      match state.loadedBy thread with
      | none => state
      | some loaded => state.append loaded

/-! ## The account of a session -/

/-- The account of a session: what its events count as unique are its distinct evidence
ids, each counted by one event. -/
structure CountedOnce (state : EvidenceState) (sessionId : String) : Prop where
  unique_sum : ((state.sessionEvents sessionId).map
      EvidenceEvent.uniqueSessionEvidenceTokens).sum =
    tokenSum (dedupeBy EvidenceItem.evidenceId (state.sessionItems sessionId))
  once : (evidenceIds (state.countedItems sessionId)).Nodup
  balanced : ∀ event ∈ state.sessionEvents sessionId, event.evidenceFootprintTokens =
    event.uniqueSessionEvidenceTokens + event.duplicateSessionEvidenceTokens

/-- A call appends only evidence which its session has not shown, or which the call has
seen in its store. -/
def SeesSession (state : EvidenceState) (loaded : LoadedCall) : Prop :=
  ∀ item ∈ loaded.call.evidenceItems,
    item.evidenceId ∈ evidenceIds (state.sessionItems loaded.call.sessionId) →
      item.evidenceId ∈ loaded.seenIds

def AppendsSeen (state : EvidenceState) (operation : EvidenceOperation) : Prop :=
  match operation with
  | .load _ _ => True
  | .append thread => ∀ loaded, state.loadedBy thread = some loaded → SeesSession state loaded

/-! ### One event -/

theorem tokenSum_append (front back : List EvidenceItem) :
    tokenSum (front ++ back) = tokenSum front + tokenSum back := by
  simp [tokenSum]

theorem tokenSum_filter_le (keeps : EvidenceItem → Bool) (items : List EvidenceItem) :
    tokenSum (items.filter keeps) ≤ tokenSum items := by
  induction items with
  | nil => simp
  | cons item items ih =>
      have hcons : tokenSum (item :: items) = item.tokenCount + tokenSum items := by
        simp [tokenSum]
      cases hkeeps : keeps item with
      | true =>
          rw [List.filter_cons_of_pos hkeeps, hcons]
          simp only [tokenSum, List.map_cons, List.sum_cons] at ih ⊢
          omega
      | false =>
          rw [List.filter_cons_of_neg (by simp [hkeeps]), hcons]
          omega

theorem evidenceEvent_balanced (call : RecordedCall) (seenIds : List String) :
    (evidenceEvent call seenIds).evidenceFootprintTokens =
      (evidenceEvent call seenIds).uniqueSessionEvidenceTokens +
        (evidenceEvent call seenIds).duplicateSessionEvidenceTokens := by
  have hle := tokenSum_filter_le (fun item => item.evidenceId ∉ seenIds) call.evidenceItems
  simp only [evidenceEvent]
  omega

/-! ### One step -/

namespace EvidenceState

variable {state : EvidenceState} {loaded : LoadedCall} {sessionId : String}

theorem sessionEvents_append (state : EvidenceState) (loaded : LoadedCall) (sessionId : String) :
    (state.append loaded).sessionEvents sessionId =
      if loaded.call.sessionId = sessionId then
        state.sessionEvents sessionId ++ [evidenceEvent loaded.call loaded.seenIds]
      else state.sessionEvents sessionId := by
  unfold sessionEvents append
  rw [List.filter_append]
  by_cases hsession : loaded.call.sessionId = sessionId <;>
    simp [evidenceEvent, hsession]

theorem sessionItems_append_same (state : EvidenceState) (loaded : LoadedCall) :
    (state.append loaded).sessionItems loaded.call.sessionId =
      state.sessionItems loaded.call.sessionId ++ loaded.call.evidenceItems := by
  rw [sessionItems, sessionEvents_append, if_pos rfl, List.flatMap_append]
  simp [sessionItems, evidenceEvent]

theorem countedItems_append_same (state : EvidenceState) (loaded : LoadedCall) :
    (state.append loaded).countedItems loaded.call.sessionId =
      state.countedItems loaded.call.sessionId ++
        loaded.call.evidenceItems.filter fun item => item.evidenceId ∉ loaded.seenIds := by
  rw [countedItems, sessionEvents_append, if_pos rfl, List.flatMap_append]
  simp [countedItems, evidenceEvent]

theorem mem_sessionItems_append {evidenceId : String}
    (hmem : evidenceId ∈ evidenceIds (state.sessionItems sessionId)) :
    evidenceId ∈ evidenceIds ((state.append loaded).sessionItems sessionId) := by
  by_cases hsession : loaded.call.sessionId = sessionId
  · rw [← hsession] at hmem ⊢
    rw [sessionItems_append_same, evidenceIds, List.map_append, List.mem_append]
    exact .inl hmem
  · rw [sessionItems, sessionEvents_append, if_neg hsession]
    exact hmem

theorem seenIds_subset {repositoryRoot evidenceId : String}
    (hseen : evidenceId ∈ state.seenIds repositoryRoot sessionId) :
    evidenceId ∈ evidenceIds (state.sessionItems sessionId) := by
  obtain ⟨item, hitem, hid⟩ := List.mem_map.mp hseen
  obtain ⟨event, hevent, hmem⟩ := List.mem_flatMap.mp hitem
  rw [← hid]
  apply List.mem_map_of_mem
  exact List.mem_flatMap.mpr ⟨event, (List.mem_filter.mp hevent).1, hmem⟩

end EvidenceState

open EvidenceState

/-- What holds between the steps of calls which append only what they have seen. -/
structure Accounted (state : EvidenceState) : Prop where
  counted : ∀ sessionId, state.countedItems sessionId =
    dedupeBy EvidenceItem.evidenceId (state.sessionItems sessionId)
  recorded : ∀ event ∈ state.events, ∃ call seenIds, event = evidenceEvent call seenIds
  seen : ∀ loaded ∈ state.loaded, ∀ evidenceId ∈ loaded.seenIds,
    evidenceId ∈ evidenceIds (state.sessionItems loaded.call.sessionId)

theorem accounted_initial : Accounted EvidenceState.initial := by
  constructor
  · intro sessionId
    rfl
  · intro event hevent
    cases hevent
  · intro loaded hloaded
    cases hloaded

theorem sum_unique_eq {events : List EvidenceEvent}
    (hrecorded : ∀ event ∈ events, ∃ call seenIds, event = evidenceEvent call seenIds) :
    (events.map EvidenceEvent.uniqueSessionEvidenceTokens).sum =
      tokenSum (events.flatMap EvidenceEvent.uniqueItems) := by
  induction events with
  | nil => rfl
  | cons event events ih =>
      rw [List.forall_mem_cons] at hrecorded
      obtain ⟨call, seenIds, hevent⟩ := hrecorded.1
      rw [List.map_cons, List.sum_cons, ih hrecorded.2, List.flatMap_cons, tokenSum_append,
        hevent]
      rfl

theorem Accounted.countedOnce {state : EvidenceState} (haccounted : Accounted state)
    (sessionId : String) : CountedOnce state sessionId := by
  have hrecorded : ∀ event ∈ state.sessionEvents sessionId,
      ∃ call seenIds, event = evidenceEvent call seenIds := by
    intro event hevent
    exact haccounted.recorded event (List.mem_filter.mp hevent).1
  constructor
  · rw [sum_unique_eq hrecorded]
    exact congrArg tokenSum (haccounted.counted sessionId)
  · rw [haccounted.counted sessionId]
    exact nodup_map_dedupeBy _ _
  · intro event hevent
    obtain ⟨call, seenIds, heq⟩ := hrecorded event hevent
    rw [heq]
    exact evidenceEvent_balanced call seenIds

theorem Accounted.load {state : EvidenceState} (haccounted : Accounted state) (thread : ℕ)
    (call : RecordedCall) : Accounted (state.load thread call) := by
  constructor
  · exact haccounted.counted
  · exact haccounted.recorded
  · intro loaded hloaded evidenceId hseen
    cases hloaded with
    | head => exact seenIds_subset hseen
    | tail _ hold => exact haccounted.seen loaded hold evidenceId hseen

theorem Accounted.append {state : EvidenceState} (haccounted : Accounted state)
    {loaded : LoadedCall} (hloaded : loaded ∈ state.loaded) (hsees : SeesSession state loaded) :
    Accounted (state.append loaded) := by
  constructor
  · intro sessionId
    by_cases hsession : loaded.call.sessionId = sessionId
    · rw [← hsession, countedItems_append_same, sessionItems_append_same,
        dedupeBy_append_of_nodup _ _ loaded.call.distinct, haccounted.counted]
      congr 1
      apply List.filter_congr
      intro item hitem
      by_cases hseen : item.evidenceId ∈ loaded.seenIds
      · have hshown := haccounted.seen loaded hloaded _ hseen
        rw [evidenceIds] at hshown
        simp only [hseen, hshown, not_true_eq_false]
      · have hfresh : item.evidenceId ∉
            evidenceIds (state.sessionItems loaded.call.sessionId) :=
          fun hshown => hseen (hsees item hitem hshown)
        rw [evidenceIds] at hfresh
        simp only [hseen, hfresh, not_false_eq_true]
    · rw [countedItems, sessionItems, sessionEvents_append, if_neg hsession]
      exact haccounted.counted sessionId
  · intro event hevent
    rw [EvidenceState.append, List.mem_append, List.mem_singleton] at hevent
    cases hevent with
    | inl hold => exact haccounted.recorded event hold
    | inr hnew => exact ⟨loaded.call, loaded.seenIds, hnew⟩
  · intro other hother evidenceId hseen
    apply mem_sessionItems_append
    exact haccounted.seen other (List.mem_filter.mp hother).1 evidenceId hseen

theorem seesSession_of_countedOnce {state : EvidenceState} (haccounted : Accounted state)
    {loaded : LoadedCall}
    (hcounted : CountedOnce (state.append loaded) loaded.call.sessionId) :
    SeesSession state loaded := by
  intro item hitem hshown
  by_contra hunseen
  have honce := hcounted.once
  rw [countedItems_append_same, evidenceIds, List.map_append, List.nodup_append] at honce
  have hbefore : item.evidenceId ∈
      evidenceIds (state.countedItems loaded.call.sessionId) := by
    rw [haccounted.counted]
    exact mem_map_dedupeBy_iff.mpr hshown
  have hagain : item.evidenceId ∈ evidenceIds
      (loaded.call.evidenceItems.filter fun item => item.evidenceId ∉ loaded.seenIds) :=
    List.mem_map_of_mem (List.mem_filter.mpr ⟨hitem, by simpa using hunseen⟩)
  exact honce.2.2 _ hbefore _ hagain rfl

theorem Accounted.step {state : EvidenceState} (haccounted : Accounted state)
    {operation : EvidenceOperation} (hseen : AppendsSeen state operation) :
    Accounted (evidenceStep state operation) := by
  cases operation with
  | load thread call =>
      cases hthread : state.loadedBy thread with
      | none =>
          simp only [evidenceStep, hthread]
          exact haccounted.load thread call
      | some loaded =>
          simp only [evidenceStep, hthread]
          exact haccounted
  | append thread =>
      cases hthread : state.loadedBy thread with
      | none =>
          simp only [evidenceStep, hthread]
          exact haccounted
      | some loaded =>
          simp only [evidenceStep, hthread]
          exact haccounted.append (List.mem_of_find?_eq_some hthread) (hseen loaded hthread)

theorem appendsSeen_of_countedOnce {state : EvidenceState} (haccounted : Accounted state)
    {operation : EvidenceOperation}
    (hcounted : ∀ sessionId, CountedOnce (evidenceStep state operation) sessionId) :
    AppendsSeen state operation := by
  cases operation with
  | load thread call => trivial
  | append thread =>
      intro loaded hthread
      simp only [evidenceStep, hthread] at hcounted
      exact seesSession_of_countedOnce haccounted (hcounted loaded.call.sessionId)

/-! ## Runs -/

/-- In every interleaving of calls the evidence of each session is counted once at all
times exactly where every append has seen what its session has shown of its evidence. -/
theorem evidence_countedOnce_iff (operations : List EvidenceOperation) :
    (∀ state ∈ Runs.reached evidenceStep EvidenceState.initial operations,
        ∀ sessionId, CountedOnce state sessionId) ↔
      Runs.EveryStep evidenceStep AppendsSeen EvidenceState.initial operations := by
  have hany : Runs.EveryStep evidenceStep (fun _ _ => True) EvidenceState.initial operations :=
    .of_forall (fun _ _ => trivial) _ _
  apply Runs.forall_reached_iff Accounted _ _ accounted_initial hany
  · intro state operation haccounted _
    constructor
    · exact appendsSeen_of_countedOnce haccounted
    · intro hseen sessionId
      exact (haccounted.step hseen).countedOnce sessionId
  · intro state operation haccounted _ hcounted
    exact haccounted.step (appendsSeen_of_countedOnce haccounted hcounted)

/-! ### Calls one after the other -/

/-- Reading and appending of a call without a step of another call between them. -/
def wholeCall (call : RecordedCall) : List EvidenceOperation := [.load 0 call, .append 0]

theorem appendsSeen_of_sequential {repositoryRoot : String} {calls : List RecordedCall}
    (hroot : ∀ call ∈ calls, call.repositoryRoot = repositoryRoot) {state : EvidenceState}
    (hloaded : state.loaded = [])
    (hevents : ∀ event ∈ state.events, event.projectRoot = repositoryRoot) :
    Runs.EveryStep evidenceStep AppendsSeen state (calls.flatMap wholeCall) := by
  induction calls generalizing state with
  | nil => exact .nil
  | cons call calls ih =>
      rw [List.forall_mem_cons] at hroot
      have hidle : state.loadedBy 0 = none := by simp [EvidenceState.loadedBy, hloaded]
      have hload : evidenceStep state (.load 0 call) = state.load 0 call := by
        simp only [evidenceStep, hidle]
      have hbusy : (state.load 0 call).loadedBy 0 =
          some ⟨0, call, state.seenIds call.repositoryRoot call.sessionId⟩ := by
        simp [EvidenceState.load, EvidenceState.loadedBy]
      have happend : evidenceStep (state.load 0 call) (.append 0) =
          (state.load 0 call).append
            ⟨0, call, state.seenIds call.repositoryRoot call.sessionId⟩ := by
        simp only [evidenceStep, hbusy]
      rw [List.flatMap_cons, wholeCall, List.cons_append, List.cons_append, List.nil_append,
        Runs.everyStep_cons_iff, hload, Runs.everyStep_cons_iff, happend]
      refine ⟨trivial, ?_, ?_⟩
      · intro loaded hthread item hitem hshown
        rw [hbusy, Option.some.injEq] at hthread
        subst hthread
        have hstore : (state.sessionEvents call.sessionId).filter
            (fun event => event.projectRoot = call.repositoryRoot) =
            state.sessionEvents call.sessionId := by
          apply List.filter_eq_self.mpr
          intro event hevent
          rw [hroot.1]
          simpa using hevents event (List.mem_filter.mp hevent).1
        simp only [EvidenceState.seenIds, hstore]
        exact hshown
      · apply ih hroot.2
        · simp [EvidenceState.append, EvidenceState.load, hloaded]
        · intro event hevent
          rw [EvidenceState.append, List.mem_append, List.mem_singleton] at hevent
          cases hevent with
          | inl hold => exact hevents event hold
          | inr hnew =>
              rw [hnew]
              exact hroot.1

/-- Calls which are recorded one after the other count every evidence of a session once. -/
theorem countedOnce_of_sequential {repositoryRoot : String} {calls : List RecordedCall}
    (hroot : ∀ call ∈ calls, call.repositoryRoot = repositoryRoot) :
    ∀ state ∈ Runs.reached evidenceStep EvidenceState.initial (calls.flatMap wholeCall),
      ∀ sessionId, CountedOnce state sessionId := by
  have hseen : Runs.EveryStep evidenceStep AppendsSeen EvidenceState.initial
      (calls.flatMap wholeCall) := by
    apply appendsSeen_of_sequential hroot rfl
    intro event hevent
    cases hevent
  have haccounted : ∀ state ∈ Runs.reached evidenceStep EvidenceState.initial
      (calls.flatMap wholeCall), Accounted state :=
    Runs.forall_reached_of_everyStep (fun state operation haccounted hseen =>
      haccounted.step hseen) accounted_initial hseen
  intro state hstate sessionId
  exact (haccounted state hstate).countedOnce sessionId

/-! ### Two calls at once -/

namespace Sample

def sharedEvidence : EvidenceItem := ⟨"file-span:README.md:all:sha256:0", 12⟩

def evidenceCall : RecordedCall :=
  successCall "/repo" "session:1" (fun _ => some sharedEvidence) ["README.md", "./README.md"]

def repeatedCalls : List RecordedCall :=
  [evidenceCall, errorCall "/repo" "session:1", evidenceCall]

def overlappingCalls : List EvidenceOperation :=
  [.load 0 evidenceCall, .load 1 evidenceCall, .append 0, .append 1]

end Sample

theorem countedOnce_of_sequential_repeated :
    (∀ call ∈ Sample.repeatedCalls, call.repositoryRoot = "/repo") ∧
      ∀ state ∈ Runs.reached evidenceStep EvidenceState.initial
        (Sample.repeatedCalls.flatMap wholeCall), ∀ sessionId, CountedOnce state sessionId :=
  have hroot : ∀ call ∈ Sample.repeatedCalls, call.repositoryRoot = "/repo" := by
    simp [Sample.repeatedCalls, Sample.evidenceCall, successCall, errorCall]
  ⟨hroot, countedOnce_of_sequential hroot⟩

/-- Both of two overlapping calls count the same evidence as unique. -/
theorem overlappingCalls_countTwice :
    ¬ ∀ state ∈ Runs.reached evidenceStep EvidenceState.initial Sample.overlappingCalls,
      ∀ sessionId, CountedOnce state sessionId := by
  intro hall
  have hlast := hall (Sample.overlappingCalls.foldl evidenceStep EvidenceState.initial)
    (by decide) "session:1"
  have honce := hlast.once
  revert honce
  decide

end SuitCode
