import SuitCode.TokenReports
import Mathlib.Algebra.BigOperators.Group.List.Basic
import Mathlib.Algebra.GroupWithZero.Nat

/-!
# Unfinished calls

Start and end of a call pass the filters of a report each for itself.  A call of the report
is unfinished in the log exactly where the filters keep some end of every ended call whose
start they keep.
-/

namespace SuitCode

open KeyedList ExceptList

/-! ## The events of a report -/

section Selection

variable (clock : AnalyticsClock) (root : String) (lines : List AnalyticsLine)
  (manifests : ManifestTable) (filters : ReportFilters)

def Selected (event : AnalyticsEvent) : Prop :=
  ∃ events, loadAnalyticsEvents clock root lines = .ok events ∧ event ∈ events ∧
    isRelevant clock manifests filters event = .ok true

/-- An event which passes the filters and ends the call of another one. -/
def HasSelectedEnd (started : AnalyticsEvent) : Prop :=
  ∃ terminal, Selected clock root lines manifests filters terminal ∧
    terminal.status.isTerminal = true ∧ terminal.invocationId = started.invocationId

/-- The filters part no start from all the ends of its call, and no call is started twice
without an end. -/
structure FiltersKeepCallsWhole : Prop where
  ended : ∀ started, Selected clock root lines manifests filters started →
    started.status = .started →
    ∀ terminal, .record terminal ∈ lines → terminal.status.isTerminal = true →
      terminal.invocationId = started.invocationId →
      HasSelectedEnd clock root lines manifests filters started
  startedOnce : ∀ first second, Selected clock root lines manifests filters first →
    Selected clock root lines manifests filters second →
    first.status = .started → second.status = .started →
    first.invocationId = second.invocationId → first ≠ second →
    HasSelectedEnd clock root lines manifests filters first

/-- No event of the log ends one of the calls, and none of them is there twice. -/
structure ReallyUnfinished (calls : List IncompleteCall) : Prop where
  unended : ∀ call ∈ calls, ∀ event, .record event ∈ lines →
    event.status.isTerminal = true → event.invocationId ≠ some call.invocationId
  once : (calls.map IncompleteCall.invocationId).Nodup

variable {clock root lines manifests filters}

theorem Selected.invocationId_eq {event : AnalyticsEvent}
    (hselected : Selected clock root lines manifests filters event) :
    event.invocationId = some event.invocationName := by
  obtain ⟨events, hload, hmem, hrelevant⟩ := hselected
  have hsome : event.invocationId.isSome = true := by
    have hall := allOf_eq_true_iff.mp hrelevant
    have hone := hall (pure event.invocationId.isSome) (by simp)
    simpa [pure, Except.pure] using hone
  have hne := AnalyticsEvent.invocationId_ne_empty (line_of_loaded hload hmem).2
  cases hinvocation : event.invocationId with
  | none => simp [hinvocation] at hsome
  | some invocationId =>
      have hnonempty : invocationId.isEmpty = false := by
        rw [hinvocation] at hne
        simpa [String.isEmpty_iff] using hne
      simp [AnalyticsEvent.invocationName, hinvocation, hnonempty]

theorem exists_unfinishedEvents {calls : List IncompleteCall}
    (hcalls : loadUnfinishedCalls clock root lines manifests filters = .ok calls) :
    ∃ unfinished : List AnalyticsEvent,
      calls.Perm (unfinished.map incompleteCall) ∧
      (unfinished.map AnalyticsEvent.eventId).Nodup ∧
      ∀ event, event ∈ unfinished ↔
        Selected clock root lines manifests filters event ∧ event.status = .started ∧
          ¬ HasSelectedEnd clock root lines manifests filters event := by
  obtain ⟨events, hload, hrest⟩ := bind_eq_ok.mp hcalls
  obtain ⟨relevant, hselect, hsorted⟩ := bind_eq_ok.mp hrest
  simp only [pure, Except.pure, Except.ok.injEq] at hsorted
  have hrelevant : ∀ event, event ∈ relevant ↔
      Selected clock root lines manifests filters event := by
    intro event
    rw [mem_selectItems hselect]
    constructor
    · intro hboth
      exact ⟨events, hload, hboth⟩
    · intro hselected
      obtain ⟨others, hothers, hboth⟩ := hselected
      rw [hload, Except.ok.injEq] at hothers
      rw [hothers]
      exact hboth
  refine ⟨unfinishedEvents relevant, ?_, ?_, ?_⟩
  · rw [← hsorted]
    exact sortedBy_perm _ _
  · have hsub : (unfinishedEvents relevant).Sublist events :=
      List.filter_sublist.trans (sublist_of_selectItems hselect)
    exact (nodup_loaded hload).sublist (hsub.map _)
  · intro event
    rw [unfinishedEvents, List.mem_filter, hrelevant]
    simp only [Bool.and_eq_true, decide_eq_true_eq]
    constructor
    · intro hevent
      refine ⟨hevent.1, hevent.2.1, ?_⟩
      intro hend
      obtain ⟨terminal, hterminal, hstatus, hsame⟩ := hend
      apply hevent.2.2
      rw [← hsame]
      apply List.mem_map_of_mem
      rw [List.mem_filter, hrelevant, hstatus, hterminal.invocationId_eq]
      exact ⟨hterminal, rfl⟩
    · intro hevent
      refine ⟨hevent.1, hevent.2.1, ?_⟩
      intro hterminal
      obtain ⟨terminal, hmem, hsame⟩ := List.mem_map.mp hterminal
      rw [List.mem_filter, hrelevant, Bool.and_eq_true] at hmem
      exact hevent.2.2 ⟨terminal, hmem.1, hmem.2.1, hsame⟩

theorem reallyUnfinished_iff {calls : List IncompleteCall}
    (hcalls : loadUnfinishedCalls clock root lines manifests filters = .ok calls) :
    ReallyUnfinished lines calls ↔
      FiltersKeepCallsWhole clock root lines manifests filters := by
  obtain ⟨unfinished, hperm, hdistinct, hmem⟩ := exists_unfinishedEvents hcalls
  have hcall : ∀ call, call ∈ calls ↔ ∃ event ∈ unfinished, incompleteCall event = call := by
    intro call
    rw [hperm.mem_iff, List.mem_map]
  have hnames : (calls.map IncompleteCall.invocationId).Nodup ↔
      ∀ first ∈ unfinished, ∀ second ∈ unfinished,
        first.invocationName = second.invocationName → first = second := by
    have hnodup : unfinished.Nodup := hdistinct.of_map _
    rw [(hperm.map IncompleteCall.invocationId).nodup_iff, List.map_map]
    exact List.nodup_map_iff_inj_on hnodup
  constructor
  · intro hreally
    constructor
    · intro started hstarted hstatus terminal hline hterminal hsame
      by_contra hnone
      have hunfinished := (hmem started).mpr ⟨hstarted, hstatus, hnone⟩
      have hcounted := (hcall (incompleteCall started)).mpr ⟨started, hunfinished, rfl⟩
      apply hreally.unended _ hcounted terminal hline hterminal
      rw [hsame, hstarted.invocationId_eq]
      rfl
    · intro first second hfirst hsecond hfirstStatus hsecondStatus hsame hne
      by_contra hnone
      have hnone' : ¬ HasSelectedEnd clock root lines manifests filters second := by
        intro hend
        obtain ⟨terminal, hterminal⟩ := hend
        rw [← hsame] at hterminal
        exact hnone ⟨terminal, hterminal⟩
      apply hne
      apply hnames.mp hreally.once first ((hmem first).mpr ⟨hfirst, hfirstStatus, hnone⟩)
        second ((hmem second).mpr ⟨hsecond, hsecondStatus, hnone'⟩)
      rw [hfirst.invocationId_eq, hsecond.invocationId_eq, Option.some.injEq] at hsame
      exact hsame
  · intro hwhole
    constructor
    · intro call hcounted event hline hterminal hsame
      obtain ⟨started, hunfinished, hstarted⟩ := (hcall call).mp hcounted
      have hevent := (hmem started).mp hunfinished
      apply hevent.2.2
      apply hwhole.ended started hevent.1 hevent.2.1 event hline hterminal
      rw [hsame, hevent.1.invocationId_eq, ← hstarted]
      rfl
    · rw [hnames]
      intro first hfirst second hsecond hsame
      by_contra hne
      have hfirstEvent := (hmem first).mp hfirst
      have hsecondEvent := (hmem second).mp hsecond
      apply hfirstEvent.2.2
      apply hwhole.startedOnce first second hfirstEvent.1 hsecondEvent.1 hfirstEvent.2.1
        hsecondEvent.2.1 _ hne
      rw [hfirstEvent.1.invocationId_eq, hsecondEvent.1.invocationId_eq, hsame]

end Selection

/-! ## The counts of a report -/

theorem sum_map_isKey (wanted : String) (keys : List String) :
    (keys.map fun key => if wanted = key then 1 else 0).sum = keys.count wanted := by
  induction keys with
  | nil => rfl
  | cons key keys ih =>
      rw [List.map_cons, List.sum_cons, ih, List.count_cons, Nat.add_comm]
      by_cases hkey : wanted = key
      · simp [hkey]
      · have hkey' : (key == wanted) = false := by
          simpa using fun heq : key = wanted => hkey heq.symm
        simp [hkey, hkey']

theorem sum_length_filter_key {α : Type} (key : α → String) {keys : List String}
    (hdistinct : keys.Nodup) {items : List α} (hkeys : ∀ item ∈ items, key item ∈ keys) :
    (keys.map fun wanted => (items.filter fun item => key item = wanted).length).sum =
      items.length := by
  induction items with
  | nil => simp
  | cons item items ih =>
      have hrest := ih fun other hother => hkeys other (List.mem_cons_of_mem _ hother)
      have hcount : keys.count (key item) = 1 :=
        List.count_eq_one_of_mem hdistinct (hkeys item List.mem_cons_self)
      have hstep : ∀ wanted, ((item :: items).filter fun item => key item = wanted).length =
          (if key item = wanted then 1 else 0) +
            (items.filter fun item => key item = wanted).length := by
        intro wanted
        by_cases hkey : key item = wanted
        · simp [hkey, Nat.add_comm]
        · simp [hkey]
      simp only [hstep]
      rw [List.sum_map_add, sum_map_isKey, hcount, hrest, List.length_cons, Nat.add_comm]

theorem sum_unfinished_aggregateGroup (events : List TokenEvent)
    (unfinished : List IncompleteCall) (eventKey : TokenEvent → String)
    (unfinishedKey : IncompleteCall → String) :
    ((aggregateGroup events unfinished eventKey unfinishedKey).map
      TokenAggregate.unfinishedCount).sum = unfinished.length := by
  unfold aggregateGroup
  rw [List.map_map]
  apply sum_length_filter_key unfinishedKey
  · rw [(sortedBy_perm id _).nodup_iff]
    simpa using nodup_map_dedupeBy id (events.map eventKey ++ unfinished.map unfinishedKey)
  · intro call hcall
    rw [mem_sortedBy, mem_dedupeBy_id, List.mem_append]
    exact .inr (List.mem_map_of_mem hcall)

/-- The total of a report and each of its tables count the same unfinished calls. -/
structure CountsCalls (report : TokenReport) (calls : List IncompleteCall) : Prop where
  total : report.total.unfinishedCount = calls.length
  tables : ∀ table ∈ report.tables,
    (table.map TokenAggregate.unfinishedCount).sum = calls.length

theorem reportOver_countsCalls (manifests : ManifestTable) (filters : ReportFilters)
    (ignored : ℕ) (events : List TokenEvent) (calls : List IncompleteCall) :
    CountsCalls (reportOver manifests filters ignored events calls) calls := by
  constructor
  · rfl
  · simp only [TokenReport.tables, reportOver, List.forall_mem_cons,
      sum_unfinished_aggregateGroup, List.not_mem_nil, false_implies, implies_true, and_self]

/-- The calls which a report counts as unfinished have no end in the log, and are counted
once, exactly where the filters keep an end of each ended call whose start they keep. -/
theorem report_unfinished_iff {clock : AnalyticsClock} {root : String}
    {recorded : List TokenEvent} {manifests : List RunManifest} {lines : List AnalyticsLine}
    {filters : ReportFilters} {report : TokenReport}
    (hreport : generateTokenEconomicsReport clock root recorded manifests lines filters =
      .ok report) :
    ∃ calls, loadUnfinishedCalls clock root lines (manifestsById manifests) filters = .ok calls ∧
      CountsCalls report calls ∧
      (ReallyUnfinished lines calls ↔
        FiltersKeepCallsWhole clock root lines (manifestsById manifests) filters) := by
  obtain ⟨events, -, hrest⟩ := bind_eq_ok.mp hreport
  obtain ⟨calls, hcalls, hover⟩ := bind_eq_ok.mp hrest
  simp only [pure, Except.pure, Except.ok.injEq] at hover
  refine ⟨calls, hcalls, ?_, reallyUnfinished_iff hcalls⟩
  rw [← hover]
  exact reportOver_countsCalls _ _ _ _ _

/-! ## A call across the end of a day -/

namespace Sample

def analyticsEvent (eventId timestampUtc : String) (status : AnalyticsStatus) :
    AnalyticsEvent :=
  { eventId := eventId
    invocationId := some "invocation:1"
    sessionId := "session:1"
    timestampUtc := timestampUtc
    toolName := "understand_file"
    argumentsFingerprintSha256 := "0"
    status := status
    durationMs := 0 }

def startedLate : AnalyticsEvent :=
  analyticsEvent "event:1" "1970-01-01T23:59:59.000Z" .started

def endedNextDay : AnalyticsEvent :=
  analyticsEvent "event:2" "1970-01-02T00:00:01.000Z" .success

def acrossMidnight : List AnalyticsLine := [.record startedLate, .record endedNextDay]

def firstDay : ReportFilters := { until_ := some "1970-01-01" }

def manifestTable : ManifestTable := manifestsById []

def unfiltered : TokenReport := reportOver manifestTable {} 0 [] []

end Sample

/-- A call which succeeded on the next day is counted as unfinished on the day it started. -/
theorem endedNextDay_counted :
    loadUnfinishedCalls Sample.analyticsClock "repo" Sample.acrossMidnight
        Sample.manifestTable Sample.firstDay = .ok [incompleteCall Sample.startedLate] ∧
      (generateTokenEconomicsReport Sample.analyticsClock "repo" [] [] Sample.acrossMidnight
        Sample.firstDay).map (fun report => report.total.unfinishedCount) = .ok 1 ∧
      ¬ ReallyUnfinished Sample.acrossMidnight [incompleteCall Sample.startedLate] := by
  refine ⟨by decide +kernel, by decide +kernel, ?_⟩
  intro hreally
  apply hreally.unended (incompleteCall Sample.startedLate) (by simp) Sample.endedNextDay
  · simp [Sample.acrossMidnight]
  · rfl
  · rfl

theorem report_unfinished_iff_acrossMidnight :
    ∃ calls, loadUnfinishedCalls Sample.analyticsClock "repo" Sample.acrossMidnight
        Sample.manifestTable {} = .ok calls ∧
      CountsCalls Sample.unfiltered calls ∧
      (ReallyUnfinished Sample.acrossMidnight calls ↔
        FiltersKeepCallsWhole Sample.analyticsClock "repo" Sample.acrossMidnight
          Sample.manifestTable {}) :=
  have hreport : generateTokenEconomicsReport Sample.analyticsClock "repo" [] []
      Sample.acrossMidnight {} = .ok Sample.unfiltered := by decide +kernel
  report_unfinished_iff hreport

end SuitCode
