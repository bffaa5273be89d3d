import SuitCode.CodexRollouts
import SuitCode.Library.PairedGroups
import SuitCode.TokenReports
import Mathlib.Algebra.GroupWithZero.Nat
import Mathlib.Algebra.Ring.Int.Defs

/-!
# Accounting of calls

The events of a log are collapsed into one record for each invocation.  The summary counts all
of them, the tool usage those of each tool; both are the same however the events lie in the log.
-/

namespace SuitCode

open ExceptList KeyedList PairedGroups PosixText

/-! ## Invocations -/

structure InvocationRecord where
  invocationId : String
  toolName : String
  hasStartedEvent : Bool
  terminalEvent : Option AnalyticsEvent
  deriving DecidableEq, Repr

def orderedGroup (group : List AnalyticsEvent) : List AnalyticsEvent :=
  sortedBy (fun event => toLex (event.timestampUtc, event.eventId)) group

def invocationRecord (invocationId : String) (group : List AnalyticsEvent) :
    Option InvocationRecord := do
  let ordered := orderedGroup group
  let terminalEvent := (ordered.filter fun event => event.status.isTerminal).getLast?
  let last ← ordered.getLast?
  let representative := terminalEvent.getD last
  some
    { invocationId := invocationId
      toolName := representative.toolName
      hasStartedEvent := ordered.any fun event => event.status = .started
      terminalEvent := terminalEvent }

def collapseInvocations (events : List AnalyticsEvent) : List InvocationRecord :=
  let keys := dedupeBy id (events.map AnalyticsEvent.invocationName)
  sortedBy InvocationRecord.invocationId
    (keys.filterMap fun key =>
      invocationRecord key (groupOf AnalyticsEvent.invocationName key events))

/-- A record holds its invocation's last terminal event, or the invocation has started. -/
structure InvocationRecord.Collapsed (item : InvocationRecord) : Prop where
  started : item.terminalEvent = none → item.hasStartedEvent = true
  terminal : ∀ event, item.terminalEvent = some event → event.status.isTerminal = true

section Records

variable {key : String} {group : List AnalyticsEvent} {item : InvocationRecord}

theorem invocationRecord_invocationId (hitem : invocationRecord key group = some item) :
    item.invocationId = key := by
  unfold invocationRecord at hitem
  cases hlast : (orderedGroup group).getLast? with
  | none => simp [hlast] at hitem
  | some last =>
      simp only [hlast, Option.bind_eq_bind, Option.bind_some, Option.some.injEq] at hitem
      rw [← hitem]

theorem invocationRecord_collapsed (hitem : invocationRecord key group = some item) :
    item.Collapsed := by
  unfold invocationRecord at hitem
  cases hlast : (orderedGroup group).getLast? with
  | none => simp [hlast] at hitem
  | some last =>
      simp only [hlast, Option.bind_eq_bind, Option.bind_some, Option.some.injEq] at hitem
      rw [← hitem]
      constructor
      · intro hnone
        have hmem : last ∈ orderedGroup group := List.mem_of_getLast? hlast
        have hempty := List.getLast?_eq_none_iff.mp hnone
        have hnot := List.filter_eq_nil_iff.mp hempty last hmem
        rw [List.any_eq_true]
        use last
        constructor
        · exact hmem
        · -- the only status which is not terminal
          cases hstatus : last.status <;> simp_all [AnalyticsStatus.isTerminal]
      · intro event hevent
        exact (List.mem_filter.mp (List.mem_of_getLast? hevent)).2

end Records

theorem collapsed_of_mem {events : List AnalyticsEvent} {item : InvocationRecord}
    (hitem : item ∈ collapseInvocations events) : item.Collapsed := by
  unfold collapseInvocations at hitem
  rw [mem_sortedBy, List.mem_filterMap] at hitem
  obtain ⟨key, -, hrecord⟩ := hitem
  exact invocationRecord_collapsed hrecord

/-! ### The order of the events -/

section Order

variable {left right : List AnalyticsEvent}

theorem orderedGroup_eq_of_perm (hperm : left.Perm right)
    (hids : (left.map AnalyticsEvent.eventId).Nodup) : orderedGroup left = orderedGroup right := by
  apply sortedBy_eq_of_perm hperm
  have hmap : (left.map fun event => toLex (event.timestampUtc, event.eventId)).map
      (fun key => (ofLex key).2) = left.map AnalyticsEvent.eventId := by
    rw [List.map_map]
    rfl
  rw [← hmap] at hids
  exact hids.of_map

theorem invocationRecord_eq_of_perm (key : String) (hperm : left.Perm right)
    (hids : (left.map AnalyticsEvent.eventId).Nodup) :
    invocationRecord key left = invocationRecord key right := by
  unfold invocationRecord
  rw [orderedGroup_eq_of_perm hperm hids]

theorem nodup_recordIds (events : List AnalyticsEvent) {keys : List String} (hkeys : keys.Nodup) :
    ((keys.filterMap fun key =>
      invocationRecord key (groupOf AnalyticsEvent.invocationName key events)).map
        InvocationRecord.invocationId).Nodup := by
  rw [List.map_filterMap]
  apply hkeys.filterMap
  intro first second invocationId hfirst hsecond
  rw [Option.mem_def, Option.map_eq_some_iff] at hfirst hsecond
  obtain ⟨firstRecord, hfirst, hfirstId⟩ := hfirst
  obtain ⟨secondRecord, hsecond, hsecondId⟩ := hsecond
  rw [← invocationRecord_invocationId hfirst, ← invocationRecord_invocationId hsecond, hfirstId,
    hsecondId]

theorem collapseInvocations_eq_of_perm (hperm : left.Perm right)
    (hids : (left.map AnalyticsEvent.eventId).Nodup) :
    collapseInvocations left = collapseInvocations right := by
  have hnodup : ∀ events : List AnalyticsEvent,
      (dedupeBy id (events.map AnalyticsEvent.invocationName)).Nodup := by
    intro events
    have hdistinct := nodup_map_dedupeBy id (events.map AnalyticsEvent.invocationName)
    rwa [List.map_id] at hdistinct
  have hkeys : (dedupeBy id (left.map AnalyticsEvent.invocationName)).Perm
      (dedupeBy id (right.map AnalyticsEvent.invocationName)) := by
    rw [List.perm_ext_iff_of_nodup (hnodup left) (hnodup right)]
    intro key
    rw [mem_dedupeBy_id, mem_dedupeBy_id]
    exact (hperm.map AnalyticsEvent.invocationName).mem_iff
  have hrecords : ∀ key,
      invocationRecord key (groupOf AnalyticsEvent.invocationName key left) =
        invocationRecord key (groupOf AnalyticsEvent.invocationName key right) := by
    intro key
    apply invocationRecord_eq_of_perm key (hperm.filter _)
    exact hids.sublist (List.filter_sublist.map _)
  unfold collapseInvocations
  simp only [hrecords]
  apply sortedBy_eq_of_perm (hkeys.filterMap _)
  exact nodup_recordIds right (hnodup left)

end Order

/-! ## Estimates of calls -/

inductive SavingsConfidence where
  | low
  | medium
  | high
  deriving DecidableEq, Repr

structure CallEstimate where
  toolName : String
  actualTokensEstimate : ℤ
  counterfactualTokensEstimate : ℤ
  estimatedTokensSaved : ℤ
  confidenceLevel : SavingsConfidence
  deriving DecidableEq, Repr

def mediumValueTools : List String :=
  ["list_components", "list_component_dependency_edges", "get_component_dependencies",
    "get_component_dependents", "find_symbols", "list_symbols_in_file", "find_definition",
    "find_references", "list_tests", "get_related_tests", "repository_summary"]

/-- The tokens which a call saves others: `int` of the product with 4.0, 2.0 or 1.2. -/
def counterfactualTokens (toolName : String) (actualTokens : ℤ) : ℤ × SavingsConfidence :=
  if toolName ∈ highValueTools then (actualTokens * 4, .high)
  else if toolName ∈ mediumValueTools then (actualTokens * 2, .medium)
  else (actualTokens * 6 / 5, .low)

/-- The aggregator: the tools it leaves out, and the length of the text of an event's
redacted arguments, which are not among the fields here. -/
structure AnalyticsAggregator where
  excludedTools : List String
  argumentCharacters : AnalyticsEvent → ℕ

namespace AnalyticsAggregator

variable (aggregator : AnalyticsAggregator)

def actualTokens (event : AnalyticsEvent) : ℤ :=
  let estimate :=
    (aggregator.argumentCharacters event + event.outputPayloadBytes.getD 0) / 4
  if estimate < 1 then 1 else estimate

/-- `TokenEstimator.estimate`. -/
def estimate (event : AnalyticsEvent) : CallEstimate :=
  if event.status = .started then ⟨event.toolName, 0, 0, 0, .low⟩
  else
    let actual := aggregator.actualTokens event
    if event.status = .error then ⟨event.toolName, actual, actual, 0, .low⟩
    else
      let multiplied := counterfactualTokens event.toolName actual
      let counterfactual := max actual multiplied.1
      ⟨event.toolName, actual, counterfactual, max (counterfactual - actual) 0, multiplied.2⟩

/-- `load_events` behind the store. -/
def selectEvents (events : List AnalyticsEvent) (sessionId : Option String)
    (eventFilter : Option (AnalyticsEvent → Bool)) : PyResult (List AnalyticsEvent) := do
  let filtered := events.filter fun event => event.toolName ∉ aggregator.excludedTools
  let sessionFiltered ←
    match sessionId with
    | none => pure filtered
    | some sessionId =>
        if strip sessionId = "" then
          raiseValueError "session_id must not be empty when provided"
        else
          pure (filtered.filter fun event => event.sessionId = strip sessionId)
  match eventFilter with
  | none => pure sessionFiltered
  | some keeps => pure (sessionFiltered.filter keeps)

end AnalyticsAggregator

/-! ## Statistics -/

structure CallStats where
  totalCalls : ℕ
  startedCalls : ℕ
  finishedCalls : ℕ
  unfinishedCalls : ℕ
  successCalls : ℕ
  errorCalls : ℕ
  p50DurationMs : ℤ
  p95DurationMs : ℤ
  totalPayloadBytes : ℤ
  estimatedTokens : ℤ
  estimatedTokensSaved : ℤ
  confidenceMix : List (SavingsConfidence × ℕ)
  deriving DecidableEq, Repr

structure AnalyticsSummary where
  stats : CallStats
  topTools : List String
  deriving DecidableEq, Repr

structure ToolUsageStats where
  toolName : String
  stats : CallStats
  deriving DecidableEq, Repr

def latencyPercentiles (values : List ℤ) : ℤ × ℤ :=
  let ordered := sortedBy id values
  let count := ordered.length
  let median :=
    if count % 2 = 1 then ordered.getD (count / 2) 0
    else (ordered.getD (count / 2 - 1) 0 + ordered.getD (count / 2) 0).tdiv 2
  if ordered.isEmpty then (0, 0)
  else (median, ordered.getD ((count - 1) * 95 / 100) 0)

namespace AnalyticsAggregator

variable (aggregator : AnalyticsAggregator)

def statsOf (invocations : List InvocationRecord) : CallStats :=
  let terminalEvents := invocations.filterMap InvocationRecord.terminalEvent
  let percentiles := latencyPercentiles (terminalEvents.map AnalyticsEvent.durationMs)
  let estimates := terminalEvents.map aggregator.estimate
  { totalCalls := invocations.length
    startedCalls := invocations.countP InvocationRecord.hasStartedEvent
    finishedCalls := terminalEvents.length
    unfinishedCalls :=
      invocations.countP fun item => item.hasStartedEvent && item.terminalEvent.isNone
    successCalls := terminalEvents.countP fun event => event.status = .success
    errorCalls := terminalEvents.countP fun event => event.status = .error
    p50DurationMs := percentiles.1
    p95DurationMs := percentiles.2
    totalPayloadBytes := (terminalEvents.map fun event => event.outputPayloadBytes.getD 0).sum
    estimatedTokens := (estimates.map CallEstimate.actualTokensEstimate).sum
    estimatedTokensSaved := (estimates.map CallEstimate.estimatedTokensSaved).sum
    confidenceMix := itemCounter (estimates.map CallEstimate.confidenceLevel) }

def topTools (invocations : List InvocationRecord) : List String :=
  ((sortedBy (fun entry : String × ℕ => -(entry.2 : ℤ))
    (itemCounter (invocations.map InvocationRecord.toolName))).take 5).map Prod.fst

def usageRows (invocations : List InvocationRecord) : List ToolUsageStats :=
  sortedBy (fun row => toLex (-(row.stats.totalCalls : ℤ), row.toolName))
    ((dedupeBy id (invocations.map InvocationRecord.toolName)).map fun toolName =>
      ⟨toolName, aggregator.statsOf (groupOf InvocationRecord.toolName toolName invocations)⟩)

variable (clock : AnalyticsClock) (streams : List (String × List AnalyticsLine))
  (sessionId : Option String) (eventFilter : Option (AnalyticsEvent → Bool))

def summary : PyResult AnalyticsSummary := do
  let events ← loadEventStreams clock streams
  let selected ← aggregator.selectEvents events sessionId eventFilter
  let invocations := collapseInvocations selected
  pure ⟨aggregator.statsOf invocations, topTools invocations⟩

def toolUsage : PyResult (List ToolUsageStats) := do
  let events ← loadEventStreams clock streams
  let selected ← aggregator.selectEvents events sessionId eventFilter
  pure (aggregator.usageRows (collapseInvocations selected))

end AnalyticsAggregator

/-! ## What the counts come to -/

/-- The invocations whose terminal event says that they were interrupted. -/
def interruptedCalls (invocations : List InvocationRecord) : ℕ :=
  invocations.countP fun item => item.terminalEvent.any fun event => event.status = .interrupted

def CallStats.confidenceCount (stats : CallStats) (level : SavingsConfidence) : ℕ :=
  (stats.confidenceMix.lookup level).getD 0

/-- The calls of some statistics are the finished and the unfinished ones, and the finished
ones are those of each terminal status. -/
structure CallStats.Accounts (stats : CallStats) (interrupted : ℕ) : Prop where
  total : stats.totalCalls = stats.finishedCalls + stats.unfinishedCalls
  finished : stats.finishedCalls = stats.successCalls + stats.errorCalls + interrupted

/-- Every count which adds up, of a whole and of its parts. -/
structure CallStats.SumsOver (stats : CallStats) (parts : List CallStats) : Prop where
  totalCalls : stats.totalCalls = (parts.map CallStats.totalCalls).sum
  startedCalls : stats.startedCalls = (parts.map CallStats.startedCalls).sum
  finishedCalls : stats.finishedCalls = (parts.map CallStats.finishedCalls).sum
  unfinishedCalls : stats.unfinishedCalls = (parts.map CallStats.unfinishedCalls).sum
  successCalls : stats.successCalls = (parts.map CallStats.successCalls).sum
  errorCalls : stats.errorCalls = (parts.map CallStats.errorCalls).sum
  totalPayloadBytes : stats.totalPayloadBytes = (parts.map CallStats.totalPayloadBytes).sum
  estimatedTokens : stats.estimatedTokens = (parts.map CallStats.estimatedTokens).sum
  estimatedTokensSaved :
    stats.estimatedTokensSaved = (parts.map CallStats.estimatedTokensSaved).sum
  confidenceCount : ∀ level,
    stats.confidenceCount level = (parts.map fun part => part.confidenceCount level).sum

namespace AnalyticsAggregator

section Counts

variable (aggregator : AnalyticsAggregator)

theorem statsOf_accounts {invocations : List InvocationRecord}
    (hcollapsed : ∀ item ∈ invocations, item.Collapsed) :
    (aggregator.statsOf invocations).Accounts (interruptedCalls invocations) := by
  induction invocations with
  | nil => exact ⟨rfl, rfl⟩
  | cons item invocations ih =>
      have hrest := ih fun later hlater => hcollapsed later (List.mem_cons_of_mem _ hlater)
      have hitem := hcollapsed item List.mem_cons_self
      have htotal := hrest.total
      have hfinished := hrest.finished
      cases hterminal : item.terminalEvent with
      | none =>
          have hstarted := hitem.started hterminal
          constructor
          · simp only [statsOf, List.length_cons, List.filterMap_cons_none hterminal,
              List.countP_cons, hstarted, hterminal] at htotal ⊢
            simp only [Option.isNone_none, Bool.and_self, if_true]
            omega
          · simp only [statsOf, interruptedCalls, List.filterMap_cons_none hterminal,
              List.countP_cons, hterminal] at hfinished ⊢
            simpa using hfinished
      | some event =>
          have hended := hitem.terminal event hterminal
          constructor
          · simp only [statsOf, List.length_cons, List.filterMap_cons_some hterminal,
              List.countP_cons, hterminal] at htotal ⊢
            simp only [Option.isNone_some, Bool.and_false, Bool.false_eq_true, if_false]
            omega
          · simp only [statsOf, interruptedCalls, List.filterMap_cons_some hterminal,
              List.length_cons, List.countP_cons, hterminal, Option.any_some] at hfinished ⊢
            -- a terminal event has one of three statuses
            cases hstatus : event.status with
            | started => simp [AnalyticsStatus.isTerminal, hstatus] at hended
            | success => simp; omega
            | error => simp; omega
            | interrupted => simp; omega

theorem sum_usageRows {M : Type} [AddCommMonoid M] (counted : CallStats → M)
    (hadds : Adds fun invocations => counted (aggregator.statsOf invocations))
    (invocations : List InvocationRecord) :
    counted (aggregator.statsOf invocations) =
      (((aggregator.usageRows invocations).map ToolUsageStats.stats).map counted).sum := by
  have hnodup : (dedupeBy id (invocations.map InvocationRecord.toolName)).Nodup := by
    have hdistinct := nodup_map_dedupeBy id (invocations.map InvocationRecord.toolName)
    rwa [List.map_id] at hdistinct
  have hall : ∀ item ∈ invocations,
      item.toolName ∈ dedupeBy id (invocations.map InvocationRecord.toolName) := by
    intro item hitem
    rw [mem_dedupeBy_id]
    exact List.mem_map_of_mem hitem
  have hsum := hadds.sum_groupOf hnodup hall
  rw [← hsum, usageRows]
  have hperm := (sortedBy_perm
    (fun row : ToolUsageStats => toLex (-(row.stats.totalCalls : ℤ), row.toolName))
    ((dedupeBy id (invocations.map InvocationRecord.toolName)).map fun toolName =>
      ⟨toolName, aggregator.statsOf
        (groupOf InvocationRecord.toolName toolName invocations)⟩)).map ToolUsageStats.stats
  have hrows := (hperm.map counted).sum_eq
  rw [hrows, List.map_map, List.map_map]
  rfl

theorem adds_terminal {M : Type} [AddCommMonoid M] (f : AnalyticsEvent → M) :
    Adds fun invocations : List InvocationRecord =>
      ((invocations.filterMap InvocationRecord.terminalEvent).map f).sum :=
  (adds_sum f).filterMap InvocationRecord.terminalEvent

theorem sumsOver_usageRows (invocations : List InvocationRecord) :
    (aggregator.statsOf invocations).SumsOver
      ((aggregator.usageRows invocations).map ToolUsageStats.stats) where
  totalCalls := aggregator.sum_usageRows CallStats.totalCalls adds_length invocations
  startedCalls := aggregator.sum_usageRows CallStats.startedCalls (adds_countP _) invocations
  finishedCalls :=
    aggregator.sum_usageRows CallStats.finishedCalls (adds_length.filterMap _) invocations
  unfinishedCalls :=
    aggregator.sum_usageRows CallStats.unfinishedCalls (adds_countP _) invocations
  successCalls :=
    aggregator.sum_usageRows CallStats.successCalls ((adds_countP _).filterMap _) invocations
  errorCalls :=
    aggregator.sum_usageRows CallStats.errorCalls ((adds_countP _).filterMap _) invocations
  totalPayloadBytes :=
    aggregator.sum_usageRows CallStats.totalPayloadBytes (adds_terminal _) invocations
  estimatedTokens := by
    apply aggregator.sum_usageRows CallStats.estimatedTokens
    simp only [statsOf, List.map_map]
    exact adds_terminal _
  estimatedTokensSaved := by
    apply aggregator.sum_usageRows CallStats.estimatedTokensSaved
    simp only [statsOf, List.map_map]
    exact adds_terminal _
  confidenceCount := by
    intro level
    apply aggregator.sum_usageRows fun stats => stats.confidenceCount level
    simp only [CallStats.confidenceCount, statsOf, lookup_itemCounter, List.count, List.map_map,
      List.countP_map]
    exact (adds_countP _).filterMap _

end Counts

/-! ## Whole logs -/

section Logs

variable (aggregator : AnalyticsAggregator) {clock : AnalyticsClock}
  {first second : List (String × List AnalyticsLine)}
  {firstEvents secondEvents : List AnalyticsEvent}
  (sessionId : Option String) (eventFilter : Option (AnalyticsEvent → Bool))

theorem selectEvents_cases :
    (∃ exception, ∀ events,
      aggregator.selectEvents events sessionId eventFilter = .error exception) ∨
    ∃ keeps : AnalyticsEvent → Bool, ∀ events,
      aggregator.selectEvents events sessionId eventFilter = .ok (events.filter keeps) := by
  cases sessionId with
  | none =>
      right
      cases eventFilter with
      | none =>
          use fun event => event.toolName ∉ aggregator.excludedTools
          intro events
          rfl
      | some wanted =>
          use fun event => wanted event && decide (event.toolName ∉ aggregator.excludedTools)
          intro events
          rw [← List.filter_filter]
          rfl
  | some sessionId =>
      by_cases hblank : strip sessionId = ""
      · left
        use .valueError "session_id must not be empty when provided"
        intro events
        unfold selectEvents
        simp only [hblank, if_true]
        rfl
      · right
        cases eventFilter with
        | none =>
            use fun event => decide (event.sessionId = strip sessionId) &&
              decide (event.toolName ∉ aggregator.excludedTools)
            intro events
            rw [← List.filter_filter]
            simp [selectEvents, hblank]
        | some wanted =>
            use fun event => wanted event && (decide (event.sessionId = strip sessionId) &&
              decide (event.toolName ∉ aggregator.excludedTools))
            intro events
            rw [← List.filter_filter, ← List.filter_filter]
            simp [selectEvents, hblank]

theorem loadedStreams_perm (hfirst : loadEventStreams clock first = .ok firstEvents)
    (hsecond : loadEventStreams clock second = .ok secondEvents)
    (hsame : ∀ line, line ∈ streamLines first ↔ line ∈ streamLines second)
    (hdistinct : DistinctIds (streamLines first)) : firstEvents.Perm secondEvents := by
  have hfirstIds := nodup_loadedStreams hfirst
  have hsecondIds := nodup_loadedStreams hsecond
  have hdistinctSecond : DistinctIds (streamLines second) := by
    intro left right hleft hright
    exact hdistinct left right ((hsame _).mpr hleft) ((hsame _).mpr hright)
  rw [List.perm_ext_iff_of_nodup hfirstIds.of_map hsecondIds.of_map]
  intro event
  rw [mem_loadedStreams hfirst hdistinct, mem_loadedStreams hsecond hdistinctSecond, hsame]

theorem selected_collapse_alike (hfirst : loadEventStreams clock first = .ok firstEvents)
    (hsecond : loadEventStreams clock second = .ok secondEvents)
    (hsame : ∀ line, line ∈ streamLines first ↔ line ∈ streamLines second)
    (hdistinct : DistinctIds (streamLines first)) :
    collapseInvocations <$> aggregator.selectEvents firstEvents sessionId eventFilter =
      collapseInvocations <$> aggregator.selectEvents secondEvents sessionId eventFilter := by
  have hperm := loadedStreams_perm hfirst hsecond hsame hdistinct
  cases aggregator.selectEvents_cases sessionId eventFilter with
  | inl hrefused =>
      obtain ⟨exception, hrefused⟩ := hrefused
      rw [hrefused, hrefused]
  | inr hkept =>
      obtain ⟨keeps, hkept⟩ := hkept
      rw [hkept, hkept, Except.map_ok, Except.map_ok]
      congr 1
      apply collapseInvocations_eq_of_perm (hperm.filter keeps)
      exact (nodup_loadedStreams hfirst).sublist (List.filter_sublist.map _)

theorem summary_of_loaded (hfirst : loadEventStreams clock first = .ok firstEvents) :
    aggregator.summary clock first sessionId eventFilter =
      (fun invocations => ⟨aggregator.statsOf invocations, topTools invocations⟩) <$>
        collapseInvocations <$> aggregator.selectEvents firstEvents sessionId eventFilter := by
  unfold summary
  rw [hfirst, ok_bind]
  cases aggregator.selectEvents firstEvents sessionId eventFilter with
  | error exception => rfl
  | ok selected => rfl

theorem toolUsage_of_loaded (hfirst : loadEventStreams clock first = .ok firstEvents) :
    aggregator.toolUsage clock first sessionId eventFilter =
      aggregator.usageRows <$> collapseInvocations <$>
        aggregator.selectEvents firstEvents sessionId eventFilter := by
  unfold toolUsage
  rw [hfirst, ok_bind]
  cases aggregator.selectEvents firstEvents sessionId eventFilter with
  | error exception => rfl
  | ok selected => rfl

theorem usageRows_account {invocations : List InvocationRecord}
    (hcollapsed : ∀ item ∈ invocations, item.Collapsed) :
    ∀ row ∈ aggregator.usageRows invocations,
      row.stats.Accounts
        (interruptedCalls (groupOf InvocationRecord.toolName row.toolName invocations)) := by
  intro row hrow
  unfold usageRows at hrow
  rw [mem_sortedBy, List.mem_map] at hrow
  obtain ⟨toolName, -, hrow⟩ := hrow
  rw [← hrow]
  apply aggregator.statsOf_accounts
  intro item hitem
  exact hcollapsed item (mem_groupOf.mp hitem).1

/-- Logs of the same valid events, no two of which share an id, have the same summary and the
same usage of tools, whatever their order.  The calls of every log are accounted for, and the
rows come to the summary. -/
theorem callAccounting (hvalid : ValidLines clock (streamLines first))
    (hsame : ∀ line, line ∈ streamLines first ↔ line ∈ streamLines second) :
    (DistinctIds (streamLines first) →
      aggregator.summary clock first sessionId eventFilter =
          aggregator.summary clock second sessionId eventFilter ∧
        aggregator.toolUsage clock first sessionId eventFilter =
          aggregator.toolUsage clock second sessionId eventFilter) ∧
      ∀ summary, aggregator.summary clock first sessionId eventFilter = .ok summary →
        ∃ events selected rows,
          loadEventStreams clock first = .ok events ∧
          aggregator.selectEvents events sessionId eventFilter = .ok selected ∧
          aggregator.toolUsage clock first sessionId eventFilter = .ok rows ∧
          summary.stats.Accounts (interruptedCalls (collapseInvocations selected)) ∧
          (∀ row ∈ rows, row.stats.Accounts (interruptedCalls
            (groupOf InvocationRecord.toolName row.toolName (collapseInvocations selected)))) ∧
          summary.stats.SumsOver (rows.map ToolUsageStats.stats) := by
  obtain ⟨firstEvents, hfirst⟩ := exists_loadedStreams hvalid
  have hvalidSecond : ValidLines clock (streamLines second) := by
    intro line hline
    exact hvalid line ((hsame line).mpr hline)
  obtain ⟨secondEvents, hsecond⟩ := exists_loadedStreams hvalidSecond
  rw [toolUsage_of_loaded aggregator sessionId eventFilter hfirst,
    summary_of_loaded aggregator sessionId eventFilter hfirst]
  constructor
  · intro hdistinct
    rw [toolUsage_of_loaded aggregator sessionId eventFilter hsecond,
      summary_of_loaded aggregator sessionId eventFilter hsecond,
      aggregator.selected_collapse_alike sessionId eventFilter hfirst hsecond hsame hdistinct]
    exact ⟨rfl, rfl⟩
  intro summary hsummary
  cases hselected : aggregator.selectEvents firstEvents sessionId eventFilter with
  | error exception =>
      rw [hselected] at hsummary
      cases hsummary
  | ok selected =>
      simp only [hselected, Except.map_ok, Except.ok.injEq] at hsummary
      have hcollapsed : ∀ item ∈ collapseInvocations selected, item.Collapsed :=
        fun item hitem => collapsed_of_mem hitem
      use firstEvents, selected, aggregator.usageRows (collapseInvocations selected)
      rw [← hsummary]
      constructor
      · exact hfirst
      constructor
      · exact hselected
      constructor
      · rw [Except.map_ok, Except.map_ok]
      constructor
      · exact aggregator.statsOf_accounts hcollapsed
      constructor
      · exact aggregator.usageRows_account hcollapsed
      · exact aggregator.sumsOver_usageRows (collapseInvocations selected)

end Logs

end AnalyticsAggregator

/-! ### A log in two orders -/

namespace CallSample

def ended (eventId timestampUtc : String) (payloadBytes : ℤ) : AnalyticsEvent :=
  { eventId := eventId, invocationId := some "call", sessionId := "s",
    timestampUtc := timestampUtc, toolName := "analyze_change",
    argumentsFingerprintSha256 := "f", status := .success, durationMs := 7,
    outputPayloadBytes := some payloadBytes }

def inOneLog (events : List AnalyticsEvent) : List (String × List AnalyticsLine) :=
  [("/global", events.map .record)]

def aggregator : AnalyticsAggregator where
  excludedTools := ["inspect_repository_support"]
  argumentCharacters := fun _ => 2

def twice : List AnalyticsEvent :=
  [ended "e1" "1970-01-01T00:00:00.000Z" 10, ended "e2" "1970-01-01T23:59:59.000Z" 40]

def oneId : List AnalyticsEvent :=
  [ended "e" "1970-01-01T00:00:00.000Z" 10, ended "e" "1970-01-01T00:00:00.000Z" 40]

theorem same_reverse (events : List AnalyticsEvent) (line : AnalyticsLine) :
    line ∈ streamLines (inOneLog events) ↔ line ∈ streamLines (inOneLog events.reverse) := by
  simp [streamLines, inOneLog]

theorem validLines_inOneLog {events : List AnalyticsEvent}
    (hvalid : ∀ event ∈ events, event.validate Sample.analyticsClock = .ok event) :
    ValidLines Sample.analyticsClock (streamLines (inOneLog events)) := by
  intro line hline
  simp only [streamLines, inOneLog, List.flatMap_cons, List.flatMap_nil, List.append_nil,
    List.mem_map] at hline
  obtain ⟨event, hmem, rfl⟩ := hline
  exact ⟨event, rfl, hvalid event hmem⟩

theorem twice_valid : ∀ event ∈ twice, event.validate Sample.analyticsClock = .ok event := by
  decide +kernel

theorem oneId_valid : ∀ event ∈ oneId, event.validate Sample.analyticsClock = .ok event := by
  decide +kernel

end CallSample

/-- Of two events with one id the later line counts, so that the order changes the sums. -/
theorem AnalyticsAggregator.summary_depends_on_order :
    ¬ ∀ (aggregator : AnalyticsAggregator) (clock : AnalyticsClock)
      (first second : List (String × List AnalyticsLine)),
      ValidLines clock (streamLines first) →
        (∀ line, line ∈ streamLines first ↔ line ∈ streamLines second) →
          aggregator.summary clock first none none =
            aggregator.summary clock second none none := by
  intro hall
  have hsame := hall CallSample.aggregator Sample.analyticsClock
    (CallSample.inOneLog CallSample.oneId) (CallSample.inOneLog CallSample.oneId.reverse)
    (CallSample.validLines_inOneLog CallSample.oneId_valid)
    (CallSample.same_reverse CallSample.oneId)
  revert hsame
  decide +kernel

theorem AnalyticsAggregator.callAccounting_backwards :
    CallSample.aggregator.summary Sample.analyticsClock
        (CallSample.inOneLog CallSample.twice) none none =
      CallSample.aggregator.summary Sample.analyticsClock
        (CallSample.inOneLog CallSample.twice.reverse) none none := by
  have haccounting := CallSample.aggregator.callAccounting none none
    (CallSample.validLines_inOneLog CallSample.twice_valid)
    (CallSample.same_reverse CallSample.twice)
  refine (haccounting.1 ?_).1
  intro left right hleft hright hid
  simp only [streamLines, CallSample.inOneLog, CallSample.twice, CallSample.ended,
    List.map_cons, List.map_nil, List.flatMap_cons, List.flatMap_nil, List.append_nil,
    List.mem_cons, AnalyticsLine.record.injEq, List.not_mem_nil, or_false] at hleft hright
  rcases hleft with rfl | rfl <;> rcases hright with rfl | rfl <;>
    first | rfl | (exact absurd hid (by decide))

end SuitCode
