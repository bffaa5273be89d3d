import SuitCode.CallAccounting
import SuitCode.DateFilters
import SuitCode.NativeAgentModels
import SuitCode.Library.FirstOccurrences

/-!
# Sessions and the events of the log

A native session is correlated with events of the analytics log by its id, its tools and the
time it took.  Where the session shows no tools, their usage is made from the events.
-/

namespace SuitCode

open ExceptList KeyedList PosixText

/-! ## Correlated events -/

structure AnalyticsCorrelationService where
  clock : AnalyticsClock
  timingTolerance : ℤ

def analyticsTimestamp (clock : AnalyticsClock) (event : AnalyticsEvent) : PyResult ℤ :=
  clock.fromIsoFormat
    (if endsWith event.timestampUtc "Z" then removeSuffix "Z" event.timestampUtc ++ "+00:00"
    else event.timestampUtc)

def mostCommonEntry : List (String × ℕ) → Option (String × ℕ)
  | [] => none
  | entry :: entries =>
      match mostCommonEntry entries with
      | none => some entry
      | some later => if entry.2 < later.2 then some later else some entry

/-- `Counter(item.session_id for item in events).most_common(1)[0][0]`. -/
def mostCommonSession (events : List AnalyticsEvent) : Option String :=
  (mostCommonEntry (itemCounter (events.map AnalyticsEvent.sessionId))).map Prod.fst

structure Correlation where
  quality : CorrelationQuality
  events : List AnalyticsEvent
  sessionId : Option String
  deriving DecidableEq, Repr

namespace NativeSessionAnalytics

variable (session : NativeSessionAnalytics) (events : List AnalyticsEvent)

def matchingSessionEvents : List AnalyticsEvent :=
  events.filter fun event => event.sessionId = session.sessionId.val

def overlapTools : List String :=
  (events.map AnalyticsEvent.toolName).filter fun toolName =>
    toolName ∈ session.suitcodeTools.map NativeSuitCodeToolUse.toolName

def correlateByName : Correlation :=
  if session.overlapTools events ≠ [] then
    { quality := .toolOverlap
      events := events.filter fun event => event.toolName ∈ session.overlapTools events
      sessionId :=
        if session.matchingSessionEvents events ≠ [] then some session.sessionId.val else none }
  else if session.matchingSessionEvents events ≠ [] then
    ⟨.sessionOnly, session.matchingSessionEvents events, some session.sessionId.val⟩
  else ⟨.repoOnly, [], none⟩

def overlapAndTime (timeWindowEvents : List AnalyticsEvent) : List AnalyticsEvent :=
  timeWindowEvents.filter fun event => event.toolName ∈ session.overlapTools events

def correlation (timeWindowEvents : List AnalyticsEvent) : Correlation :=
  let matching := session.matchingSessionEvents events
  let both := session.overlapAndTime events timeWindowEvents
  let named := session.correlateByName events
  if matching ≠ [] ∧ both ≠ [] then ⟨.strong, both, some session.sessionId.val⟩
  else if both ≠ [] then ⟨.strong, both, mostCommonSession both⟩
  else if matching ≠ [] ∧ timeWindowEvents ≠ [] then
    ⟨.strong, timeWindowEvents, some session.sessionId.val⟩
  else if timeWindowEvents ≠ [] ∧ session.repositoryRoot ≠ none ∧ session.suitcodeTools = [] then
    ⟨.strong, timeWindowEvents, mostCommonSession timeWindowEvents⟩
  else if named.events ≠ [] ∧ named.sessionId = none then
    { named with sessionId := mostCommonSession named.events }
  else named

end NativeSessionAnalytics

/-! ## Usage from events -/

def toolTimes (clock : AnalyticsClock) (events : List AnalyticsEvent) :
    PyResult (List (String × ℤ)) :=
  events.mapM fun event => do
    let timestamp ← analyticsTimestamp clock event
    return (event.toolName, timestamp)

def timesOf (times : List (String × ℤ)) (toolName : String) : List ℤ :=
  (times.filter fun entry => entry.1 = toolName).map Prod.snd

def orderedTools (times : List (String × ℤ)) : List String :=
  sortedBy (fun toolName => toLex ((timesOf times toolName).min?.getD 0, toolName))
    (dedupeBy id (times.map Prod.fst))

def toolUseFromTimes (times : List (String × ℤ)) (toolName : String) :
    PyResult NativeSuitCodeToolUse :=
  NativeSuitCodeToolUse.create toolName (timesOf times toolName).length
    (timesOf times toolName).min? (timesOf times toolName).max?

def toolUsageFromEvents (clock : AnalyticsClock) (events : List AnalyticsEvent) :
    PyResult (List NativeSuitCodeToolUse) := do
  let times ← toolTimes clock events
  (orderedTools times).mapM (toolUseFromTimes times)

namespace AnalyticsCorrelationService

variable (service : AnalyticsCorrelationService)

def inTimeWindow (session : NativeSessionAnalytics) (timestamp : ℤ) : Bool :=
  session.artifact.startedAt - service.timingTolerance ≤ timestamp &&
    timestamp ≤ session.artifact.lastEventAt + service.timingTolerance

def timingOverlapEvents (session : NativeSessionAnalytics) :
    List AnalyticsEvent → PyResult (List AnalyticsEvent)
  | [] => .ok []
  | event :: events => do
      let timestamp ← analyticsTimestamp service.clock event
      let matched ← timingOverlapEvents session events
      return if service.inTimeWindow session timestamp then event :: matched else matched

/-- `correlate_session` over the events which the store has for the repository. -/
def correlateSession (session : NativeSessionAnalytics) (repositoryRoot : Option String)
    (events : List AnalyticsEvent) : PyResult NativeSessionAnalytics :=
  if repositoryRoot = none then .ok { session with correlationQuality := .none }
  else if events = [] then
    .ok
      { session with
        correlationQuality := .none
        notes := session.notes ++ ["no SuitCode analytics events were found for the repository"] }
  else do
    let timeWindowEvents ← service.timingOverlapEvents session events
    let found := session.correlation events timeWindowEvents
    let notes :=
      if found.quality = .repoOnly then
        session.notes ++
          ["repository matched but no overlapping SuitCode analytics events were found"]
      else if found.quality = .toolOverlap ∧
          session.overlapAndTime events timeWindowEvents = [] then
        session.notes ++ ["tool overlap found without timing overlap"]
      else session.notes
    let correlated :=
      { session with
        correlationQuality := found.quality
        correlatedAnalyticsSessionId := found.sessionId
        correlatedEventCount := found.events.length
        notes := notes }
    if session.suitcodeTools = [] ∧
        found.quality ∈ [CorrelationQuality.sessionOnly, .toolOverlap, .strong] ∧
          found.events ≠ [] then do
      let synthesizedTools ← toolUsageFromEvents service.clock found.events
      return { correlated with
        usedSuitcode := !synthesizedTools.isEmpty
        suitcodeTools := synthesizedTools
        firstSuitcodeTool := synthesizedTools.head?.map NativeSuitCodeToolUse.toolName
        firstHighValueSuitcodeTool := (synthesizedTools.find? fun tool =>
          tool.toolName ∈ highValueTools).map NativeSuitCodeToolUse.toolName
        notes := notes ++
          ["SuitCode tool visibility synthesized from correlated MCP analytics events"] }
    else return correlated

def windowEvents (session : NativeSessionAnalytics) (events : List AnalyticsEvent) :
    List AnalyticsEvent :=
  events.filter fun event =>
    match analyticsTimestamp service.clock event with
    | .ok timestamp => service.inTimeWindow session timestamp
    | .error _ => false

def correlatedEvents (session : NativeSessionAnalytics) (repositoryRoot : Option String)
    (events : List AnalyticsEvent) : List AnalyticsEvent :=
  if repositoryRoot = none ∨ events = [] then []
  else (session.correlation events (service.windowEvents session events)).events

end AnalyticsCorrelationService

/-! ## What the usage should say -/

def distinctInvocations (toolName : String) (events : List AnalyticsEvent) : ℕ :=
  (dedupeBy id ((events.filter fun event => event.toolName = toolName).map
    AnalyticsEvent.invocationName)).length

/-- The usage made from events counts invocations, and the session which is named has one of the
events. -/
structure CallsCorrelated (service : AnalyticsCorrelationService)
    (session : NativeSessionAnalytics) (correlated : List AnalyticsEvent)
    (result : NativeSessionAnalytics) : Prop where
  counted : session.suitcodeTools = [] → ∀ times,
    toolTimes service.clock correlated = .ok times →
      List.Forall₂ (fun toolName tool => tool.toolName = strip toolName ∧
        tool.callCount = distinctInvocations toolName correlated)
          (orderedTools times) result.suitcodeTools
  attributed : ∀ sessionId, result.correlatedAnalyticsSessionId = some sessionId →
    ∃ event ∈ correlated, event.sessionId = sessionId

def OneEventPerCall (events : List AnalyticsEvent) : Prop :=
  events.Pairwise fun earlier later =>
    earlier.toolName = later.toolName → earlier.invocationName ≠ later.invocationName

def eventsBesideSession (session : NativeSessionAnalytics)
    (events timeWindowEvents : List AnalyticsEvent) : List AnalyticsEvent :=
  if session.overlapAndTime events timeWindowEvents ≠ [] then
    session.overlapAndTime events timeWindowEvents
  else if timeWindowEvents ≠ [] then timeWindowEvents
  else if session.overlapTools events ≠ [] then
    events.filter fun event => event.toolName ∈ session.overlapTools events
  else session.matchingSessionEvents events

def eventsWithoutTools (session : NativeSessionAnalytics)
    (events timeWindowEvents : List AnalyticsEvent) : List AnalyticsEvent :=
  if timeWindowEvents ≠ [] ∧
      (session.matchingSessionEvents events ≠ [] ∨ session.repositoryRoot ≠ none) then
    timeWindowEvents
  else session.matchingSessionEvents events

structure Correlatable (service : AnalyticsCorrelationService)
    (session : NativeSessionAnalytics) (repositoryRoot : Option String)
    (events : List AnalyticsEvent) : Prop where
  uncorrelated : repositoryRoot = none ∨ events = [] →
    session.correlatedAnalyticsSessionId = none
  oneEvent : repositoryRoot ≠ none → session.suitcodeTools = [] →
    OneEventPerCall (eventsWithoutTools session events (service.windowEvents session events))
  ownEvent : repositoryRoot ≠ none → session.matchingSessionEvents events ≠ [] →
    ∃ event ∈ eventsBesideSession session events (service.windowEvents session events),
      event.sessionId = session.sessionId.val

/-! ## Counting invocations -/

theorem oneEventPerCall_iff {events : List AnalyticsEvent} :
    OneEventPerCall events ↔ ∀ toolName ∈ events.map AnalyticsEvent.toolName,
      (events.filter fun event => event.toolName = toolName).length =
        distinctInvocations toolName events := by
  have hcount : ∀ toolName,
      (events.filter fun event => event.toolName = toolName).length =
          distinctInvocations toolName events ↔
        ((events.filter fun event => event.toolName = toolName).map
          AnalyticsEvent.invocationName).Nodup := by
    intro toolName
    rw [← length_dedupeBy_eq_iff, List.length_map, eq_comm]
    rfl
  simp only [hcount]
  constructor
  · intro hevents toolName _
    apply List.pairwise_map.mpr
    have hfiltered := List.Pairwise.filter (fun event => event.toolName = toolName) hevents
    apply hfiltered.imp_of_mem
    intro earlier later hearlier hlater hpair
    apply hpair
    have hfirst := (List.mem_filter.mp hearlier).2
    have hsecond := (List.mem_filter.mp hlater).2
    simp only [decide_eq_true_eq] at hfirst hsecond
    rw [hfirst, hsecond]
  · intro htools
    apply List.pairwise_iff_forall_sublist.mpr
    intro earlier later hsublist htool hinvocation
    have hmem : earlier ∈ events := hsublist.subset List.mem_cons_self
    have hnodup := htools earlier.toolName (List.mem_map_of_mem hmem)
    have hpair := (hsublist.filter fun event => event.toolName = earlier.toolName).map
      AnalyticsEvent.invocationName
    have hboth := hpair.nodup hnodup
    simp [htool, hinvocation] at hboth

section Usage

variable {clock : AnalyticsClock} {events : List AnalyticsEvent} {times : List (String × ℤ)}

theorem map_fst_toolTimes (htimes : toolTimes clock events = .ok times) :
    times.map Prod.fst = events.map AnalyticsEvent.toolName := by
  apply map_outputs_eq Prod.fst AnalyticsEvent.toolName htimes
  intro event _ entry hentry
  obtain ⟨timestamp, -, hpair⟩ := bind_eq_ok.mp hentry
  rw [← pure_eq_ok.mp hpair]

theorem length_timesOf (htimes : toolTimes clock events = .ok times) (toolName : String) :
    (timesOf times toolName).length =
      (events.filter fun event => event.toolName = toolName).length := by
  have hcount := congrArg (List.countP fun name => decide (name = toolName))
    (map_fst_toolTimes htimes)
  rw [List.countP_map, List.countP_map] at hcount
  rw [timesOf, List.length_map, ← List.countP_eq_length_filter, ← List.countP_eq_length_filter]
  exact hcount

theorem mem_orderedTools (htimes : toolTimes clock events = .ok times) {toolName : String} :
    toolName ∈ orderedTools times ↔ toolName ∈ events.map AnalyticsEvent.toolName := by
  rw [orderedTools, mem_sortedBy, mem_dedupeBy_id, map_fst_toolTimes htimes]

theorem toolUse_create_eq_ok {toolName : String} {callCount : ℕ} {firstSeenAt lastSeenAt : Option ℤ}
    {tool : NativeSuitCodeToolUse}
    (hok : NativeSuitCodeToolUse.create toolName callCount firstSeenAt lastSeenAt = .ok tool) :
    tool.toolName = strip toolName ∧ tool.callCount = callCount := by
  unfold NativeSuitCodeToolUse.create at hok
  split at hok
  · exact absurd hok raiseValueError_ne_ok
  · split at hok
    · exact absurd hok raiseValueError_ne_ok
    · split at hok
      · exact absurd hok raiseValueError_ne_ok
      · rw [← Except.ok.inj hok]
        exact ⟨rfl, rfl⟩

theorem toolUsage_counts_iff {tools : List NativeSuitCodeToolUse}
    (htimes : toolTimes clock events = .ok times)
    (hok : toolUsageFromEvents clock events = .ok tools) :
    List.Forall₂ (fun toolName tool => tool.toolName = strip toolName ∧
        tool.callCount = distinctInvocations toolName events) (orderedTools times) tools ↔
      OneEventPerCall events := by
  have hruns : (orderedTools times).mapM (toolUseFromTimes times) = .ok tools := by
    unfold toolUsageFromEvents at hok
    rwa [htimes, ok_bind] at hok
  have hlength : ∀ toolName ∈ orderedTools times, ∀ tool,
      toolUseFromTimes times toolName = .ok tool → tool.toolName = strip toolName ∧
        tool.callCount = (events.filter fun event => event.toolName = toolName).length := by
    intro toolName _ tool htool
    rw [← length_timesOf htimes]
    exact toolUse_create_eq_ok htool
  rw [oneEventPerCall_iff]
  simp only [← mem_orderedTools htimes]
  have hall := mapM_eq_ok_iff.mp hruns
  clear hruns hok
  generalize orderedTools times = names at hall hlength
  induction hall with
  | nil => simp
  | @cons toolName tool names tools htool hrest ih =>
      have hhead := hlength toolName List.mem_cons_self tool htool
      have htail := ih fun other hother => hlength other (List.mem_cons_of_mem _ hother)
      rw [List.forall₂_cons, List.forall_mem_cons, hhead.2]
      apply and_congr
      · simp only [hhead.1, true_and]
      · exact htail

end Usage

/-! ## The session which is named -/

theorem mem_of_mostCommonEntry {entries : List (String × ℕ)} {entry : String × ℕ}
    (hmost : mostCommonEntry entries = some entry) : entry ∈ entries := by
  induction entries generalizing entry with
  | nil => cases hmost
  | cons first entries ih =>
      unfold mostCommonEntry at hmost
      cases hlater : mostCommonEntry entries with
      | none =>
          simp only [hlater, Option.some.injEq] at hmost
          rw [← hmost]
          exact List.mem_cons_self
      | some later =>
          simp only [hlater] at hmost
          split at hmost
          · rw [← Option.some.inj hmost]
            exact List.mem_cons_of_mem _ (ih hlater)
          · rw [← Option.some.inj hmost]
            exact List.mem_cons_self

theorem exists_event_of_mostCommon {events : List AnalyticsEvent} {sessionId : String}
    (hmost : mostCommonSession events = some sessionId) :
    ∃ event ∈ events, event.sessionId = sessionId := by
  obtain ⟨entry, hentry, hid⟩ := Option.map_eq_some_iff.mp hmost
  have hmem := mem_of_mem_itemCounter (mem_of_mostCommonEntry hentry)
  rw [hid] at hmem
  exact List.mem_map.mp hmem

namespace Correlation

def Attributed (correlation : Correlation) : Prop :=
  ∀ sessionId, correlation.sessionId = some sessionId →
    ∃ event ∈ correlation.events, event.sessionId = sessionId

theorem attributed_mostCommon (quality : CorrelationQuality) (events : List AnalyticsEvent) :
    (⟨quality, events, mostCommonSession events⟩ : Correlation).Attributed := by
  intro sessionId hmost
  exact exists_event_of_mostCommon hmost

theorem attributed_some_iff {quality : CorrelationQuality} {events : List AnalyticsEvent}
    {sessionId : String} :
    (⟨quality, events, some sessionId⟩ : Correlation).Attributed ↔
      ∃ event ∈ events, event.sessionId = sessionId := by
  constructor
  · intro hattributed
    exact hattributed sessionId rfl
  · rintro hevent _ ⟨⟩
    exact hevent

end Correlation

namespace NativeSessionAnalytics

variable {session : NativeSessionAnalytics} {events timeWindowEvents : List AnalyticsEvent}

theorem correlation_attributed_iff :
    (session.correlation events timeWindowEvents).Attributed ↔
      (session.matchingSessionEvents events ≠ [] →
        ∃ event ∈ eventsBesideSession session events timeWindowEvents,
          event.sessionId = session.sessionId.val) := by
  unfold correlation eventsBesideSession
  simp only
  by_cases hmatching : session.matchingSessionEvents events = []
  · have hnamed : (session.correlateByName events).sessionId = none := by
      unfold correlateByName
      split
      · simp [hmatching]
      · rw [if_neg (not_not.mpr hmatching)]
    simp only [hmatching, ne_eq, not_true_eq_false, false_and, if_false, false_imp_iff, iff_true]
    split
    · exact Correlation.attributed_mostCommon _ _
    · split
      · exact Correlation.attributed_mostCommon _ _
      · split
        · exact Correlation.attributed_mostCommon _ _
        · intro sessionId hsome
          rw [hnamed] at hsome
          cases hsome
  · simp only [hmatching, ne_eq, not_false_eq_true, true_and, true_imp_iff]
    by_cases hboth : session.overlapAndTime events timeWindowEvents = []
    · by_cases hwindow : timeWindowEvents = []
      · simp only [hwindow, not_true_eq_false, if_false, false_and]
        unfold correlateByName
        by_cases hoverlap : session.overlapTools events = []
        · simp only [hoverlap, hmatching, ne_eq, not_true_eq_false, if_false, not_false_eq_true,
            if_true, and_false, reduceCtorEq]
          exact Correlation.attributed_some_iff
        · simp only [hoverlap, hmatching, ne_eq, not_false_eq_true, if_true, and_false,
            if_false, reduceCtorEq]
          exact Correlation.attributed_some_iff
      · simp only [hboth, hwindow, not_true_eq_false, not_false_eq_true, if_false, if_true]
        exact Correlation.attributed_some_iff
    · simp only [hboth, not_false_eq_true, if_true]
      exact Correlation.attributed_some_iff

theorem correlation_of_no_tools (htools : session.suitcodeTools = []) :
    (session.correlation events timeWindowEvents).events =
        eventsWithoutTools session events timeWindowEvents ∧
      ((session.correlation events timeWindowEvents).events ≠ [] →
        (session.correlation events timeWindowEvents).quality ∈
          [CorrelationQuality.sessionOnly, .toolOverlap, .strong]) := by
  have hoverlap : session.overlapTools events = [] := by
    unfold overlapTools
    rw [htools, List.filter_eq_nil_iff]
    simp
  have hboth : session.overlapAndTime events timeWindowEvents = [] := by
    unfold overlapAndTime
    rw [hoverlap, List.filter_eq_nil_iff]
    simp
  have hnamed : session.correlateByName events =
      if session.matchingSessionEvents events ≠ [] then
        ⟨.sessionOnly, session.matchingSessionEvents events, some session.sessionId.val⟩
      else ⟨.repoOnly, [], none⟩ := by
    unfold correlateByName
    rw [if_neg (not_not.mpr hoverlap)]
  unfold correlation eventsWithoutTools
  rw [hboth, hnamed, htools]
  by_cases hwindow : timeWindowEvents = []
  · by_cases hmatching : session.matchingSessionEvents events = []
    · simp [hwindow, hmatching]
    · simp [hwindow, hmatching]
  · by_cases hmatching : session.matchingSessionEvents events = []
    · by_cases hroot : session.repositoryRoot = none
      · simp [hwindow, hmatching, hroot]
      · simp [hwindow, hmatching, hroot]
    · simp [hwindow, hmatching]

end NativeSessionAnalytics

/-! ## Correlated sessions -/

namespace AnalyticsCorrelationService

variable {service : AnalyticsCorrelationService} {session result : NativeSessionAnalytics}
  {repositoryRoot : Option String} {events : List AnalyticsEvent}

theorem timingOverlapEvents_eq {matched : List AnalyticsEvent}
    (hok : service.timingOverlapEvents session events = .ok matched) :
    matched = service.windowEvents session events := by
  induction events generalizing matched with
  | nil => exact (Except.ok.inj hok).symm
  | cons event events ih =>
      unfold timingOverlapEvents at hok
      obtain ⟨timestamp, htimestamp, hok⟩ := bind_eq_ok.mp hok
      obtain ⟨rest, hrest, hok⟩ := bind_eq_ok.mp hok
      rw [← pure_eq_ok.mp hok, ih hrest]
      unfold windowEvents
      rw [List.filter_cons]
      simp only [htimestamp]

theorem correlateSession_eq_ok (hroot : repositoryRoot ≠ none) (hevents : events ≠ [])
    (hok : service.correlateSession session repositoryRoot events = .ok result) :
    result.correlatedAnalyticsSessionId =
        (session.correlation events (service.windowEvents session events)).sessionId ∧
      (session.suitcodeTools = [] →
        toolUsageFromEvents service.clock
          (session.correlation events (service.windowEvents session events)).events =
            .ok result.suitcodeTools) := by
  unfold correlateSession at hok
  rw [if_neg hroot, if_neg hevents] at hok
  obtain ⟨matched, hmatched, hok⟩ := bind_eq_ok.mp hok
  rw [timingOverlapEvents_eq hmatched] at hok
  simp only at hok
  split at hok
  · obtain ⟨tools, htools, hok⟩ := bind_eq_ok.mp hok
    rw [← pure_eq_ok.mp hok]
    exact ⟨rfl, fun _ => htools⟩
  · rename_i hshown
    rw [← pure_eq_ok.mp hok]
    constructor
    · rfl
    · intro htools
      have hquality := (@NativeSessionAnalytics.correlation_of_no_tools session events
        (service.windowEvents session events) htools).2
      have hnil : (session.correlation events (service.windowEvents session events)).events =
          [] := by
        by_contra hne
        exact hshown ⟨htools, hquality hne, hne⟩
      rw [hnil, htools]
      rfl

theorem callsCorrelated_of_uncorrelated (hnone : repositoryRoot = none ∨ events = [])
    (hok : service.correlateSession session repositoryRoot events = .ok result) :
    result.suitcodeTools = session.suitcodeTools ∧
      result.correlatedAnalyticsSessionId = session.correlatedAnalyticsSessionId := by
  unfold correlateSession at hok
  by_cases hroot : repositoryRoot = none
  · rw [if_pos hroot] at hok
    rw [← Except.ok.inj hok]
    exact ⟨rfl, rfl⟩
  · rw [if_neg hroot, if_pos (hnone.resolve_left hroot)] at hok
    rw [← Except.ok.inj hok]
    exact ⟨rfl, rfl⟩

/-- Usage counts calls and the named session has an event exactly where every call has one event
and the events beside a session's own have one of its. -/
theorem callsCorrelated_iff
    (hok : service.correlateSession session repositoryRoot events = .ok result) :
    CallsCorrelated service session (service.correlatedEvents session repositoryRoot events)
        result ↔
      Correlatable service session repositoryRoot events := by
  by_cases hnone : repositoryRoot = none ∨ events = []
  · have hkept := callsCorrelated_of_uncorrelated hnone hok
    have hcorrelated : service.correlatedEvents session repositoryRoot events = [] :=
      if_pos hnone
    rw [hcorrelated]
    constructor
    · intro hcalls
      constructor
      case uncorrelated =>
        intro _
        cases hid : session.correlatedAnalyticsSessionId with
        | none => rfl
        | some sessionId =>
            obtain ⟨event, hevent, -⟩ := hcalls.attributed sessionId (hkept.2.trans hid)
            cases hevent
      case oneEvent =>
        intro hroot _
        rw [hnone.resolve_left hroot]
        exact List.Pairwise.nil
      case ownEvent =>
        intro hroot hmatching
        rw [hnone.resolve_left hroot] at hmatching
        exact absurd rfl hmatching
    · intro hcorrelatable
      constructor
      case counted =>
        intro htools times htimes
        rw [← Except.ok.inj htimes, hkept.1, htools]
        exact List.Forall₂.nil
      case attributed =>
        intro sessionId hid
        rw [hkept.2, hcorrelatable.uncorrelated hnone] at hid
        cases hid
  · have hcorrelated : service.correlatedEvents session repositoryRoot events =
        (session.correlation events (service.windowEvents session events)).events :=
      if_neg hnone
    obtain ⟨hroot, hevents⟩ := not_or.mp hnone
    obtain ⟨hid, husage⟩ := correlateSession_eq_ok hroot hevents hok
    have hattributed := @NativeSessionAnalytics.correlation_attributed_iff session events
      (service.windowEvents session events)
    rw [hcorrelated]
    constructor
    · intro hcalls
      constructor
      case uncorrelated => exact fun h => absurd h hnone
      case oneEvent =>
        intro _ htools
        have hwithout := (@NativeSessionAnalytics.correlation_of_no_tools session events
          (service.windowEvents session events) htools).1
        obtain ⟨times, htimes, -⟩ := bind_eq_ok.mp (husage htools)
        rw [← hwithout]
        exact (toolUsage_counts_iff htimes (husage htools)).mp
          (hcalls.counted htools times htimes)
      case ownEvent =>
        intro _
        apply hattributed.mp
        intro sessionId hsome
        exact hcalls.attributed sessionId (hid.trans hsome)
    · intro hcorrelatable
      constructor
      case counted =>
        intro htools times htimes
        have hwithout := (@NativeSessionAnalytics.correlation_of_no_tools session events
          (service.windowEvents session events) htools).1
        have hone := hcorrelatable.oneEvent hroot htools
        rw [← hwithout] at hone
        exact (toolUsage_counts_iff htimes (husage htools)).mpr hone
      case attributed =>
        intro sessionId hsome
        exact hattributed.mpr (hcorrelatable.ownEvent hroot) sessionId (hid.symm.trans hsome)

end AnalyticsCorrelationService

namespace CorrelationSample

def service : AnalyticsCorrelationService := ⟨isoClock, 300000000⟩

def callEvent (eventId : String) (status : AnalyticsStatus) : AnalyticsEvent :=
  { eventId := eventId
    invocationId := some "invocation-1"
    sessionId := "analytics-1"
    timestampUtc := "2026-03-20T11:00:00Z"
    toolName := "open_workspace"
    argumentsFingerprintSha256 := "abc"
    status := status
    durationMs := 0 }

def session : NativeSessionAnalytics :=
  { agentKind := .cursor
    sessionId := ⟨"cursor-session-1", by decide⟩
    artifact :=
      { sessionId := "cursor-session-1"
        artifactPath := "/w/agent-transcripts/cursor-session-1.jsonl"
        repositoryRoot := some "/w"
        startedAt := 63909687600000000
        lastEventAt := 63909687660000000
        cwd := none
        cliVersion := none
        modelProvider := none
        eventCount := 1 }
    repositoryRoot := some "/w"
    usedSuitcode := false
    suitcodeTools := []
    firstSuitcodeTool := none
    firstSuitcodeToolIndex := none
    firstHighValueSuitcodeTool := none
    firstHighValueSuitcodeToolIndex := none
    transcriptMetrics := {} }

def correlated (events : List AnalyticsEvent) : PyResult NativeSessionAnalytics :=
  service.correlateSession session (some "/w") events

def events : List AnalyticsEvent := [callEvent "event-1" .started, callEvent "event-2" .success]

theorem callCounts_events :
    (fun result : NativeSessionAnalytics =>
        result.suitcodeTools.map NativeSuitCodeToolUse.callCount) <$> correlated events =
      .ok [2] := by
  decide +kernel

end CorrelationSample

/-- One call with a start and an end counts as two. -/
theorem callsCorrelated_not_always :
    ¬ ∀ (service : AnalyticsCorrelationService) (session : NativeSessionAnalytics)
      (repositoryRoot : Option String) (events : List AnalyticsEvent)
      (result : NativeSessionAnalytics),
        service.correlateSession session repositoryRoot events = .ok result →
          CallsCorrelated service session
            (service.correlatedEvents session repositoryRoot events) result := by
  intro halways
  obtain ⟨result, hok, hcounts⟩ := map_eq_ok.mp CorrelationSample.callCounts_events
  have hcalls := halways CorrelationSample.service CorrelationSample.session (some "/w")
    CorrelationSample.events result hok
  have hevents : CorrelationSample.service.correlatedEvents CorrelationSample.session (some "/w")
      CorrelationSample.events = CorrelationSample.events := by
    decide +kernel
  have htimes : toolTimes CorrelationSample.service.clock CorrelationSample.events =
      .ok [("open_workspace", 63909687600000000), ("open_workspace", 63909687600000000)] := by
    decide +kernel
  rw [hevents] at hcalls
  have hcounted := hcalls.counted rfl _ htimes
  have hnames : orderedTools [("open_workspace", 63909687600000000),
      ("open_workspace", 63909687600000000)] = ["open_workspace"] := by
    decide +kernel
  have hdistinct : distinctInvocations "open_workspace" CorrelationSample.events = 1 := by
    decide +kernel
  rw [hnames] at hcounted
  generalize result.suitcodeTools = tools at hcounts hcounted
  cases hcounted with
  | cons htool hrest =>
      rw [List.map_cons, htool.2, hdistinct] at hcounts
      exact absurd (List.cons.inj hcounts).1 (by decide)

/-- A call whose log holds its end only. -/
theorem callsCorrelated_iff_oneEvent :
    ∃ result,
      CorrelationSample.correlated [CorrelationSample.callEvent "event-2" .success] = .ok result ∧
        (CallsCorrelated CorrelationSample.service CorrelationSample.session
            (CorrelationSample.service.correlatedEvents CorrelationSample.session (some "/w")
              [CorrelationSample.callEvent "event-2" .success]) result ↔
          Correlatable CorrelationSample.service CorrelationSample.session (some "/w")
            [CorrelationSample.callEvent "event-2" .success]) := by
  have hcounts : (fun result : NativeSessionAnalytics =>
        result.suitcodeTools.map NativeSuitCodeToolUse.callCount) <$>
      CorrelationSample.correlated [CorrelationSample.callEvent "event-2" .success] = .ok [1] := by
    decide +kernel
  obtain ⟨result, hok, -⟩ := map_eq_ok.mp hcounts
  exact ⟨result, hok, AnalyticsCorrelationService.callsCorrelated_iff hok⟩

end SuitCode
