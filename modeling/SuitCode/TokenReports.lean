import SuitCode.AnalyticsEvents

/-!
# Token economics reports

A report counts the recorded calls which pass its filters, and the started calls for
which the log of tool calls shows no end.  Both are counted in total and for every value
of a key.
-/

namespace SuitCode

open PosixText KeyedList ExceptList

/-! ## Conditions evaluated in order -/

/-- `a and b`; the second condition is evaluated only where the first one holds. -/
def pyAnd (first second : PyResult Bool) : PyResult Bool := do
  let holds ← first
  if holds then second else pure false

/-- `a or b`. -/
def pyOr (first second : PyResult Bool) : PyResult Bool := do
  let holds ← first
  if holds then pure true else second

def allOf (conditions : List (PyResult Bool)) : PyResult Bool :=
  conditions.foldr pyAnd (pure true)

def anyOf (conditions : List (PyResult Bool)) : PyResult Bool :=
  conditions.foldr pyOr (pure false)

def selectItems {α : Type} (keeps : α → PyResult Bool) : List α → PyResult (List α)
  | [] => .ok []
  | item :: items => do
      let kept ← keeps item
      let rest ← selectItems keeps items
      pure (if kept then item :: rest else rest)

theorem allOf_eq_true_iff {conditions : List (PyResult Bool)} :
    allOf conditions = .ok true ↔ ∀ condition ∈ conditions, condition = .ok true := by
  induction conditions with
  | nil => simp [allOf, pure, Except.pure]
  | cons condition conditions ih =>
      have hcons : allOf (condition :: conditions) = pyAnd condition (allOf conditions) := rfl
      rw [hcons, List.forall_mem_cons, ← ih]
      cases condition with
      | error exception => simp [pyAnd, error_bind]
      | ok holds => cases holds <;> simp [pyAnd, ok_bind, pure, Except.pure]

theorem sublist_of_selectItems {α : Type} {keeps : α → PyResult Bool} {items kept : List α}
    (hselect : selectItems keeps items = .ok kept) : kept.Sublist items := by
  induction items generalizing kept with
  | nil =>
      simp only [selectItems, Except.ok.injEq] at hselect
      simp [← hselect]
  | cons item items ih =>
      rw [selectItems] at hselect
      obtain ⟨holds, -, hrest⟩ := bind_eq_ok.mp hselect
      obtain ⟨rest, htail, hkept⟩ := bind_eq_ok.mp hrest
      simp only [pure, Except.pure, Except.ok.injEq] at hkept
      cases holds with
      | true => simpa [← hkept] using ih htail
      | false => simpa [← hkept] using (ih htail).cons item

theorem mem_selectItems {α : Type} {keeps : α → PyResult Bool} {items kept : List α}
    (hselect : selectItems keeps items = .ok kept) {item : α} :
    item ∈ kept ↔ item ∈ items ∧ keeps item = .ok true := by
  induction items generalizing kept with
  | nil =>
      simp only [selectItems, Except.ok.injEq] at hselect
      simp [← hselect]
  | cons head items ih =>
      rw [selectItems] at hselect
      obtain ⟨holds, hholds, hrest⟩ := bind_eq_ok.mp hselect
      obtain ⟨rest, htail, hkept⟩ := bind_eq_ok.mp hrest
      simp only [pure, Except.pure, Except.ok.injEq] at hkept
      have hmem := ih htail
      by_cases heq : item = head
      · cases holds with
        | true => simp [← hkept, heq, hholds]
        | false =>
            rw [heq] at hmem ⊢
            simp [← hkept, hholds, hmem]
      · cases holds <;> simp [← hkept, heq, hmem]

/-! ## Manifests and filters -/

structure RunManifest where
  analyticsRunId : String
  experimentId : Option String := none
  experimentLabel : Option String := none
  deriving DecidableEq, Repr

abbrev ManifestTable := KeyedTable RunManifest.analyticsRunId

/-- `manifests_by_id`; a later manifest replaces an earlier one of the run. -/
def manifestsById (manifests : List RunManifest) : ManifestTable :=
  KeyedTable.empty.upsertAll manifests

inductive MetadataConfidence where
  | full
  | partlyKnown
  deriving DecidableEq, Repr

structure TranscriptContext where
  transcriptSuitcodeCallCount : ℕ
  windowStart : ℤ
  windowEnd : ℤ
  metadataConfidence : MetadataConfidence := .full
  deriving DecidableEq, Repr

structure ReportFilters where
  includeFailures : Bool := false
  since : Option String := none
  until_ : Option String := none
  ignoreSessionIds : List String := []
  ignoreToolCallIds : List String := []
  ignoreAnalyticsRunIds : List String := []
  transcriptContext : Option TranscriptContext := none
  taskId : Option String := none
  analyticsSessionId : Option String := none
  analyticsRunId : Option String := none
  experimentId : Option String := none
  deriving DecidableEq, Repr

def tokenEconomicsToolNames : List String :=
  ["understand_repository", "understand_file", "what_changes_if_i_edit_this",
    "what_should_i_run", "what_is_not_proven"]

def passes {α : Type} (filter : Option α) (test : α → PyResult Bool) : PyResult Bool :=
  match filter with
  | none => pure true
  | some wanted => test wanted

section Filters

variable (clock : AnalyticsClock)

def normalizeDateFilter (value : String) (endOfDay : Bool) : PyResult String :=
  let stripped := strip value
  if stripped.isEmpty then raiseValueError "date filter must not be empty"
  else if stripped.length = 10 then
    pure (stripped ++ if endOfDay then "T23:59:59.999Z" else "T00:00:00.000Z")
  else if endsWith stripped "Z" then do
    let _ ← clock.fromIsoFormat (removeSuffix "Z" stripped ++ "+00:00")
    pure stripped
  else do
    let parsed ← clock.fromIsoFormat stripped
    pure (clock.timestamp parsed)

/-- `value.replace("Z", "+00:00")`. -/
def withUtcOffset (value : String) : String :=
  String.ofList (value.toList.flatMap fun c => if c = 'Z' then "+00:00".toList else [c])

def eventInTranscriptWindow (timestampUtc : String) (context : TranscriptContext) :
    PyResult Bool := do
  let startedAt ← clock.fromIsoFormat (withUtcOffset timestampUtc)
  pure (decide (context.windowStart ≤ startedAt ∧ startedAt ≤ context.windowEnd))

def notBefore (timestampUtc since : String) : PyResult Bool := do
  let bound ← normalizeDateFilter clock since false
  pure (decide (bound ≤ timestampUtc))

def notAfter (timestampUtc until_ : String) : PyResult Bool := do
  let bound ← normalizeDateFilter clock until_ true
  pure (decide (timestampUtc ≤ bound))

def inExperiment (manifests : ManifestTable) (analyticsRunId : Option String)
    (experimentId : String) : Bool :=
  match analyticsRunId.bind manifests.lookup with
  | none => false
  | some manifest => manifest.experimentId = some experimentId

/-- The condition under which `_load_unfinished_calls` looks at an event. -/
def isRelevant (manifests : ManifestTable) (filters : ReportFilters)
    (event : AnalyticsEvent) : PyResult Bool :=
  allOf
    [pure (event.toolName ∈ tokenEconomicsToolNames),
      pure event.invocationId.isSome,
      pure (event.sessionId ∉ filters.ignoreSessionIds),
      pure (event.analyticsRunId.getD "" ∉ filters.ignoreAnalyticsRunIds),
      passes filters.since (notBefore clock event.timestampUtc),
      passes filters.until_ (notAfter clock event.timestampUtc),
      passes filters.transcriptContext (eventInTranscriptWindow clock event.timestampUtc),
      passes filters.taskId fun taskId => pure (event.taskId = some taskId),
      passes filters.analyticsSessionId fun sessionId => pure (event.sessionId = sessionId),
      passes filters.analyticsRunId fun runId => pure (event.analyticsRunId = some runId),
      passes filters.experimentId fun experimentId =>
        pure (inExperiment manifests event.analyticsRunId experimentId)]

end Filters

/-! ## Unfinished calls -/

structure IncompleteCall where
  invocationId : String
  analyticsRunId : Option String
  sessionId : String
  taskId : Option String
  taskKind : Option String
  studyKind : Option String
  toolName : String
  startedAt : String
  deriving DecidableEq, Repr

/-- `event.invocation_id or event.event_id`. -/
def AnalyticsEvent.invocationName (event : AnalyticsEvent) : String :=
  match event.invocationId with
  | none => event.eventId
  | some invocationId => if invocationId.isEmpty then event.eventId else invocationId

def incompleteCall (event : AnalyticsEvent) : IncompleteCall :=
  { invocationId := event.invocationName
    analyticsRunId := event.analyticsRunId
    sessionId := event.sessionId
    taskId := event.taskId
    taskKind := event.taskKind
    studyKind := event.studyKind
    toolName := event.toolName
    startedAt := event.timestampUtc }

def terminalInvocations (relevant : List AnalyticsEvent) : List (Option String) :=
  (relevant.filter fun event => event.status.isTerminal && event.invocationId.isSome).map
    AnalyticsEvent.invocationId

def unfinishedEvents (relevant : List AnalyticsEvent) : List AnalyticsEvent :=
  relevant.filter fun event =>
    decide (event.status = .started) && decide (event.invocationId ∉ terminalInvocations relevant)

def loadUnfinishedCalls (clock : AnalyticsClock) (root : String) (lines : List AnalyticsLine)
    (manifests : ManifestTable) (filters : ReportFilters) : PyResult (List IncompleteCall) := do
  let events ← loadAnalyticsEvents clock root lines
  let relevant ← selectItems (isRelevant clock manifests filters) events
  pure (sortedBy (fun call => [call.startedAt, call.invocationId])
    ((unfinishedEvents relevant).map incompleteCall))

/-! ## Recorded calls -/

/-- An event of the token log, with the fields by which a report selects and counts. -/
structure TokenEvent where
  sessionId : String
  toolCallId : String
  toolName : String
  startedAt : String
  status : String
  analyticsRunId : Option String := none
  taskId : Option String := none
  taskKind : Option String := none
  studyKind : Option String := none
  detailLevel : Option String := none
  targetCount : ℤ := 0
  targetLanguageMix : List String := []
  retryCountInternal : ℕ := 0
  runtimeNotReadyCount : ℕ := 0
  degradedPathUsed : Bool := false
  structuralFallbackUsed : Bool := false
  deriving DecidableEq, Repr

def rejects {α : Type} (filter : Option α) (test : α → PyResult Bool) : PyResult Bool :=
  match filter with
  | none => pure false
  | some wanted => Except.map not (test wanted)

def shouldIgnoreTokenEvent (clock : AnalyticsClock) (manifests : ManifestTable)
    (filters : ReportFilters) (event : TokenEvent) : PyResult Bool :=
  let manifest := manifests.lookup (event.analyticsRunId.getD "")
  anyOf
    [pure (event.sessionId ∈ filters.ignoreSessionIds),
      pure (event.toolCallId ∈ filters.ignoreToolCallIds),
      pure (event.analyticsRunId.getD "" ∈ filters.ignoreAnalyticsRunIds),
      pure (!filters.includeFailures && event.status != "success"),
      rejects filters.since (notBefore clock event.startedAt),
      rejects filters.until_ (notAfter clock event.startedAt),
      rejects filters.transcriptContext (eventInTranscriptWindow clock event.startedAt),
      rejects filters.taskId fun taskId => pure (event.taskId = some taskId),
      rejects filters.analyticsSessionId fun sessionId => pure (event.sessionId = sessionId),
      rejects filters.analyticsRunId fun runId => pure (event.analyticsRunId = some runId),
      rejects filters.experimentId fun experimentId =>
        pure (manifest.bind RunManifest.experimentId = some experimentId)]

/-! ## Reports -/

structure TokenAggregate where
  name : String
  eventCount : ℕ
  successCount : ℕ
  failureCount : ℕ
  unfinishedCount : ℕ
  interruptedCount : ℕ
  degradedCount : ℕ
  fallbackCount : ℕ
  retryingCallCount : ℕ
  deriving DecidableEq, Repr

/-- `_aggregate`, as far as it counts calls. -/
def aggregate (name : String) (events : List TokenEvent) (unfinished : List IncompleteCall) :
    TokenAggregate :=
  { name := name
    eventCount := events.length
    successCount := events.countP fun event => event.status = "success"
    failureCount := events.countP fun event => event.status ≠ "success"
    unfinishedCount := unfinished.length
    interruptedCount := events.countP fun event => event.status = "interrupted"
    degradedCount := events.countP TokenEvent.degradedPathUsed
    fallbackCount := events.countP TokenEvent.structuralFallbackUsed
    retryingCallCount := events.countP fun event =>
      event.retryCountInternal > 0 || event.runtimeNotReadyCount > 0 }

/-- `_aggregate_group`: an aggregate for every key of an event or an unfinished call. -/
def aggregateGroup (events : List TokenEvent) (unfinished : List IncompleteCall)
    (eventKey : TokenEvent → String) (unfinishedKey : IncompleteCall → String) :
    List TokenAggregate :=
  let keys := sortedBy id (dedupeBy id (events.map eventKey ++ unfinished.map unfinishedKey))
  keys.map fun key =>
    aggregate key (events.filter fun event => eventKey event = key)
      (unfinished.filter fun call => unfinishedKey call = key)

def firstCharacters (count : ℕ) (text : String) : String :=
  String.ofList (text.toList.take count)

/-- `value or default`. -/
def textOr (value : Option String) (default : String) : String :=
  match value with
  | none => default
  | some text => if text.isEmpty then default else text

def experimentKey (manifests : ManifestTable) (analyticsRunId : Option String) : String :=
  match analyticsRunId.bind manifests.lookup with
  | none => "unknown"
  | some manifest =>
      match manifest.experimentId with
      | none => "unknown"
      | some experimentId =>
          match manifest.experimentLabel with
          | none => experimentId
          | some label =>
              if label.isEmpty then experimentId else experimentId ++ ":" ++ label

def targetCountBucket (targetCount : ℤ) : String :=
  if targetCount ≤ 0 then "0"
  else if targetCount = 1 then "1"
  else if targetCount ≤ 3 then "2-3"
  else if targetCount ≤ 5 then "4-5"
  else "6+"

def languageFamilyKey (values : List String) : String :=
  if values.isEmpty then "none" else join "+" values

def buildInterpretationNotes (context : Option TranscriptContext) (events : List TokenEvent)
    (unfinished : List IncompleteCall) (includeFailures : Bool) : List String :=
  let someFailed := events.any fun event => event.status != "success"
  let aboutTranscript :=
    match context with
    | none =>
        ["No Codex transcript was supplied, so task-level token estimates are unavailable."]
    | some context =>
        (if events.isEmpty then
          ["Transcript correlation is present but no SuitCode terminal events matched the " ++
            "selected window and filters."] else []) ++
        (if context.metadataConfidence ≠ .full then
          ["Transcript parsing detected multiple session metadata snapshots; correlation uses " ++
            "the latest snapshot and should be treated as partial."] else []) ++
        (if !events.isEmpty && events.length < context.transcriptSuitcodeCallCount then
          ["Transcript correlation is partial: matched " ++ toString events.length ++
            " terminal SuitCode events for " ++ toString context.transcriptSuitcodeCallCount ++
            " SuitCode transcript tool calls after filters."] else [])
  aboutTranscript ++
  (if unfinished.isEmpty then [] else
    [toString unfinished.length ++ " started calls did not record a terminal success/error " ++
            "event and are counted as unfinished."]) ++
  (if includeFailures && someFailed then
    ["Failure events are included in this report revision; interpret token-efficiency metrics " ++
            "alongside failure counts."]
  else if someFailed then
    ["Failure events were excluded from aggregate token metrics by default; use " ++
            "--include-failures to inspect them directly."]
  else []) ++
  (if events.any fun event => event.degradedPathUsed || event.structuralFallbackUsed then
    ["Some calls used degraded or fallback paths; token-efficiency numbers should be read " ++
            "alongside the guardrail sections."] else [])

structure TokenReport where
  ignoredEventCount : ℕ
  matchedAnalyticsRunIds : List String
  matchedSessionIds : List String
  interpretationNotes : List String
  total : TokenAggregate
  bySession : List TokenAggregate
  byDay : List TokenAggregate
  byTool : List TokenAggregate
  byExperiment : List TokenAggregate
  byAnalyticsRun : List TokenAggregate
  byTaskKind : List TokenAggregate
  byStudyKind : List TokenAggregate
  byDetailLevel : List TokenAggregate
  byTargetCountBucket : List TokenAggregate
  byLanguageFamily : List TokenAggregate
  deriving DecidableEq, Repr

def TokenReport.tables (report : TokenReport) : List (List TokenAggregate) :=
  [report.bySession, report.byDay, report.byTool, report.byExperiment, report.byAnalyticsRun,
    report.byTaskKind, report.byStudyKind, report.byDetailLevel, report.byTargetCountBucket,
    report.byLanguageFamily]

def reportOver (manifests : ManifestTable) (filters : ReportFilters) (ignored : ℕ)
    (events : List TokenEvent) (unfinished : List IncompleteCall) : TokenReport :=
  let group := aggregateGroup events unfinished
  { ignoredEventCount := ignored
    matchedAnalyticsRunIds := sortedBy id (dedupeBy id
      (((events.map TokenEvent.analyticsRunId ++ unfinished.map IncompleteCall.analyticsRunId).filterMap
        id).filter fun runId => !runId.isEmpty))
    matchedSessionIds := sortedBy id (dedupeBy id
      (events.map TokenEvent.sessionId ++ unfinished.map IncompleteCall.sessionId))
    interpretationNotes :=
      buildInterpretationNotes filters.transcriptContext events unfinished filters.includeFailures
    total := aggregate "total" events unfinished
    bySession := group TokenEvent.sessionId IncompleteCall.sessionId
    byDay := group (fun event => firstCharacters 10 event.startedAt)
      (fun call => firstCharacters 10 call.startedAt)
    byTool := group TokenEvent.toolName IncompleteCall.toolName
    byExperiment := group (fun event => experimentKey manifests event.analyticsRunId)
      (fun call => experimentKey manifests call.analyticsRunId)
    byAnalyticsRun := group (fun event => textOr event.analyticsRunId "unknown")
      (fun call => textOr call.analyticsRunId "unknown")
    byTaskKind := group (fun event => textOr event.taskKind "unknown")
      (fun call => textOr call.taskKind "unknown")
    byStudyKind := group (fun event => textOr event.studyKind "unknown")
      (fun call => textOr call.studyKind "unknown")
    byDetailLevel := group (fun event => textOr event.detailLevel "unspecified")
      (fun _ => "unknown")
    byTargetCountBucket := group (fun event => targetCountBucket event.targetCount)
      (fun _ => "unknown")
    byLanguageFamily := group (fun event => languageFamilyKey event.targetLanguageMix)
      (fun _ => "unknown") }

/-- `generate_token_economics_report`, over the token events of a workspace, its manifests
and the lines of its analytics log. -/
def generateTokenEconomicsReport (clock : AnalyticsClock) (root : String)
    (recorded : List TokenEvent) (manifests : List RunManifest) (lines : List AnalyticsLine)
    (filters : ReportFilters) : PyResult TokenReport := do
  let table := manifestsById manifests
  let allEvents := sortedBy (fun event => [event.startedAt, event.toolCallId]) recorded
  let events ← selectItems
    (fun event => Except.map not (shouldIgnoreTokenEvent clock table filters event)) allEvents
  let unfinished ← loadUnfinishedCalls clock root lines table filters
  pure (reportOver table filters (allEvents.length - events.length) events unfinished)

end SuitCode
