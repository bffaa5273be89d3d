import SuitCode.CodexReaders
import Mathlib.Algebra.Order.Field.Rat

/-!
# Analytics of native agents

The service scans the transcripts which a store lists, each with a parser and then with
the readers it is given besides, and sums the sessions up.  The parser, the correlation,
the capture builder, the token estimator and the usage policy are given to the service.
-/

namespace SuitCode

open PosixText KeyedList ExceptList

/-! ## Summaries -/

abbrev Tally := List (String × ℕ)

def Tally.add (tally : Tally) (name : String) (count : ℕ) : Tally :=
  match leader? Prod.fst tally name with
  | none => tally ++ [(name, count)]
  | some _ =>
      tally.map fun entry => if entry.1 = name then (entry.1, entry.2 + count) else entry

structure NativeRepositoryAnalyticsSummary where
  repositoryRoot : Option String
  sessionCount : ℕ
  sessionsUsingSuitcode : ℕ
  sessionsWithoutSuitcode : ℕ
  sessionsWithoutHighValueSuitcode : ℕ
  sessionsWithLateSuitcodeAdoption : ℕ
  sessionsWithLateHighValueAdoption : ℕ
  sessionsWithShellHeavyPreSuitcode : ℕ
  skippedArtifacts : ℕ
  toolUsage : List NativeSuitCodeToolUse
  firstToolDistribution : Tally
  firstHighValueToolDistribution : Tally
  correlationQualityMix : Tally
  transcriptMetrics : NativeTranscriptMetrics
  avgFirstSuitcodeToolIndex : Option ℚ
  avgFirstHighValueSuitcodeToolIndex : Option ℚ
  totalTokens : Option ℕ
  avgTokensPerSession : Option ℚ
  avgTokensBeforeFirstSuitcodeTool : Option ℚ
  avgTokensBeforeFirstHighValueSuitcodeTool : Option ℚ
  tokenBreakdownsByKind : Tally
  nativeReportedInputTokens : Option ℕ
  nativeReportedOutputTokens : Option ℕ
  nativeReportedCacheCreationTokens : Option ℕ
  nativeReportedCacheReadTokens : Option ℕ
  latestSessionId : Option String
  latestSessionAt : Option ℤ
  notes : List String
  deriving DecidableEq, Repr

def NativeRepositoryAnalyticsSummary.checks (summary : NativeRepositoryAnalyticsSummary) :
    List (Bool × String) :=
  [(summary.latestSessionId.any isBlank, "latest_session_id must not be empty"),
    (summary.sessionsUsingSuitcode + summary.sessionsWithoutSuitcode ≠ summary.sessionCount,
      "session counts are inconsistent"),
    (summary.sessionCount < summary.sessionsWithoutHighValueSuitcode,
      "sessions_without_high_value_suitcode is inconsistent"),
    (summary.sessionCount < summary.sessionsWithLateSuitcodeAdoption,
      "sessions_with_late_suitcode_adoption is inconsistent"),
    (summary.sessionCount < summary.sessionsWithLateHighValueAdoption,
      "sessions_with_late_high_value_adoption is inconsistent"),
    (summary.sessionCount < summary.sessionsWithShellHeavyPreSuitcode,
      "sessions_with_shell_heavy_pre_suitcode is inconsistent"),
    (summary.avgFirstSuitcodeToolIndex.any (· ≤ 0), "avg_first_suitcode_tool_index must be > 0"),
    (summary.avgFirstHighValueSuitcodeToolIndex.any (· ≤ 0),
      "avg_first_high_value_suitcode_tool_index must be > 0"),
    (summary.avgTokensPerSession.any (· < 0), "avg_tokens_per_session must be >= 0"),
    (summary.avgTokensBeforeFirstSuitcodeTool.any (· < 0),
      "avg_tokens_before_first_suitcode_tool must be >= 0"),
    (summary.avgTokensBeforeFirstHighValueSuitcodeTool.any (· < 0),
      "avg_tokens_before_first_high_value_suitcode_tool must be >= 0")]

def NativeRepositoryAnalyticsSummary.create (summary : NativeRepositoryAnalyticsSummary) :
    PyResult NativeRepositoryAnalyticsSummary :=
  validated summary.checks
    { summary with latestSessionId := summary.latestSessionId.map strip }

/-! ### The loop over the sessions -/

/-- `tool_counts` of one tool. -/
structure ToolCounts where
  toolName : String
  count : ℕ
  firstSeenAt : Option ℤ
  lastSeenAt : Option ℤ
  deriving DecidableEq, Repr

def betterSeen (better : ℤ → ℤ → Bool) (seen toolSeen : Option ℤ) : Option ℤ :=
  match seen with
  | none => toolSeen
  | some known => if toolSeen.any (better · known) then toolSeen else some known

def earlierSeen : Option ℤ → Option ℤ → Option ℤ := betterSeen fun tool known => tool < known

def laterSeen : Option ℤ → Option ℤ → Option ℤ := betterSeen fun tool known => known < tool

def ToolCounts.see (stats : ToolCounts) (tool : NativeSuitCodeToolUse) : ToolCounts :=
  { stats with
    count := stats.count + tool.callCount
    firstSeenAt := earlierSeen stats.firstSeenAt tool.firstSeenAt
    lastSeenAt := laterSeen stats.lastSeenAt tool.lastSeenAt }

def countToolUse (toolCounts : List ToolCounts) (tool : NativeSuitCodeToolUse) :
    List ToolCounts :=
  match leader? ToolCounts.toolName toolCounts tool.toolName with
  | none => toolCounts ++ [ToolCounts.see ⟨tool.toolName, 0, none, none⟩ tool]
  | some _ =>
      toolCounts.map fun stats => if stats.toolName = tool.toolName then stats.see tool else stats

def addReported (left right : Option ℕ) : Option ℕ :=
  if left.isSome || right.isSome then some (left.getD 0 + right.getD 0) else none

def NativeTranscriptMetrics.add (totals metrics : NativeTranscriptMetrics) :
    NativeTranscriptMetrics where
  eventCount := totals.eventCount + metrics.eventCount
  messageEventCount := totals.messageEventCount + metrics.messageEventCount
  toolEventCount := totals.toolEventCount + metrics.toolEventCount
  assistantMessageCount := totals.assistantMessageCount + metrics.assistantMessageCount
  userMessageCount := totals.userMessageCount + metrics.userMessageCount
  mcpToolCallCount := totals.mcpToolCallCount + metrics.mcpToolCallCount
  suitcodeToolCallCount := totals.suitcodeToolCallCount + metrics.suitcodeToolCallCount
  approxInputCharacters := totals.approxInputCharacters + metrics.approxInputCharacters
  approxOutputCharacters := totals.approxOutputCharacters + metrics.approxOutputCharacters
  nativeReportedInputTokens :=
    addReported totals.nativeReportedInputTokens metrics.nativeReportedInputTokens
  nativeReportedOutputTokens :=
    addReported totals.nativeReportedOutputTokens metrics.nativeReportedOutputTokens
  nativeReportedCacheCreationTokens :=
    addReported totals.nativeReportedCacheCreationTokens
      metrics.nativeReportedCacheCreationTokens
  nativeReportedCacheReadTokens :=
    addReported totals.nativeReportedCacheReadTokens metrics.nativeReportedCacheReadTokens

structure SummaryTotals where
  toolCounts : List ToolCounts := []
  firstToolDistribution : Tally := []
  firstHighValueToolDistribution : Tally := []
  correlationQualityMix : Tally := []
  totals : NativeTranscriptMetrics := {}
  totalTokens : ℕ := 0
  tokenBreakdowns : Tally := []
  firstSuitcodeToolIndices : List ℕ+ := []
  firstHighValueToolIndices : List ℕ+ := []
  tokensBeforeFirstSuitcode : List ℕ := []
  tokensBeforeFirstHighValue : List ℕ := []

def TranscriptTokenBreakdown.kinds (breakdown : TranscriptTokenBreakdown) : List (String × ℕ) :=
  [("user_message_tokens", breakdown.userMessageTokens),
    ("assistant_message_tokens", breakdown.assistantMessageTokens),
    ("mcp_tool_call_tokens", breakdown.mcpToolCallTokens),
    ("mcp_tool_output_tokens", breakdown.mcpToolOutputTokens),
    ("custom_tool_call_tokens", breakdown.customToolCallTokens),
    ("custom_tool_output_tokens", breakdown.customToolOutputTokens),
    ("terminal_output_tokens", breakdown.terminalOutputTokens),
    ("reasoning_summary_tokens", breakdown.reasoningSummaryTokens)]

def addBreakdown (breakdown : TranscriptTokenBreakdown) (totals : SummaryTotals) :
    SummaryTotals :=
  { totals with
    totalTokens := totals.totalTokens + breakdown.totalTokens
    tokenBreakdowns :=
      breakdown.kinds.foldl (fun tally kind => tally.add kind.1 kind.2) totals.tokenBreakdowns
    tokensBeforeFirstSuitcode :=
      totals.tokensBeforeFirstSuitcode ++ breakdown.tokensBeforeFirstSuitcodeTool.toList
    tokensBeforeFirstHighValue :=
      totals.tokensBeforeFirstHighValue ++
        breakdown.tokensBeforeFirstHighValueSuitcodeTool.toList }

/-- `tally[name] += 1` where there is a name. -/
def Tally.note (tally : Tally) (name : Option String) : Tally :=
  match name with
  | none => tally
  | some name => tally.add name 1

/-- The body of the loop of `_build_summary`. -/
def addSession (totals : SummaryTotals) (session : NativeSessionAnalytics) : SummaryTotals :=
  let counted :=
    { totals with
      correlationQualityMix := totals.correlationQualityMix.add session.correlationQuality.value 1
      firstToolDistribution := totals.firstToolDistribution.note session.firstSuitcodeTool
      firstSuitcodeToolIndices :=
        totals.firstSuitcodeToolIndices ++ session.firstSuitcodeToolIndex.toList
      firstHighValueToolDistribution :=
        totals.firstHighValueToolDistribution.note session.firstHighValueSuitcodeTool
      firstHighValueToolIndices :=
        totals.firstHighValueToolIndices ++ session.firstHighValueSuitcodeToolIndex.toList
      totals := totals.totals.add session.transcriptMetrics
      toolCounts := session.suitcodeTools.foldl countToolUse totals.toolCounts }
  match session.tokenBreakdown with
  | none => counted
  | some breakdown => addBreakdown breakdown counted

/-- `sum(values) / len(values) if values else None`. -/
def averageOf (values : List ℕ) : Option ℚ :=
  if values.isEmpty then none else some ((values.sum : ℚ) / (values.length : ℚ))

/-- `max(sessions, key=last_event_at, default=None)`, the first of the latest. -/
def latestSession : List NativeSessionAnalytics → Option NativeSessionAnalytics
  | [] => none
  | session :: sessions => some (sessions.foldl (fun latest session =>
      if latest.artifact.lastEventAt < session.artifact.lastEventAt then session else latest)
      session)

def toolUsageSortKey (stats : ToolCounts) : ℤ ×ₗ String :=
  toLex (-(stats.count : ℤ), stats.toolName)

def toolUsageOf (stats : ToolCounts) : PyResult NativeSuitCodeToolUse :=
  NativeSuitCodeToolUse.create stats.toolName stats.count stats.firstSeenAt stats.lastSeenAt

def usesSuitcode (session : NativeSessionAnalytics) : Bool :=
  session.usedSuitcode || 0 < session.correlatedEventCount

def reportedTokens (sessions : List NativeSessionAnalytics)
    (count : NativeTranscriptMetrics → Option ℕ) : Option ℕ :=
  let anyReported := sessions.any fun session =>
    session.transcriptMetrics.nativeReportedInputTokens.isSome ||
      session.transcriptMetrics.nativeReportedOutputTokens.isSome ||
      session.transcriptMetrics.nativeReportedCacheCreationTokens.isSome ||
      session.transcriptMetrics.nativeReportedCacheReadTokens.isSome
  if anyReported then
    some (sessions.map fun session => (count session.transcriptMetrics).getD 0).sum
  else
    none

def buildSummary (sessions : List NativeSessionAnalytics) (repositoryRoot : Option String)
    (skipped : ℕ) (notes : List String) : PyResult NativeRepositoryAnalyticsSummary := do
  let totals := sessions.foldl addSession {}
  let latest := latestSession sessions
  let anyBreakdown := sessions.any fun session => session.tokenBreakdown.isSome
  let toolUsage ← (sortedBy toolUsageSortKey totals.toolCounts).mapM toolUsageOf
  NativeRepositoryAnalyticsSummary.create
    { repositoryRoot := repositoryRoot
      sessionCount := sessions.length
      sessionsUsingSuitcode := sessions.countP usesSuitcode
      sessionsWithoutSuitcode := sessions.length - sessions.countP usesSuitcode
      sessionsWithoutHighValueSuitcode :=
        sessions.countP NativeSessionAnalytics.usedNoHighValueSuitcodeTool
      sessionsWithLateSuitcodeAdoption :=
        sessions.countP NativeSessionAnalytics.lateSuitcodeAdoption
      sessionsWithLateHighValueAdoption :=
        sessions.countP NativeSessionAnalytics.lateHighValueSuitcodeAdoption
      sessionsWithShellHeavyPreSuitcode :=
        sessions.countP NativeSessionAnalytics.shellHeavyBeforeSuitcode
      skippedArtifacts := skipped
      toolUsage := toolUsage
      firstToolDistribution := totals.firstToolDistribution
      firstHighValueToolDistribution := totals.firstHighValueToolDistribution
      correlationQualityMix := totals.correlationQualityMix
      transcriptMetrics := totals.totals
      avgFirstSuitcodeToolIndex := averageOf (totals.firstSuitcodeToolIndices.map PNat.val)
      avgFirstHighValueSuitcodeToolIndex :=
        averageOf (totals.firstHighValueToolIndices.map PNat.val)
      totalTokens := if anyBreakdown then some totals.totalTokens else none
      avgTokensPerSession :=
        if anyBreakdown then some ((totals.totalTokens : ℚ) / (sessions.length : ℚ)) else none
      avgTokensBeforeFirstSuitcodeTool := averageOf totals.tokensBeforeFirstSuitcode
      avgTokensBeforeFirstHighValueSuitcodeTool := averageOf totals.tokensBeforeFirstHighValue
      tokenBreakdownsByKind := totals.tokenBreakdowns
      nativeReportedInputTokens :=
        reportedTokens sessions NativeTranscriptMetrics.nativeReportedInputTokens
      nativeReportedOutputTokens :=
        reportedTokens sessions NativeTranscriptMetrics.nativeReportedOutputTokens
      nativeReportedCacheCreationTokens :=
        reportedTokens sessions NativeTranscriptMetrics.nativeReportedCacheCreationTokens
      nativeReportedCacheReadTokens :=
        reportedTokens sessions NativeTranscriptMetrics.nativeReportedCacheReadTokens
      latestSessionId := latest.map fun session => session.sessionId.val
      latestSessionAt := latest.map fun session => session.artifact.lastEventAt
      notes := notes }

/-! ## The service -/

abbrev ScanResult := List NativeSessionAnalytics × ℕ × List String

abbrev ScanCache := List ((Option String × Option String) × ScanResult)

structure NativeAnalyticsService where
  resolvePath : String → PyResult String
  listSessions : Option String → Option String → PyResult (List String)
  parse : String → PyResult NativeSessionAnalytics
  correlateSession : Option
    (NativeSessionAnalytics → Option String → PyResult NativeSessionAnalytics)
  buildCapture : Option (String → PyResult TranscriptCapture)
  estimateSession : Option (NativeSessionAnalytics → PyResult NativeSessionAnalytics)
  usagePolicy : Option (NativeSessionAnalytics → PyResult NativeSessionAnalytics)

namespace NativeAnalyticsService

variable (service : NativeAnalyticsService)

def correlate (session : NativeSessionAnalytics) (repositoryRoot : Option String) :
    PyResult NativeSessionAnalytics :=
  match service.correlateSession with
  | none => .ok session
  | some correlateSession => correlateSession session repositoryRoot

def captured (session : NativeSessionAnalytics) (path : String) :
    PyResult NativeSessionAnalytics :=
  match service.buildCapture with
  | none => .ok session
  | some build => do
      let capture ← build path
      pure { session with transcriptCapture := some capture }

def estimated (session : NativeSessionAnalytics) : PyResult NativeSessionAnalytics :=
  match service.estimateSession with
  | none => .ok session
  | some estimate => if session.transcriptCapture.isSome then estimate session else .ok session

def judged (session : NativeSessionAnalytics) : PyResult NativeSessionAnalytics :=
  match service.usagePolicy with
  | none => .ok session
  | some policy => policy session

def enrich (session : NativeSessionAnalytics) (path : String)
    (repositoryRoot : Option String) : PyResult NativeSessionAnalytics := do
  let enriched ← service.correlate session repositoryRoot
  let enriched ← service.captured enriched path
  let enriched ← service.estimated enriched
  service.judged enriched

/-- The loop of `_scan_sessions`. -/
def scanArtifacts (repositoryRoot : Option String) : List String → PyResult ScanResult
  | [] => .ok ([], 0, [])
  | path :: paths =>
      match service.parse path with
      | .error (.valueError message) => do
          let (parsed, skipped, notes) ← scanArtifacts repositoryRoot paths
          pure (parsed, skipped + 1, message :: notes)
      | .error exception => .error exception
      | .ok item => do
          let enriched ← service.enrich item path repositoryRoot
          let (parsed, skipped, notes) ← scanArtifacts repositoryRoot paths
          pure (enriched :: parsed, skipped, notes)

/-- `_scan_sessions`, with the cache it leaves. -/
def scanSessions (cache : ScanCache) (repositoryRoot sessionId : Option String) :
    PyResult (ScanResult × ScanCache) :=
  match leader? Prod.fst cache (repositoryRoot, sessionId) with
  | some cached => .ok (cached.2, cache)
  | none => do
      let paths ← service.listSessions repositoryRoot sessionId
      let result ← service.scanArtifacts repositoryRoot paths
      pure (result, cache ++ [((repositoryRoot, sessionId), result)])

def normalizedRoot (repositoryRoot : Option String) : PyResult (Option String) :=
  match repositoryRoot with
  | none => .ok none
  | some root => do
      let resolved ← service.resolvePath root
      pure (some resolved)

def filtered (sessionFilter : Option (NativeSessionAnalytics → Bool))
    (sessions : List NativeSessionAnalytics) : List NativeSessionAnalytics :=
  match sessionFilter with
  | none => sessions
  | some keep => sessions.filter keep

def sessionAnalytics (cache : ScanCache) (repositoryRoot sessionId : Option String)
    (sessionFilter : Option (NativeSessionAnalytics → Bool)) :
    PyResult (List NativeSessionAnalytics × ScanCache) := do
  let root ← service.normalizedRoot repositoryRoot
  let ((sessions, _, _), cache) ← service.scanSessions cache root sessionId
  pure (filtered sessionFilter sessions, cache)

def repositorySummary (cache : ScanCache) (repositoryRoot : Option String)
    (sessionFilter : Option (NativeSessionAnalytics → Bool)) :
    PyResult (NativeRepositoryAnalyticsSummary × ScanCache) := do
  let root ← service.normalizedRoot repositoryRoot
  let ((sessions, skipped, notes), cache) ← service.scanSessions cache root none
  let summary ← buildSummary (filtered sessionFilter sessions) root skipped notes
  pure (summary, cache)

end NativeAnalyticsService

end SuitCode
