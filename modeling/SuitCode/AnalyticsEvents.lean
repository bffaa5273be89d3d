import SuitCode.Exceptions
import SuitCode.Library.KeyedTable
import SuitCode.Library.PosixText
import Mathlib.Data.String.Basic

/-!
# Analytics events

A tool call writes an event when it starts and one when it ends.  The events of a
repository are the lines of its log, validated when they are read; a line replaces an
earlier one of the same event id.
-/

namespace SuitCode

open PosixText KeyedList ExceptList

/-! ## Events -/

inductive AnalyticsStatus where
  | started
  | success
  | error
  | interrupted
  deriving DecidableEq, Repr

def AnalyticsStatus.isTerminal (status : AnalyticsStatus) : Bool :=
  status ∈ [AnalyticsStatus.success, .error, .interrupted]

structure AnalyticsEvent where
  eventId : String
  invocationId : Option String := none
  sessionId : String
  analyticsRunId : Option String := none
  taskId : Option String := none
  taskKind : Option String := none
  studyKind : Option String := none
  benchmarkRunId : Option String := none
  benchmarkTaskId : Option String := none
  timestampUtc : String
  toolName : String
  argumentsFingerprintSha256 : String
  status : AnalyticsStatus
  errorClass : Option String := none
  errorMessage : Option String := none
  durationMs : ℤ
  outputModelType : Option String := none
  outputPayloadBytes : Option ℤ := none
  outputPayloadSha256 : Option String := none
  outputItemCount : Option ℤ := none
  deriving DecidableEq, Repr

/-- The times of the machine; an instant is a time in UTC. -/
structure AnalyticsClock where
  fromIsoFormat : String → PyResult ℤ
  timestamp : ℤ → String
  timestamp_endsWith : ∀ instant, endsWith (timestamp instant) "Z" = true
  timestamp_parses : ∀ instant,
    (fromIsoFormat (removeSuffix "Z" (timestamp instant) ++ "+00:00")).isOk = true

variable {event : AnalyticsEvent} {events : List AnalyticsEvent}

namespace AnalyticsEvent

variable (clock : AnalyticsClock)

def texts (event : AnalyticsEvent) : List String :=
  [some event.eventId, event.invocationId, some event.sessionId, event.analyticsRunId,
    event.taskId, event.taskKind, event.studyKind, some event.toolName,
    some event.argumentsFingerprintSha256, event.benchmarkRunId,
    event.benchmarkTaskId].filterMap id

def hasErrorFields (event : AnalyticsEvent) : Bool :=
  event.errorClass.isSome || event.errorMessage.isSome

def hasOutput (event : AnalyticsEvent) : Bool :=
  event.outputModelType.isSome || event.outputPayloadBytes.isSome ||
    event.outputPayloadSha256.isSome || event.outputItemCount.isSome

def checks (event : AnalyticsEvent) : List (Bool × String) :=
  [(event.texts.any isBlank, "value must not be empty"),
    (!endsWith event.timestampUtc "Z", "timestamp_utc must be UTC ISO-8601 with Z suffix"),
    (!(clock.fromIsoFormat (removeSuffix "Z" event.timestampUtc ++ "+00:00")).isOk,
      "Invalid isoformat string: '" ++ removeSuffix "Z" event.timestampUtc ++ "+00:00'"),
    (decide (event.durationMs < 0), "duration_ms must be >= 0"),
    (event.benchmarkRunId.isNone != event.benchmarkTaskId.isNone,
      "benchmark_run_id and benchmark_task_id must be provided together"),
    (decide (event.status = .started) && event.durationMs != 0,
      "started events must use duration_ms=0"),
    (decide (event.status = .started) && event.hasErrorFields,
      "started events must not include error fields"),
    (decide (event.status = .started) && event.hasOutput,
      "started events must not include output metadata"),
    (decide (event.status = .success) && event.hasErrorFields,
      "success events must not include error fields"),
    (decide (event.status ∈ [AnalyticsStatus.error, .interrupted]) &&
        (event.errorClass.getD "").isEmpty,
      "non-success terminal events must include error_class")]

/-- `AnalyticsEvent.model_validate`. -/
def validate (event : AnalyticsEvent) : PyResult AnalyticsEvent :=
  validated (event.checks clock) event

variable {clock}

theorem validate_eq_ok {result : AnalyticsEvent} (hvalid : event.validate clock = .ok result) :
    result = event :=
  eq_of_validated hvalid

theorem invocationId_ne_empty {result : AnalyticsEvent} (hvalid : event.validate clock = .ok result) :
    event.invocationId ≠ some "" := by
  intro hempty
  have hchecks := (validated_eq_ok.mp hvalid).2
  have hblank : event.texts.any isBlank = false :=
    hchecks (event.texts.any isBlank, "value must not be empty") (by simp [checks])
  have hmem : "" ∈ event.texts := by simp [texts, hempty]
  rw [List.any_eq_false] at hblank
  exact hblank "" hmem (by decide)

end AnalyticsEvent

/-! ## The log -/

/-- A line of the log, as `json.loads` takes it. -/
inductive AnalyticsLine where
  | invalid
  | record (event : AnalyticsEvent)
  deriving DecidableEq, Repr

variable {streams : List (String × List AnalyticsLine)}

section Log

variable (clock : AnalyticsClock) (root : String)

/-- One line read; whatever is wrong with it is an `AnalyticsError`. -/
def readAnalyticsLine (line : AnalyticsLine) : PyResult AnalyticsEvent :=
  match line with
  | .invalid => raiseValueError ("invalid analytics event JSONL line in `" ++ root ++ "`")
  | .record event =>
      match event.validate clock with
      | .ok checked => .ok checked
      | .error _ =>
          raiseValueError ("invalid analytics event JSONL line in `" ++ root ++ "`")

/-- `events_by_id`: for every event id its last line, at the place of its first. -/
def eventsById (written : List AnalyticsEvent) : KeyedTable AnalyticsEvent.eventId :=
  KeyedTable.empty.upsertAll written

/-- `JsonlAnalyticsStore.load_events` over the log of a repository alone. -/
def loadAnalyticsEvents (lines : List AnalyticsLine) : PyResult (List AnalyticsEvent) := do
  let written ← lines.mapM (readAnalyticsLine clock root)
  pure (sortedBy AnalyticsEvent.timestampUtc (eventsById written).rows)

/-- `load_events` over several logs, each under the root it is read from. -/
def loadEventStreams (streams : List (String × List AnalyticsLine)) :
    PyResult (List AnalyticsEvent) := do
  let written ← streams.mapM fun stream => stream.2.mapM (readAnalyticsLine clock stream.1)
  pure (sortedBy AnalyticsEvent.timestampUtc (eventsById written.flatten).rows)

/-- The lines of every log. -/
def streamLines (streams : List (String × List AnalyticsLine)) : List AnalyticsLine :=
  streams.flatMap Prod.snd

/-- Every line holds a valid event. -/
def ValidLines (lines : List AnalyticsLine) : Prop :=
  ∀ line ∈ lines, ∃ event, line = .record event ∧ event.validate clock = .ok event

/-- An event id belongs to one event, however often that is written. -/
def DistinctIds (lines : List AnalyticsLine) : Prop :=
  ∀ left right, .record left ∈ lines → .record right ∈ lines →
    left.eventId = right.eventId → left = right

variable {clock root}

theorem readAnalyticsLine_eq_ok {line : AnalyticsLine}
    (hread : readAnalyticsLine clock root line = .ok event) :
    line = .record event ∧ event.validate clock = .ok event := by
  cases line with
  | invalid => simp [readAnalyticsLine] at hread
  | record written =>
      cases hvalid : written.validate clock with
      | error exception => simp [readAnalyticsLine, hvalid] at hread
      | ok checked =>
          simp only [readAnalyticsLine, hvalid, Except.ok.injEq] at hread
          have heq := AnalyticsEvent.validate_eq_ok hvalid
          subst hread heq
          exact ⟨rfl, hvalid⟩

theorem line_of_loaded {lines : List AnalyticsLine}
    (hload : loadAnalyticsEvents clock root lines = .ok events) (hmem : event ∈ events) :
    .record event ∈ lines ∧ event.validate clock = .ok event := by
  obtain ⟨written, hwritten, hsorted⟩ := bind_eq_ok.mp hload
  simp only [pure, Except.pure, Except.ok.injEq] at hsorted
  rw [← hsorted, mem_sortedBy] at hmem
  have hlast : event ∈ written := by
    have hrows := KeyedTable.mem_upsertAll.mp hmem
    cases hrows with
    | inl hwritten => exact (KeyedTable.mem_of_lastWritten hwritten).1
    | inr hempty => simp at hempty
  obtain ⟨line, hline, hread⟩ := exists_input_of_mem hwritten hlast
  have hrecord := readAnalyticsLine_eq_ok hread
  rw [hrecord.1] at hline
  exact ⟨hline, hrecord.2⟩

theorem nodup_loaded {lines : List AnalyticsLine}
    (hload : loadAnalyticsEvents clock root lines = .ok events) :
    (events.map AnalyticsEvent.eventId).Nodup := by
  obtain ⟨written, -, hsorted⟩ := bind_eq_ok.mp hload
  simp only [pure, Except.pure, Except.ok.injEq] at hsorted
  rw [← hsorted]
  have hperm := (sortedBy_perm AnalyticsEvent.timestampUtc (eventsById written).rows).map
    AnalyticsEvent.eventId
  exact hperm.nodup_iff.mpr (eventsById written).distinct

theorem exists_loadedStreams (hvalid : ValidLines clock (streamLines streams)) :
    ∃ events, loadEventStreams clock streams = .ok events := by
  have hread : ∀ stream ∈ streams, ∃ written,
      stream.2.mapM (readAnalyticsLine clock stream.1) = .ok written := by
    intro stream hstream
    rw [exists_mapM_iff]
    intro line hline
    obtain ⟨event, rfl, hevent⟩ := hvalid line (List.mem_flatMap.mpr ⟨stream, hstream, hline⟩)
    use event
    simp [readAnalyticsLine, hevent]
  obtain ⟨written, hwritten⟩ := exists_mapM_iff.mpr hread
  use sortedBy AnalyticsEvent.timestampUtc (eventsById written.flatten).rows
  rw [loadEventStreams, hwritten, ok_bind, pure_eq_ok]

/-- Where an event id belongs to one event, no event is lost to another. -/
theorem mem_loadedStreams (hload : loadEventStreams clock streams = .ok events)
    (hdistinct : DistinctIds (streamLines streams)) :
    event ∈ events ↔ .record event ∈ streamLines streams := by
  obtain ⟨written, hwritten, hsorted⟩ := bind_eq_ok.mp hload
  rw [pure_eq_ok] at hsorted
  have hlines : ∀ found, found ∈ written.flatten ↔ .record found ∈ streamLines streams := by
    intro found
    rw [List.mem_flatten, streamLines, List.mem_flatMap]
    constructor
    · rintro ⟨group, hgroup, hfound⟩
      obtain ⟨stream, hstream, hread⟩ := exists_input_of_mem hwritten hgroup
      obtain ⟨line, hline, hline'⟩ := exists_input_of_mem hread hfound
      rw [(readAnalyticsLine_eq_ok hline').1] at hline
      exact ⟨stream, hstream, hline⟩
    · rintro ⟨stream, hstream, hline⟩
      obtain ⟨group, hgroup, hread⟩ := exists_output_of_mem hwritten hstream
      obtain ⟨result, hresult, hline'⟩ := exists_output_of_mem hread hline
      have heq := (readAnalyticsLine_eq_ok hline').1
      rw [AnalyticsLine.record.injEq] at heq
      exact ⟨group, hgroup, heq ▸ hresult⟩
  rw [← hsorted, mem_sortedBy, ← hlines]
  constructor
  · intro hmem
    cases KeyedTable.mem_upsertAll.mp hmem with
    | inl hlast => exact (KeyedTable.mem_of_lastWritten hlast).1
    | inr hempty => simp at hempty
  · intro hmem
    obtain ⟨last, hlast⟩ := KeyedTable.exists_lastWritten AnalyticsEvent.eventId hmem
    obtain ⟨hwrittenLast, hid⟩ := KeyedTable.mem_of_lastWritten hlast
    have heq := hdistinct last event ((hlines last).mp hwrittenLast) ((hlines event).mp hmem) hid
    exact KeyedTable.mem_upsertAll.mpr (.inl (heq ▸ hlast))

theorem nodup_loadedStreams (hload : loadEventStreams clock streams = .ok events) :
    (events.map AnalyticsEvent.eventId).Nodup := by
  obtain ⟨written, -, hsorted⟩ := bind_eq_ok.mp hload
  rw [pure_eq_ok] at hsorted
  rw [← hsorted]
  have hperm := (sortedBy_perm AnalyticsEvent.timestampUtc (eventsById written.flatten).rows).map
    AnalyticsEvent.eventId
  exact hperm.nodup_iff.mpr (eventsById written.flatten).distinct

end Log

/-! ## Sample times -/

namespace Sample

def analyticsTimes : List (String × ℤ) :=
  [("1970-01-01T00:00:00.000+00:00", 0), ("1970-01-01T23:59:59.000+00:00", 86399000),
    ("1970-01-02T00:00:01.000+00:00", 86401000)]

def analyticsClock : AnalyticsClock where
  fromIsoFormat text :=
    match leader? Prod.fst analyticsTimes text with
    | some time => .ok time.2
    | none => raiseValueError ("Invalid isoformat string: '" ++ text ++ "'")
  timestamp _ := "1970-01-01T00:00:00.000Z"
  timestamp_endsWith _ := by decide
  timestamp_parses _ := by decide

end Sample

end SuitCode
