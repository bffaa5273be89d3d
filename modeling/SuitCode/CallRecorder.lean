import SuitCode.AnalyticsEvents
import SuitCode.Library.Runs

/-!
# Recorded tool calls

A thread records the start of its call and then its success or error; a flush records an
interruption for every call which was active when it looked.  The table of active calls
and the log are each changed in steps of their own, so that threads and flushes interleave.
-/

namespace SuitCode

open PosixText

/-! ## Events of a recorder -/

structure ToolCall where
  invocationId : String
  toolName : String
  argumentsFingerprintSha256 : String
  nonblank : ([invocationId, toolName, argumentsFingerprintSha256].any isBlank) = false
  deriving DecidableEq

/-- What the recorder of a process writes into each of its events. -/
structure RecorderContext where
  sessionId : String
  analyticsRunId : String
  envTaskId : Option String
  envTaskKind : Option String
  envStudyKind : Option String
  nonblank : (([some sessionId, some analyticsRunId, envTaskId, envTaskKind,
    envStudyKind].filterMap id).any isBlank) = false

structure BenchmarkContext where
  runId : String
  taskId : String
  nonblank : ([runId, taskId].any isBlank) = false
  deriving DecidableEq

structure EventStamp where
  eventId : String
  instant : ℤ
  benchmark : Option BenchmarkContext := none
  nonblank : isBlank eventId = false

structure OutputMetadata where
  modelType : String
  payloadBytes : ℕ
  payloadSha256 : String
  itemCount : Option ℕ
  deriving DecidableEq, Repr

inductive CallOutcome where
  | success (durationMs : ℕ) (output : OutputMetadata)
  | error (durationMs : ℕ) (errorClass message : String)
      (hclass : errorClass.isEmpty = false)
  deriving DecidableEq

def truncateError (value : String) : String :=
  let stripped := strip value
  if stripped.length ≤ 400 then stripped
  else String.ofList (stripped.toList.take 397) ++ "..."

section Events

variable (clock : AnalyticsClock) (context : RecorderContext)

/-- `_base_event_fields`, in an event of a status. -/
def baseEvent (call : ToolCall) (stamp : EventStamp) (status : AnalyticsStatus) :
    AnalyticsEvent :=
  { eventId := stamp.eventId
    invocationId := some call.invocationId
    sessionId := context.sessionId
    analyticsRunId := some context.analyticsRunId
    taskId := (stamp.benchmark.map BenchmarkContext.taskId).or context.envTaskId
    taskKind := context.envTaskKind
    studyKind := context.envStudyKind
    benchmarkRunId := stamp.benchmark.map BenchmarkContext.runId
    benchmarkTaskId := stamp.benchmark.map BenchmarkContext.taskId
    timestampUtc := clock.timestamp stamp.instant
    toolName := call.toolName
    argumentsFingerprintSha256 := call.argumentsFingerprintSha256
    status := status
    durationMs := 0 }

/-- The event of `record_started`. -/
def startedEvent (call : ToolCall) (stamp : EventStamp) : AnalyticsEvent :=
  baseEvent clock context call stamp .started

/-- The event of `record_success` or `record_error`. -/
def outcomeEvent (call : ToolCall) (stamp : EventStamp) (outcome : CallOutcome) :
    AnalyticsEvent :=
  match outcome with
  | .success durationMs output =>
      { baseEvent clock context call stamp .success with
        durationMs := durationMs
        outputModelType := some output.modelType
        outputPayloadBytes := some output.payloadBytes
        outputPayloadSha256 := some output.payloadSha256
        outputItemCount := output.itemCount.map Int.ofNat }
  | .error durationMs errorClass message _ =>
      { baseEvent clock context call stamp .error with
        durationMs := durationMs
        errorClass := some errorClass
        errorMessage := some (truncateError message) }

/-- The event of `record_interrupted`. -/
def interruptedEvent (call : ToolCall) (stamp : EventStamp) (reason : String)
    (durationMs : ℤ) : AnalyticsEvent :=
  { baseEvent clock context call stamp .interrupted with
    durationMs := max 0 durationMs
    errorClass := some "InterruptedToolCall"
    errorMessage := some (truncateError reason) }

variable {clock context}

@[simp] theorem startedEvent_invocationId (call : ToolCall) (stamp : EventStamp) :
    (startedEvent clock context call stamp).invocationId = some call.invocationId := rfl

@[simp] theorem startedEvent_status (call : ToolCall) (stamp : EventStamp) :
    (startedEvent clock context call stamp).status = .started := rfl

@[simp] theorem interruptedEvent_invocationId (call : ToolCall) (stamp : EventStamp)
    (reason : String) (durationMs : ℤ) :
    (interruptedEvent clock context call stamp reason durationMs).invocationId =
      some call.invocationId := rfl

@[simp] theorem interruptedEvent_status (call : ToolCall) (stamp : EventStamp)
    (reason : String) (durationMs : ℤ) :
    (interruptedEvent clock context call stamp reason durationMs).status = .interrupted := rfl

/-! ### Every event passes its validators -/

variable (clock context) in
theorem baseEvent_texts (call : ToolCall) (stamp : EventStamp) (status : AnalyticsStatus) :
    (baseEvent clock context call stamp status).texts.any isBlank = false := by
  have hcall := call.nonblank
  have hcontext := context.nonblank
  have hstamp := stamp.nonblank
  simp only [List.any_cons, List.any_nil, Bool.or_eq_false_iff, Bool.or_false] at hcall
  cases hbenchmark : stamp.benchmark with
  | none =>
      cases htask : context.envTaskId <;> cases hkind : context.envTaskKind <;>
        cases hstudy : context.envStudyKind <;>
        simp_all [AnalyticsEvent.texts, baseEvent]
  | some benchmark =>
      have hboth := benchmark.nonblank
      simp only [List.any_cons, List.any_nil, Bool.or_eq_false_iff, Bool.or_false] at hboth
      cases htask : context.envTaskId <;> cases hkind : context.envTaskKind <;>
        cases hstudy : context.envStudyKind <;>
        simp_all [AnalyticsEvent.texts, baseEvent]

variable (clock context) in
/-- The time of every event is one which the store reads back. -/
theorem baseEvent_timed (call : ToolCall) (stamp : EventStamp) (status : AnalyticsStatus) :
    endsWith (baseEvent clock context call stamp status).timestampUtc "Z" = true ∧
      (clock.fromIsoFormat (removeSuffix "Z"
        (baseEvent clock context call stamp status).timestampUtc ++ "+00:00")).isOk = true :=
  ⟨clock.timestamp_endsWith stamp.instant, clock.timestamp_parses stamp.instant⟩

variable (clock context) in
theorem baseEvent_paired (call : ToolCall) (stamp : EventStamp) (status : AnalyticsStatus) :
    (baseEvent clock context call stamp status).benchmarkRunId.isNone =
      (baseEvent clock context call stamp status).benchmarkTaskId.isNone := by
  cases hbenchmark : stamp.benchmark <;> simp [baseEvent, hbenchmark]

theorem startedEvent_validate (call : ToolCall) (stamp : EventStamp) :
    (startedEvent clock context call stamp).validate clock =
      .ok (startedEvent clock context call stamp) := by
  have htexts := baseEvent_texts clock context call stamp .started
  have htimed := baseEvent_timed clock context call stamp .started
  have hpaired := baseEvent_paired clock context call stamp .started
  apply validated_eq_ok.mpr
  simp only [AnalyticsEvent.checks, startedEvent, List.forall_mem_cons, htexts, htimed, hpaired]
  simp [baseEvent, AnalyticsEvent.hasErrorFields, AnalyticsEvent.hasOutput]

theorem outcomeEvent_validate (call : ToolCall) (stamp : EventStamp) (outcome : CallOutcome) :
    (outcomeEvent clock context call stamp outcome).validate clock =
      .ok (outcomeEvent clock context call stamp outcome) := by
  apply validated_eq_ok.mpr
  cases outcome with
  | success durationMs output =>
      have htexts := baseEvent_texts clock context call stamp .success
      have htimed := baseEvent_timed clock context call stamp .success
      have hpaired := baseEvent_paired clock context call stamp .success
      have hsame : (outcomeEvent clock context call stamp (.success durationMs output)).texts =
          (baseEvent clock context call stamp .success).texts := rfl
      simp only [AnalyticsEvent.checks, hsame, List.forall_mem_cons, htexts]
      simp only [outcomeEvent, htimed, hpaired]
      have hduration : ¬ (durationMs : ℤ) < 0 := by omega
      simp [baseEvent, AnalyticsEvent.hasErrorFields, hduration]
  | error durationMs errorClass message hclass =>
      have htexts := baseEvent_texts clock context call stamp .error
      have htimed := baseEvent_timed clock context call stamp .error
      have hpaired := baseEvent_paired clock context call stamp .error
      have hsame : (outcomeEvent clock context call stamp
          (.error durationMs errorClass message hclass)).texts =
          (baseEvent clock context call stamp .error).texts := rfl
      simp only [AnalyticsEvent.checks, hsame, List.forall_mem_cons, htexts]
      simp only [outcomeEvent, htimed, hpaired]
      have hduration : ¬ (durationMs : ℤ) < 0 := by omega
      simp [baseEvent, hclass, hduration]

theorem interruptedEvent_validate (call : ToolCall) (stamp : EventStamp) (reason : String)
    (durationMs : ℤ) :
    (interruptedEvent clock context call stamp reason durationMs).validate clock =
      .ok (interruptedEvent clock context call stamp reason durationMs) := by
  have htexts := baseEvent_texts clock context call stamp .interrupted
  have htimed := baseEvent_timed clock context call stamp .interrupted
  have hpaired := baseEvent_paired clock context call stamp .interrupted
  have hsame : (interruptedEvent clock context call stamp reason durationMs).texts =
      (baseEvent clock context call stamp .interrupted).texts := rfl
  apply validated_eq_ok.mpr
  simp only [AnalyticsEvent.checks, hsame, List.forall_mem_cons, htexts]
  simp only [interruptedEvent, htimed, hpaired]
  simp [baseEvent]

end Events

end SuitCode
