import SuitCode.CallRecorder

/-!
# Interrupted tool calls

Every thread of a call owes the log one terminal event, and so does every flush which
holds the call.  What is owed or already written never shrinks, hence a call which a flush
copies while it is active ends twice.
-/

namespace SuitCode

open KeyedTable

/-! ## States -/

inductive CallPhase where
  | tracked
  | started
  | cleared (outcome : CallOutcome)
  | finished
  deriving DecidableEq

structure CallThread where
  call : ToolCall
  phase : CallPhase
  deriving DecidableEq

structure HeldCall where
  flushId : ℕ
  call : ToolCall
  cleared : Bool
  deriving DecidableEq

structure RecorderState where
  activeCalls : KeyedTable ToolCall.invocationId
  threads : String → Option CallThread
  held : List HeldCall
  log : List AnalyticsEvent

namespace RecorderState

def initial : RecorderState := ⟨.empty, fun _ => none, [], []⟩

def nextHeld (state : RecorderState) (flushId : ℕ) : Option HeldCall :=
  state.held.find? fun heldCall => heldCall.flushId = flushId

def setThread (state : RecorderState) (call : ToolCall) (phase : CallPhase) : RecorderState :=
  { state with threads := Function.update state.threads call.invocationId (some ⟨call, phase⟩) }

def trackStartedCall (state : RecorderState) (call : ToolCall) : RecorderState :=
  { state.setThread call .tracked with activeCalls := state.activeCalls.upsert call }

def clearActiveCall (state : RecorderState) (invocationId : String) : RecorderState :=
  { state with activeCalls := state.activeCalls.delete invocationId }

def appendEvent (state : RecorderState) (event : AnalyticsEvent) : RecorderState :=
  { state with log := state.log ++ [event] }

def copyActiveCalls (state : RecorderState) (flushId : ℕ) : RecorderState :=
  { state with
    held := state.held ++ state.activeCalls.rows.map fun call => ⟨flushId, call, false⟩ }

def markCleared (state : RecorderState) (flushId : ℕ) : RecorderState :=
  { state with
    held := state.held.map fun heldCall =>
      if some heldCall = state.nextHeld flushId then { heldCall with cleared := true }
      else heldCall }

def dropHeld (state : RecorderState) (flushId : ℕ) : RecorderState :=
  { state with held := state.held.eraseP fun heldCall => heldCall.flushId = flushId }

end RecorderState

/-! ## Steps -/

inductive RecorderOperation where
  | track (call : ToolCall)
  | recordStarted (invocationId : String) (stamp : EventStamp)
  | clear (invocationId : String) (outcome : CallOutcome)
  | recordOutcome (invocationId : String) (stamp : EventStamp)
  | copyActive (flushId : ℕ)
  | clearInterrupted (flushId : ℕ)
  | recordInterrupted (flushId : ℕ) (stamp : EventStamp) (reason : String) (durationMs : ℤ)

open RecorderState

section Steps

variable (clock : AnalyticsClock) (context : RecorderContext)

def threadStep (state : RecorderState) (thread : CallThread) (operation : RecorderOperation) :
    RecorderState :=
  match thread.phase, operation with
  | .tracked, .recordStarted _ stamp =>
      (state.setThread thread.call .started).appendEvent
        (startedEvent clock context thread.call stamp)
  | .started, .clear _ outcome =>
      (state.setThread thread.call (.cleared outcome)).clearActiveCall thread.call.invocationId
  | .cleared outcome, .recordOutcome _ stamp =>
      (state.setThread thread.call .finished).appendEvent
        (outcomeEvent clock context thread.call stamp outcome)
  | _, _ => state

def flushStep (state : RecorderState) (flushId : ℕ) (heldCall : HeldCall)
    (operation : RecorderOperation) : RecorderState :=
  match heldCall.cleared, operation with
  | false, .clearInterrupted _ =>
      (state.markCleared flushId).clearActiveCall heldCall.call.invocationId
  | true, .recordInterrupted _ stamp reason durationMs =>
      (state.dropHeld flushId).appendEvent
        (interruptedEvent clock context heldCall.call stamp reason durationMs)
  | _, _ => state

/-- One step; a thread or a flush which is not at this step does nothing.  The invocation
id of a tracked call is fresh. -/
def recorderStep (state : RecorderState) (operation : RecorderOperation) : RecorderState :=
  match operation with
  | .track call =>
      match state.threads call.invocationId with
      | none => state.trackStartedCall call
      | some _ => state
  | .recordStarted invocationId _ | .clear invocationId _ | .recordOutcome invocationId _ =>
      match state.threads invocationId with
      | none => state
      | some thread => threadStep clock context state thread operation
  | .copyActive flushId =>
      match state.nextHeld flushId with
      | none => state.copyActiveCalls flushId
      | some _ => state
  | .clearInterrupted flushId | .recordInterrupted flushId _ _ _ =>
      match state.nextHeld flushId with
      | none => state
      | some heldCall => flushStep clock context state flushId heldCall operation

end Steps

/-! ## What a log owes and holds -/

def isStartOf (invocationId : String) (event : AnalyticsEvent) : Bool :=
  event.status = .started && event.invocationId = some invocationId

def isEndOf (invocationId : String) (event : AnalyticsEvent) : Bool :=
  event.status.isTerminal && event.invocationId = some invocationId

/-- A call has one start and at most one end in the log; one which succeeded or failed was
not interrupted. -/
structure RecordedOnce (log : List AnalyticsEvent) (invocationId : String) : Prop where
  started : log.countP (isStartOf invocationId) = 1
  terminal : log.countP (isEndOf invocationId) ≤ 1
  uninterrupted : ∀ ended ∈ log, ∀ interrupted ∈ log,
    ended.invocationId = some invocationId → interrupted.invocationId = some invocationId →
    ended.status = .success ∨ ended.status = .error → interrupted.status ≠ .interrupted

/-- Every thread has finished its call, and every flush its copy. -/
structure Complete (state : RecorderState) : Prop where
  threads : ∀ invocationId thread, state.threads invocationId = some thread →
    thread.phase = .finished
  flushes : state.held = []

/-- A flush which begins finds no active call. -/
def FlushesNothing (state : RecorderState) (operation : RecorderOperation) : Prop :=
  match operation with
  | .copyActive flushId => state.nextHeld flushId = none → state.activeCalls.rows = []
  | _ => True

def owedByThread (state : RecorderState) (invocationId : String) : ℕ :=
  match state.threads invocationId with
  | none => 0
  | some thread => if thread.phase = .finished then 0 else 1

def owedByFlushes (state : RecorderState) (invocationId : String) : ℕ :=
  state.held.countP fun heldCall => heldCall.call.invocationId = invocationId

def expectedEnds (state : RecorderState) (invocationId : String) : ℕ :=
  state.log.countP (isEndOf invocationId) + owedByFlushes state invocationId +
    owedByThread state invocationId

def newlyOwed (state : RecorderState) (operation : RecorderOperation) (invocationId : String) :
    ℕ :=
  match operation with
  | .track call =>
      if state.threads call.invocationId = none ∧ call.invocationId = invocationId then 1 else 0
  | .copyActive flushId =>
      if state.nextHeld flushId = none then
        state.activeCalls.rows.countP fun call => call.invocationId = invocationId
      else 0
  | _ => 0

variable {call : ToolCall} {next : RecorderState} {operation : RecorderOperation}
  {thread : CallThread}

/-! ## The moves of a step -/

section Moves

variable (clock : AnalyticsClock) (context : RecorderContext)

inductive RecorderMove (state : RecorderState) : RecorderOperation → RecorderState → Prop where
  | rest {operation : RecorderOperation}
      (howed : ∀ invocationId, newlyOwed state operation invocationId = 0) :
      RecorderMove state operation state
  | track {call : ToolCall} (hfresh : state.threads call.invocationId = none) :
      RecorderMove state (.track call) (state.trackStartedCall call)
  | start {invocationId : String} {stamp : EventStamp} {thread : CallThread}
      (hthread : state.threads invocationId = some thread) (hphase : thread.phase = .tracked) :
      RecorderMove state (.recordStarted invocationId stamp)
        ((state.setThread thread.call .started).appendEvent
          (startedEvent clock context thread.call stamp))
  | clear {invocationId : String} {outcome : CallOutcome} {thread : CallThread}
      (hthread : state.threads invocationId = some thread) (hphase : thread.phase = .started) :
      RecorderMove state (.clear invocationId outcome)
        ((state.setThread thread.call (.cleared outcome)).clearActiveCall
          thread.call.invocationId)
  | finish {invocationId : String} {stamp : EventStamp} {thread : CallThread}
      {outcome : CallOutcome} (hthread : state.threads invocationId = some thread)
      (hphase : thread.phase = .cleared outcome) :
      RecorderMove state (.recordOutcome invocationId stamp)
        ((state.setThread thread.call .finished).appendEvent
          (outcomeEvent clock context thread.call stamp outcome))
  | copy {flushId : ℕ} (hidle : state.nextHeld flushId = none) :
      RecorderMove state (.copyActive flushId) (state.copyActiveCalls flushId)
  | clearHeld {flushId : ℕ} {heldCall : HeldCall}
      (hnext : state.nextHeld flushId = some heldCall) :
      RecorderMove state (.clearInterrupted flushId)
        ((state.markCleared flushId).clearActiveCall heldCall.call.invocationId)
  | interrupt {flushId : ℕ} {heldCall : HeldCall} {stamp : EventStamp} {reason : String}
      {durationMs : ℤ} (hnext : state.nextHeld flushId = some heldCall) :
      RecorderMove state (.recordInterrupted flushId stamp reason durationMs)
        ((state.dropHeld flushId).appendEvent
          (interruptedEvent clock context heldCall.call stamp reason durationMs))

theorem recorderMove_of_step (state : RecorderState) (operation : RecorderOperation) :
    RecorderMove clock context state operation (recorderStep clock context state operation) := by
  cases operation with
  | track call =>
      cases hthread : state.threads call.invocationId with
      | none =>
          simp only [recorderStep, hthread]
          exact .track hthread
      | some thread =>
          simp only [recorderStep, hthread]
          exact .rest fun _ => by simp [newlyOwed, hthread]
  | recordStarted invocationId stamp =>
      cases hthread : state.threads invocationId with
      | none =>
          simp only [recorderStep, hthread]
          exact .rest fun _ => rfl
      | some thread =>
          cases hphase : thread.phase with
          | tracked =>
              simp only [recorderStep, hthread, threadStep, hphase]
              exact .start hthread hphase
          | started | cleared | finished =>
              simp only [recorderStep, hthread, threadStep, hphase]
              exact .rest fun _ => rfl
  | clear invocationId outcome =>
      cases hthread : state.threads invocationId with
      | none =>
          simp only [recorderStep, hthread]
          exact .rest fun _ => rfl
      | some thread =>
          cases hphase : thread.phase with
          | started =>
              simp only [recorderStep, hthread, threadStep, hphase]
              exact .clear hthread hphase
          | tracked | cleared | finished =>
              simp only [recorderStep, hthread, threadStep, hphase]
              exact .rest fun _ => rfl
  | recordOutcome invocationId stamp =>
      cases hthread : state.threads invocationId with
      | none =>
          simp only [recorderStep, hthread]
          exact .rest fun _ => rfl
      | some thread =>
          cases hphase : thread.phase with
          | cleared outcome =>
              simp only [recorderStep, hthread, threadStep, hphase]
              exact .finish hthread hphase
          | tracked | started | finished =>
              simp only [recorderStep, hthread, threadStep, hphase]
              exact .rest fun _ => rfl
  | copyActive flushId =>
      cases hnext : state.nextHeld flushId with
      | none =>
          simp only [recorderStep, hnext]
          exact .copy hnext
      | some heldCall =>
          simp only [recorderStep, hnext]
          exact .rest fun _ => by simp [newlyOwed, hnext]
  | clearInterrupted flushId =>
      cases hnext : state.nextHeld flushId with
      | none =>
          simp only [recorderStep, hnext]
          exact .rest fun _ => rfl
      | some heldCall =>
          cases hcleared : heldCall.cleared with
          | false =>
              simp only [recorderStep, hnext, flushStep, hcleared]
              exact .clearHeld hnext
          | true =>
              simp only [recorderStep, hnext, flushStep, hcleared]
              exact .rest fun _ => rfl
  | recordInterrupted flushId stamp reason durationMs =>
      cases hnext : state.nextHeld flushId with
      | none =>
          simp only [recorderStep, hnext]
          exact .rest fun _ => rfl
      | some heldCall =>
          cases hcleared : heldCall.cleared with
          | true =>
              simp only [recorderStep, hnext, flushStep, hcleared]
              exact .interrupt hnext
          | false =>
              simp only [recorderStep, hnext, flushStep, hcleared]
              exact .rest fun _ => rfl

/-! ### What the moves add -/

variable {clock context} {state : RecorderState} {invocationId : String}

@[simp] theorem isEndOf_startedEvent (call : ToolCall) (stamp : EventStamp) :
    isEndOf invocationId (startedEvent clock context call stamp) = false := rfl

@[simp] theorem isStartOf_startedEvent (call : ToolCall) (stamp : EventStamp) :
    isStartOf invocationId (startedEvent clock context call stamp) =
      decide (call.invocationId = invocationId) := by
  simp [isStartOf]

@[simp] theorem isEndOf_outcomeEvent (call : ToolCall) (stamp : EventStamp)
    (outcome : CallOutcome) :
    isEndOf invocationId (outcomeEvent clock context call stamp outcome) =
      decide (call.invocationId = invocationId) := by
  cases outcome with
  | success durationMs output =>
      simp [isEndOf, outcomeEvent, baseEvent, AnalyticsStatus.isTerminal]
  | error durationMs errorClass message hclass =>
      simp [isEndOf, outcomeEvent, baseEvent, AnalyticsStatus.isTerminal]

@[simp] theorem isStartOf_outcomeEvent (call : ToolCall) (stamp : EventStamp)
    (outcome : CallOutcome) :
    isStartOf invocationId (outcomeEvent clock context call stamp outcome) = false := by
  cases outcome with
  | success durationMs output => rfl
  | error durationMs errorClass message hclass => rfl

@[simp] theorem isEndOf_interruptedEvent (call : ToolCall) (stamp : EventStamp)
    (reason : String) (durationMs : ℤ) :
    isEndOf invocationId (interruptedEvent clock context call stamp reason durationMs) =
      decide (call.invocationId = invocationId) := by
  simp [isEndOf, AnalyticsStatus.isTerminal]

@[simp] theorem isStartOf_interruptedEvent (call : ToolCall) (stamp : EventStamp)
    (reason : String) (durationMs : ℤ) :
    isStartOf invocationId (interruptedEvent clock context call stamp reason durationMs) =
      false := rfl

theorem owedByThread_setThread (call : ToolCall) (phase : CallPhase) :
    owedByThread (state.setThread call phase) invocationId =
      if invocationId = call.invocationId then (if phase = .finished then 0 else 1)
      else owedByThread state invocationId := by
  by_cases hcall : invocationId = call.invocationId
  · simp [owedByThread, setThread, hcall]
  · simp [owedByThread, setThread, hcall]

theorem expectedEnds_appendEvent (event : AnalyticsEvent) :
    expectedEnds (state.appendEvent event) invocationId =
      expectedEnds state invocationId + if isEndOf invocationId event then 1 else 0 := by
  have hflushes : owedByFlushes (state.appendEvent event) invocationId =
      owedByFlushes state invocationId := rfl
  have hthread : owedByThread (state.appendEvent event) invocationId =
      owedByThread state invocationId := rfl
  rw [expectedEnds, hflushes, hthread, expectedEnds, appendEvent, List.countP_append,
    List.countP_singleton]
  omega

theorem expectedEnds_clearActiveCall (cleared : String) :
    expectedEnds (state.clearActiveCall cleared) invocationId =
      expectedEnds state invocationId := rfl

theorem expectedEnds_setThread (call : ToolCall) (phase : CallPhase) :
    expectedEnds (state.setThread call phase) invocationId =
      state.log.countP (isEndOf invocationId) + owedByFlushes state invocationId +
        owedByThread (state.setThread call phase) invocationId := rfl

theorem owedByThread_advance (invocationId : String) {phase : CallPhase}
    (hthread : state.threads thread.call.invocationId = some thread)
    (hbefore : thread.phase ≠ .finished) (hafter : phase ≠ .finished) :
    owedByThread (state.setThread thread.call phase) invocationId =
      owedByThread state invocationId := by
  rw [owedByThread_setThread]
  by_cases hcall : invocationId = thread.call.invocationId
  · rw [if_pos hcall, if_neg hafter, hcall, owedByThread, hthread]
    simp [hbefore]
  · rw [if_neg hcall]

theorem owedByThread_finish (invocationId : String)
    (hthread : state.threads thread.call.invocationId = some thread)
    (hbefore : thread.phase ≠ .finished) :
    owedByThread (state.setThread thread.call .finished) invocationId +
        (if thread.call.invocationId = invocationId then 1 else 0) =
      owedByThread state invocationId := by
  rw [owedByThread_setThread]
  by_cases hcall : thread.call.invocationId = invocationId
  · rw [if_pos hcall.symm, if_pos hcall, ← hcall, owedByThread, hthread]
    simp [hbefore]
  · have hcall' : ¬ invocationId = thread.call.invocationId := fun heq => hcall heq.symm
    rw [if_neg hcall', if_neg hcall, Nat.add_zero]

theorem owedByFlushes_markCleared (state : RecorderState) (invocationId : String) (flushId : ℕ) :
    owedByFlushes (state.markCleared flushId) invocationId =
      owedByFlushes state invocationId := by
  unfold owedByFlushes markCleared
  rw [List.countP_map]
  apply List.countP_congr
  intro heldCall _
  by_cases hnext : some heldCall = state.nextHeld flushId <;> simp [hnext]

theorem countP_eraseP_add {α : Type} (drops counts : α → Bool) {items : List α} {item : α}
    (hfind : items.find? drops = some item) :
    (items.eraseP drops).countP counts + (if counts item then 1 else 0) =
      items.countP counts := by
  induction items with
  | nil => simp at hfind
  | cons head items ih =>
      cases hdrops : drops head with
      | true =>
          rw [List.find?_cons_of_pos hdrops, Option.some.injEq] at hfind
          rw [List.eraseP_cons_of_pos hdrops, hfind, List.countP_cons]
      | false =>
          have hnot : ¬ drops head = true := by simp [hdrops]
          rw [List.find?_cons_of_neg hnot] at hfind
          rw [List.eraseP_cons_of_neg hnot, List.countP_cons, List.countP_cons, ← ih hfind]
          omega

theorem owedByFlushes_dropHeld (invocationId : String) {flushId : ℕ} {heldCall : HeldCall}
    (hnext : state.nextHeld flushId = some heldCall) :
    owedByFlushes (state.dropHeld flushId) invocationId +
        (if heldCall.call.invocationId = invocationId then 1 else 0) =
      owedByFlushes state invocationId := by
  have hcount := countP_eraseP_add (fun heldCall : HeldCall => heldCall.flushId = flushId)
    (fun heldCall : HeldCall => heldCall.call.invocationId = invocationId) hnext
  simpa [owedByFlushes, dropHeld] using hcount

theorem owedByFlushes_copyActiveCalls (state : RecorderState) (invocationId : String) (flushId : ℕ) :
    owedByFlushes (state.copyActiveCalls flushId) invocationId =
      owedByFlushes state invocationId +
        state.activeCalls.rows.countP fun call => call.invocationId = invocationId := by
  unfold owedByFlushes copyActiveCalls
  rw [List.countP_append, List.countP_map]
  rfl

/-! ### The terminal events of a call -/

structure Tidy (state : RecorderState) : Prop where
  keyed : ∀ invocationId thread, state.threads invocationId = some thread →
    thread.call.invocationId = invocationId
  unknown : ∀ invocationId, state.threads invocationId = none →
    expectedEnds state invocationId = 0 ∧ state.log.countP (isStartOf invocationId) = 0
  starts : ∀ invocationId thread, state.threads invocationId = some thread →
    state.log.countP (isStartOf invocationId) = if thread.phase = .tracked then 0 else 1
  active : ∀ call ∈ state.activeCalls, ∃ thread,
    state.threads call.invocationId = some thread ∧
      (thread.phase = .tracked ∨ thread.phase = .started)

theorem tidy_initial : Tidy RecorderState.initial := by
  constructor
  · intro invocationId thread hthread
    cases hthread
  · intro invocationId _
    exact ⟨rfl, rfl⟩
  · intro invocationId thread hthread
    cases hthread
  · intro call hcall
    cases hcall

theorem Tidy.expectedEnds_trackStartedCall (htidy : Tidy state)
    (hfresh : state.threads call.invocationId = none) (invocationId : String) :
    expectedEnds (state.trackStartedCall call) invocationId =
      expectedEnds state invocationId + if call.invocationId = invocationId then 1 else 0 := by
  have hnone := (htidy.unknown call.invocationId hfresh).1
  have hthread : owedByThread (state.trackStartedCall call) invocationId =
      if invocationId = call.invocationId then 1
      else owedByThread state invocationId := owedByThread_setThread call .tracked
  have hrest : expectedEnds (state.trackStartedCall call) invocationId =
      state.log.countP (isEndOf invocationId) + owedByFlushes state invocationId +
        owedByThread (state.trackStartedCall call) invocationId := rfl
  rw [hrest, hthread]
  by_cases hcall : call.invocationId = invocationId
  · have hbefore : expectedEnds state invocationId = 0 := hcall ▸ hnone
    rw [if_pos hcall.symm, if_pos hcall]
    rw [expectedEnds] at hbefore ⊢
    omega
  · have hcall' : ¬ invocationId = call.invocationId := fun heq => hcall heq.symm
    rw [if_neg hcall', if_neg hcall]
    rfl

theorem expectedEnds_move (htidy : Tidy state)
    (hmove : RecorderMove clock context state operation next) (invocationId : String) :
    expectedEnds next invocationId =
      expectedEnds state invocationId + newlyOwed state operation invocationId := by
  cases hmove with
  | rest howed => rw [howed, Nat.add_zero]
  | @track call hfresh =>
      rw [htidy.expectedEnds_trackStartedCall hfresh, newlyOwed]
      simp only [hfresh, true_and]
  | @start started stamp thread hthread hphase =>
      rw [← htidy.keyed started thread hthread] at hthread
      have howed := owedByThread_advance invocationId hthread (by simp [hphase])
        (CallPhase.noConfusion : CallPhase.started ≠ .finished)
      rw [expectedEnds_appendEvent, expectedEnds_setThread, howed, isEndOf_startedEvent]
      rfl
  | @clear started outcome thread hthread hphase =>
      rw [← htidy.keyed started thread hthread] at hthread
      have howed := owedByThread_advance invocationId hthread (by simp [hphase])
        (CallPhase.noConfusion : CallPhase.cleared outcome ≠ .finished)
      rw [expectedEnds_clearActiveCall, expectedEnds_setThread, howed]
      rfl
  | @finish started stamp thread outcome hthread hphase =>
      rw [← htidy.keyed started thread hthread] at hthread
      have howed := owedByThread_finish invocationId hthread (by simp [hphase])
      have hnew : newlyOwed state (.recordOutcome started stamp) invocationId = 0 := rfl
      rw [expectedEnds_appendEvent, expectedEnds_setThread, isEndOf_outcomeEvent, hnew,
        expectedEnds]
      simp only [decide_eq_true_eq]
      omega
  | @copy flushId hidle =>
      have howed := owedByFlushes_copyActiveCalls state invocationId flushId
      have hthread : owedByThread (state.copyActiveCalls flushId) invocationId =
          owedByThread state invocationId := rfl
      have hlog : (state.copyActiveCalls flushId).log = state.log := rfl
      rw [expectedEnds, howed, hthread, hlog, newlyOwed, if_pos hidle, expectedEnds]
      omega
  | @clearHeld flushId heldCall hnext =>
      have howed := owedByFlushes_markCleared state invocationId flushId
      have hthread : owedByThread (state.markCleared flushId) invocationId =
          owedByThread state invocationId := rfl
      have hlog : (state.markCleared flushId).log = state.log := rfl
      rw [expectedEnds_clearActiveCall, expectedEnds, howed, hthread, hlog]
      rfl
  | @interrupt flushId heldCall stamp reason durationMs hnext =>
      have howed := owedByFlushes_dropHeld invocationId hnext
      have hthread : owedByThread (state.dropHeld flushId) invocationId =
          owedByThread state invocationId := rfl
      have hlog : (state.dropHeld flushId).log = state.log := rfl
      have hnew : newlyOwed state (.recordInterrupted flushId stamp reason durationMs)
          invocationId = 0 := rfl
      rw [expectedEnds_appendEvent, isEndOf_interruptedEvent, expectedEnds, hthread, hlog, hnew,
        expectedEnds]
      simp only [decide_eq_true_eq]
      omega

/-! ### The starts of a call -/

theorem starts_appendEvent (event : AnalyticsEvent) (log : List AnalyticsEvent) :
    (log ++ [event]).countP (isStartOf invocationId) =
      log.countP (isStartOf invocationId) + if isStartOf invocationId event then 1 else 0 := by
  rw [List.countP_append, List.countP_singleton]

theorem Tidy.not_active (htidy : Tidy state)
    (hthread : state.threads thread.call.invocationId = some thread)
    (htracked : thread.phase ≠ .tracked) (hstarted : thread.phase ≠ .started) :
    ∀ call ∈ state.activeCalls, call.invocationId ≠ thread.call.invocationId := by
  intro call hcall heq
  obtain ⟨found, hfound, hphase⟩ := htidy.active call hcall
  rw [heq, hthread, Option.some.injEq] at hfound
  rw [← hfound] at hphase
  cases hphase with
  | inl h => exact htracked h
  | inr h => exact hstarted h

theorem Tidy.advance {phase : CallPhase} (htidy : Tidy state)
    (hthreads : next.threads =
      Function.update state.threads thread.call.invocationId (some ⟨thread.call, phase⟩))
    (hexpected : ∀ invocationId, expectedEnds next invocationId =
      expectedEnds state invocationId)
    (hstarts : ∀ invocationId, next.log.countP (isStartOf invocationId) =
      if invocationId = thread.call.invocationId then (if phase = .tracked then 0 else 1)
      else state.log.countP (isStartOf invocationId))
    (hactive : ∀ call ∈ next.activeCalls, call ∈ state.activeCalls ∧
      (call.invocationId = thread.call.invocationId → phase = .tracked ∨ phase = .started)) :
    Tidy next := by
  constructor
  · intro invocationId other hother
    rw [hthreads] at hother
    by_cases hcall : invocationId = thread.call.invocationId
    · rw [hcall, Function.update_self, Option.some.injEq] at hother
      rw [← hother, hcall]
    · rw [Function.update_of_ne hcall] at hother
      exact htidy.keyed invocationId other hother
  · intro invocationId hnone
    rw [hthreads] at hnone
    by_cases hcall : invocationId = thread.call.invocationId
    · simp [hcall] at hnone
    · rw [Function.update_of_ne hcall] at hnone
      rw [hexpected, hstarts, if_neg hcall]
      exact htidy.unknown invocationId hnone
  · intro invocationId other hother
    rw [hthreads] at hother
    rw [hstarts]
    by_cases hcall : invocationId = thread.call.invocationId
    · rw [hcall, Function.update_self, Option.some.injEq] at hother
      rw [if_pos hcall, ← hother]
    · rw [Function.update_of_ne hcall] at hother
      rw [if_neg hcall]
      exact htidy.starts invocationId other hother
  · intro call hcall
    obtain ⟨hmem, hphase⟩ := hactive call hcall
    rw [hthreads]
    by_cases hsame : call.invocationId = thread.call.invocationId
    · rw [hsame, Function.update_self]
      exact ⟨_, rfl, hphase hsame⟩
    · rw [Function.update_of_ne hsame]
      exact htidy.active call hmem

theorem Tidy.flush (htidy : Tidy state) (hthreads : next.threads = state.threads)
    (hexpected : ∀ invocationId, state.threads invocationId = none →
      expectedEnds next invocationId = 0)
    (hstarts : ∀ invocationId, next.log.countP (isStartOf invocationId) =
      state.log.countP (isStartOf invocationId))
    (hactive : ∀ call ∈ next.activeCalls, call ∈ state.activeCalls) : Tidy next := by
  constructor
  · rw [hthreads]
    exact htidy.keyed
  · intro invocationId hnone
    rw [hthreads] at hnone
    rw [hexpected invocationId hnone, hstarts]
    exact ⟨rfl, (htidy.unknown invocationId hnone).2⟩
  · intro invocationId thread hthread
    rw [hthreads] at hthread
    rw [hstarts]
    exact htidy.starts invocationId thread hthread
  · intro call hcall
    rw [hthreads]
    exact htidy.active call (hactive call hcall)

theorem Tidy.trackStartedCall (htidy : Tidy state) (hfresh : state.threads call.invocationId = none) :
    Tidy (state.trackStartedCall call) := by
  have hlog : (state.trackStartedCall call).log = state.log := rfl
  have hthreads : (state.trackStartedCall call).threads =
      Function.update state.threads call.invocationId (some ⟨call, .tracked⟩) := rfl
  constructor
  · intro invocationId thread hthread
    rw [hthreads] at hthread
    by_cases hcall : invocationId = call.invocationId
    · rw [hcall, Function.update_self, Option.some.injEq] at hthread
      rw [← hthread, hcall]
    · rw [Function.update_of_ne hcall] at hthread
      exact htidy.keyed invocationId thread hthread
  · intro invocationId hnone
    rw [hthreads] at hnone
    by_cases hcall : invocationId = call.invocationId
    · simp [hcall] at hnone
    · rw [Function.update_of_ne hcall] at hnone
      have hcall' : ¬ call.invocationId = invocationId := fun heq => hcall heq.symm
      rw [htidy.expectedEnds_trackStartedCall hfresh, if_neg hcall', hlog]
      exact htidy.unknown invocationId hnone
  · intro invocationId thread hthread
    rw [hthreads] at hthread
    rw [hlog]
    by_cases hcall : invocationId = call.invocationId
    · rw [hcall, Function.update_self, Option.some.injEq] at hthread
      rw [← hthread, if_pos rfl, hcall]
      exact (htidy.unknown call.invocationId hfresh).2
    · rw [Function.update_of_ne hcall] at hthread
      exact htidy.starts invocationId thread hthread
  · intro other hother
    rw [hthreads]
    by_cases hcall : other.invocationId = call.invocationId
    · rw [hcall, Function.update_self]
      exact ⟨_, rfl, .inl rfl⟩
    · rw [Function.update_of_ne hcall]
      have hmem : other = call ∨ other ∈ state.activeCalls ∧
          other.invocationId ≠ call.invocationId := mem_upsert.mp hother
      cases hmem with
      | inl heq => exact absurd (congrArg ToolCall.invocationId heq) hcall
      | inr hold => exact htidy.active other hold.1

theorem Tidy.move (htidy : Tidy state) (hmove : RecorderMove clock context state operation next) :
    Tidy next := by
  have hexpected := expectedEnds_move htidy hmove
  cases hmove with
  | rest howed => exact htidy
  | @track call hfresh => exact htidy.trackStartedCall hfresh
  | @start started stamp thread hthread hphase =>
      rw [← htidy.keyed started thread hthread] at hthread
      apply htidy.advance rfl hexpected
      · intro invocationId
        have hbefore := htidy.starts _ thread hthread
        rw [if_pos hphase] at hbefore
        rw [appendEvent, starts_appendEvent, isStartOf_startedEvent]
        by_cases hcall : thread.call.invocationId = invocationId
        · simp [setThread, hcall.symm, hbefore]
        · have hcall' : ¬ invocationId = thread.call.invocationId := fun heq => hcall heq.symm
          simp [setThread, hcall, hcall']
      · intro call hcall
        exact ⟨hcall, fun _ => .inr rfl⟩
  | @clear started outcome thread hthread hphase =>
      rw [← htidy.keyed started thread hthread] at hthread
      apply htidy.advance rfl hexpected
      · intro invocationId
        have hbefore := htidy.starts _ thread hthread
        rw [hphase, if_neg CallPhase.noConfusion] at hbefore
        by_cases hcall : invocationId = thread.call.invocationId
        · rw [if_pos hcall, if_neg CallPhase.noConfusion, hcall]
          exact hbefore
        · rw [if_neg hcall]
          rfl
      · intro call hcall
        have hmem := mem_delete.mp hcall
        exact ⟨hmem.1, fun hsame => absurd hsame hmem.2⟩
  | @finish started stamp thread outcome hthread hphase =>
      rw [← htidy.keyed started thread hthread] at hthread
      apply htidy.advance rfl hexpected
      · intro invocationId
        have hbefore := htidy.starts _ thread hthread
        rw [hphase, if_neg CallPhase.noConfusion] at hbefore
        rw [appendEvent, starts_appendEvent, isStartOf_outcomeEvent]
        simp only [Bool.false_eq_true, if_false, Nat.add_zero]
        by_cases hcall : invocationId = thread.call.invocationId
        · rw [if_pos hcall, if_neg CallPhase.noConfusion, hcall]
          exact hbefore
        · rw [if_neg hcall]
          rfl
      · intro call hcall
        have hne := htidy.not_active hthread (by simp [hphase]) (by simp [hphase]) call hcall
        exact ⟨hcall, fun hsame => absurd hsame hne⟩
  | @copy flushId hidle =>
      have hthreads : (state.copyActiveCalls flushId).threads =
          state.threads := rfl
      apply htidy.flush hthreads
      · intro invocationId hnone
        have hnew : newlyOwed state (.copyActive flushId) invocationId = 0 := by
          rw [newlyOwed, if_pos hidle, List.countP_eq_zero]
          intro call hcall
          obtain ⟨thread, hthread, -⟩ := htidy.active call hcall
          rw [decide_eq_true_eq]
          intro heq
          rw [heq, hnone] at hthread
          cases hthread
        rw [hexpected, hnew]
        exact (htidy.unknown invocationId hnone).1
      · intro invocationId
        rfl
      · intro call hcall
        exact hcall
  | @clearHeld flushId heldCall hnext =>
      have hthreads : ((state.markCleared flushId).clearActiveCall heldCall.call.invocationId).threads =
          state.threads := rfl
      apply htidy.flush hthreads
      · intro invocationId hnone
        rw [hexpected]
        exact (htidy.unknown invocationId hnone).1
      · intro invocationId
        rfl
      · intro call hcall
        exact (mem_delete.mp hcall).1
  | @interrupt flushId heldCall stamp reason durationMs hnext =>
      have hthreads : ((state.dropHeld flushId).appendEvent
          (interruptedEvent clock context heldCall.call stamp reason durationMs)).threads =
          state.threads := rfl
      apply htidy.flush hthreads
      · intro invocationId hnone
        rw [hexpected]
        exact (htidy.unknown invocationId hnone).1
      · intro invocationId
        rw [appendEvent, starts_appendEvent, isStartOf_interruptedEvent]
        rfl
      · intro call hcall
        exact hcall

end Moves

/-! ## Runs -/

section Runs

variable (clock : AnalyticsClock) (context : RecorderContext)

/-- The state behind the steps of threads and flushes in some order. -/
def recorderRun (state : RecorderState) (operations : List RecorderOperation) : RecorderState :=
  operations.foldl (recorderStep clock context) state

variable {clock context} {state : RecorderState}

theorem Tidy.step (htidy : Tidy state) (operation : RecorderOperation) :
    Tidy (recorderStep clock context state operation) :=
  htidy.move (recorderMove_of_step clock context state operation)

theorem expectedEnds_step (htidy : Tidy state) (operation : RecorderOperation)
    (invocationId : String) :
    expectedEnds (recorderStep clock context state operation) invocationId =
      expectedEnds state invocationId + newlyOwed state operation invocationId :=
  expectedEnds_move htidy (recorderMove_of_step clock context state operation) invocationId

theorem Tidy.run (htidy : Tidy state) (operations : List RecorderOperation) :
    Tidy (recorderRun clock context state operations) := by
  induction operations generalizing state with
  | nil => exact htidy
  | cons operation operations ih => exact ih (htidy.step operation)

theorem expectedEnds_le_run (htidy : Tidy state) (operations : List RecorderOperation)
    (invocationId : String) :
    expectedEnds state invocationId ≤
      expectedEnds (recorderRun clock context state operations) invocationId := by
  induction operations generalizing state with
  | nil => exact le_refl _
  | cons operation operations ih =>
      calc expectedEnds state invocationId
          ≤ expectedEnds (recorderStep clock context state operation) invocationId := by
            rw [expectedEnds_step htidy]
            exact Nat.le_add_right _ _
        _ ≤ _ := ih (htidy.step operation)

theorem Complete.expectedEnds_eq (hcomplete : Complete state) (invocationId : String) :
    expectedEnds state invocationId = state.log.countP (isEndOf invocationId) := by
  have hflushes : owedByFlushes state invocationId = 0 := by
    simp [owedByFlushes, hcomplete.flushes]
  have hthread : owedByThread state invocationId = 0 := by
    cases hfound : state.threads invocationId with
    | none => simp [owedByThread, hfound]
    | some thread =>
        simp [owedByThread, hfound, hcomplete.threads invocationId thread hfound]
  rw [expectedEnds, hflushes, hthread, Nat.add_zero]

theorem newlyOwed_add_le_one (htidy : Tidy state) (hnothing : FlushesNothing state operation)
    {invocationId : String} (honce : expectedEnds state invocationId ≤ 1) :
    expectedEnds state invocationId + newlyOwed state operation invocationId ≤ 1 := by
  cases operation with
  | track call =>
      rw [newlyOwed]
      by_cases hnew : state.threads call.invocationId = none ∧ call.invocationId = invocationId
      · have hzero := (htidy.unknown call.invocationId hnew.1).1
        rw [hnew.2] at hzero
        rw [if_pos hnew, hzero]
      · rw [if_neg hnew]
        exact honce
  | copyActive flushId =>
      rw [newlyOwed]
      by_cases hidle : state.nextHeld flushId = none
      · rw [if_pos hidle, hnothing hidle]
        exact honce
      · rw [if_neg hidle]
        exact honce
  | recordStarted | clear | recordOutcome | clearInterrupted | recordInterrupted => exact honce

theorem expectedEnds_le_one (htidy : Tidy state)
    (honce : ∀ invocationId, expectedEnds state invocationId ≤ 1)
    {operations : List RecorderOperation}
    (hnothing : Runs.EveryStep (recorderStep clock context) FlushesNothing state operations)
    (invocationId : String) :
    expectedEnds (recorderRun clock context state operations) invocationId ≤ 1 := by
  induction operations generalizing state with
  | nil => exact honce invocationId
  | cons operation operations ih =>
      rw [Runs.everyStep_cons_iff] at hnothing
      apply ih (htidy.step operation) _ hnothing.2
      intro other
      rw [expectedEnds_step htidy]
      exact newlyOwed_add_le_one htidy hnothing.1 (honce other)

theorem eq_of_countP_le_one {α : Type} {counts : α → Bool} {items : List α} {left right : α}
    (hcount : items.countP counts ≤ 1) (hleft : left ∈ items) (hright : right ∈ items)
    (hcountsLeft : counts left = true) (hcountsRight : counts right = true) : left = right := by
  rw [List.countP_eq_length_filter] at hcount
  have hleft' := List.mem_filter.mpr ⟨hleft, hcountsLeft⟩
  have hright' := List.mem_filter.mpr ⟨hright, hcountsRight⟩
  cases hfilter : items.filter counts with
  | nil => simp [hfilter] at hleft'
  | cons first rest =>
      rw [hfilter, List.length_cons] at hcount
      have hrest : rest = [] := List.length_eq_zero_iff.mp (by omega)
      rw [hfilter, hrest, List.mem_singleton] at hleft' hright'
      rw [hleft', hright']

theorem recordedOnce_of_expectedEnds (htidy : Tidy state) {invocationId : String}
    (hthread : state.threads invocationId = some thread) (hfinished : thread.phase = .finished)
    (honce : expectedEnds state invocationId ≤ 1) :
    RecordedOnce state.log invocationId := by
  have hterminal : state.log.countP (isEndOf invocationId) ≤ 1 := by
    rw [expectedEnds] at honce
    omega
  constructor
  · rw [htidy.starts invocationId thread hthread, hfinished]
    rfl
  · exact hterminal
  · intro ended hended interrupted hinterrupted hendedId hinterruptedId hstatus hboth
    have hendedCounts : isEndOf invocationId ended = true := by
      cases hstatus with
      | inl hsuccess => simp [isEndOf, hendedId, hsuccess, AnalyticsStatus.isTerminal]
      | inr herror => simp [isEndOf, hendedId, herror, AnalyticsStatus.isTerminal]
    have hinterruptedCounts : isEndOf invocationId interrupted = true := by
      simp [isEndOf, hinterruptedId, hboth, AnalyticsStatus.isTerminal]
    have heq := eq_of_countP_le_one hterminal hended hinterrupted hendedCounts hinterruptedCounts
    rw [heq, hboth] at hstatus
    cases hstatus with
    | inl h => cases h
    | inr h => cases h

theorem two_le_expectedEnds_of_copied (htidy : Tidy state) {flushId : ℕ}
    (hidle : state.nextHeld flushId = none) (hcall : call ∈ state.activeCalls) :
    2 ≤ expectedEnds (recorderStep clock context state (.copyActive flushId))
      call.invocationId := by
  have hthread : 1 ≤ expectedEnds state call.invocationId := by
    obtain ⟨thread, hthread, hphase⟩ := htidy.active call hcall
    have hopen : thread.phase ≠ .finished := by
      intro hfinished
      simp [hfinished] at hphase
    have howed : owedByThread state call.invocationId = 1 := by
      simp [owedByThread, hthread, hopen]
    rw [expectedEnds]
    omega
  have hflush : 1 ≤ newlyOwed state (.copyActive flushId) call.invocationId := by
    rw [newlyOwed, if_pos hidle]
    exact List.countP_pos_iff.mpr ⟨call, hcall, by simp⟩
  rw [expectedEnds_step htidy]
  omega

theorem flushesNothing_of_recordedOnce (htidy : Tidy state)
    {operations : List RecorderOperation}
    (hcomplete : Complete (recorderRun clock context state operations))
    (honce : ∀ invocationId thread,
      (recorderRun clock context state operations).threads invocationId = some thread →
        RecordedOnce (recorderRun clock context state operations).log invocationId) :
    Runs.EveryStep (recorderStep clock context) FlushesNothing state operations := by
  induction operations generalizing state with
  | nil => exact .nil
  | cons operation operations ih =>
      refine .cons ?_ (ih (htidy.step operation) hcomplete honce)
      cases operation with
      | copyActive flushId =>
          intro hidle
          apply List.eq_nil_iff_forall_not_mem.mpr
          intro call hcall
          have hfinal : 2 ≤ expectedEnds
              (recorderRun clock context state (.copyActive flushId :: operations))
              call.invocationId :=
            le_trans (two_le_expectedEnds_of_copied htidy hidle hcall)
              (expectedEnds_le_run (htidy.step _) operations _)
          cases hthread : (recorderRun clock context state
              (.copyActive flushId :: operations)).threads call.invocationId with
          | none =>
              have hzero := ((htidy.run _).unknown call.invocationId hthread).1
              omega
          | some thread =>
              have hterminal := (honce call.invocationId thread hthread).terminal
              rw [hcomplete.expectedEnds_eq] at hfinal
              omega
      | track | recordStarted | clear | recordOutcome | clearInterrupted | recordInterrupted =>
          trivial

/-- In every interleaving of threads and flushes which runs to its end, each call has one
start and at most one end, and none that ended is interrupted, exactly where every flush
began with no active call. -/
theorem recordedOnce_iff {operations : List RecorderOperation}
    (hcomplete : Complete (recorderRun clock context .initial operations)) :
    (∀ invocationId thread,
      (recorderRun clock context .initial operations).threads invocationId = some thread →
        RecordedOnce (recorderRun clock context .initial operations).log invocationId) ↔
      Runs.EveryStep (recorderStep clock context) FlushesNothing .initial operations := by
  constructor
  · intro honce
    exact flushesNothing_of_recordedOnce tidy_initial hcomplete honce
  · intro hnothing invocationId thread hthread
    apply recordedOnce_of_expectedEnds (tidy_initial.run operations) hthread
      (hcomplete.threads invocationId thread hthread)
    exact expectedEnds_le_one tidy_initial (fun _ => Nat.zero_le 1) hnothing invocationId

end Runs

/-! ## A flush during a call -/

namespace Sample

def recorderContext : RecorderContext :=
  ⟨"session:1", "run:1", none, none, none, by decide⟩

def toolCall : ToolCall := ⟨"call:1", "understand_file", "0", by decide⟩

def eventStamp (eventId : String) (hnonblank : PosixText.isBlank eventId = false) : EventStamp :=
  { eventId := eventId, instant := 0, nonblank := hnonblank }

def outputMetadata : OutputMetadata := ⟨"FileView", 2, "0", none⟩

def callSteps : List RecorderOperation :=
  [.recordStarted "call:1" (eventStamp "event:1" (by decide)),
    .clear "call:1" (.success 5 outputMetadata),
    .recordOutcome "call:1" (eventStamp "event:2" (by decide))]

def flushSteps : List RecorderOperation :=
  [.copyActive 0, .clearInterrupted 0,
    .recordInterrupted 0 (eventStamp "event:3" (by decide)) "shutdown" 5]

def quietShutdown : List RecorderOperation := .track toolCall :: (callSteps ++ flushSteps)

def busyShutdown : List RecorderOperation :=
  .track toolCall :: .copyActive 0 :: (callSteps ++ flushSteps.drop 1)

theorem complete_of_finishedThreads {state : RecorderState}
    (hthreads : state.threads =
      Function.update (Function.update (Function.update (Function.update (fun _ => none)
        "call:1" (some ⟨toolCall, .tracked⟩)) "call:1" (some ⟨toolCall, .started⟩))
        "call:1" (some ⟨toolCall, .cleared (.success 5 outputMetadata)⟩))
        "call:1" (some ⟨toolCall, .finished⟩))
    (hheld : state.held = []) : Complete state := by
  simp only [Function.update_idem] at hthreads
  constructor
  · intro invocationId thread hthread
    rw [hthreads] at hthread
    by_cases hcall : invocationId = "call:1"
    · rw [hcall, Function.update_self, Option.some.injEq] at hthread
      rw [← hthread]
    · rw [Function.update_of_ne hcall] at hthread
      cases hthread
  · exact hheld

theorem quietShutdown_complete :
    Complete (recorderRun analyticsClock recorderContext .initial quietShutdown) :=
  complete_of_finishedThreads rfl (by decide)

theorem busyShutdown_complete :
    Complete (recorderRun analyticsClock recorderContext .initial busyShutdown) :=
  complete_of_finishedThreads rfl (by decide)

end Sample

theorem recordedOnce_iff_quietShutdown :
    (∀ invocationId thread,
      (recorderRun Sample.analyticsClock Sample.recorderContext .initial
        Sample.quietShutdown).threads invocationId = some thread →
      RecordedOnce (recorderRun Sample.analyticsClock Sample.recorderContext .initial
        Sample.quietShutdown).log invocationId) ↔
      Runs.EveryStep (recorderStep Sample.analyticsClock Sample.recorderContext) FlushesNothing
        .initial Sample.quietShutdown :=
  recordedOnce_iff Sample.quietShutdown_complete

/-- A call which a flush copies and which then succeeds ends twice. -/
theorem busyShutdown_endsTwice :
    Complete (recorderRun Sample.analyticsClock Sample.recorderContext .initial
        Sample.busyShutdown) ∧
      ¬ RecordedOnce (recorderRun Sample.analyticsClock Sample.recorderContext .initial
        Sample.busyShutdown).log "call:1" := by
  refine ⟨Sample.busyShutdown_complete, ?_⟩
  intro hrecorded
  have hterminal := hrecorded.terminal
  revert hterminal
  decide

end SuitCode
