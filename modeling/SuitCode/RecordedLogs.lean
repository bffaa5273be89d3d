import SuitCode.CallInterruptions

/-!
# The log of a recorder

However threads and flushes interleave, the log only grows, each of its events passes the
validators of the store, and a call which succeeds or fails does so once, behind its start.
-/

namespace SuitCode

open Runs

def isOutcomeOf (invocationId : String) (event : AnalyticsEvent) : Bool :=
  (event.status = .success || event.status = .error) && event.invocationId = some invocationId

namespace RecorderState

def ended (state : RecorderState) (invocationId : String) : Bool :=
  (state.threads invocationId).any fun thread => thread.phase = .finished

end RecorderState

open RecorderState

structure WellRecorded (clock : AnalyticsClock) (log : List AnalyticsEvent) : Prop where
  valid : ∀ event ∈ log, event.validate clock = .ok event
  once : ∀ invocationId, log.countP (isOutcomeOf invocationId) ≤ 1
  ordered : ∀ earlier event invocationId, earlier ++ [event] <+: log →
    isOutcomeOf invocationId event = true → earlier.countP (isStartOf invocationId) = 1

variable {next : RecorderState}

section Moves

variable {clock : AnalyticsClock} {context : RecorderContext} {state : RecorderState}

theorem isOutcomeOf_outcomeEvent (invocationId : String) (call : ToolCall) (stamp : EventStamp)
    (outcome : CallOutcome) :
    isOutcomeOf invocationId (outcomeEvent clock context call stamp outcome) =
      decide (call.invocationId = invocationId) := by
  cases outcome with
  | success durationMs output => simp [isOutcomeOf, outcomeEvent, baseEvent]
  | error durationMs errorClass message hclass => simp [isOutcomeOf, outcomeEvent, baseEvent]

theorem ended_setThread (call : ToolCall) (phase : CallPhase) (invocationId : String) :
    (state.setThread call phase).ended invocationId =
      if invocationId = call.invocationId then decide (phase = .finished)
      else state.ended invocationId := by
  by_cases hcall : invocationId = call.invocationId
  · simp [ended, setThread, hcall]
  · simp [ended, setThread, hcall]

theorem WellRecorded.append {log : List AnalyticsEvent} {event : AnalyticsEvent}
    (hlog : WellRecorded clock log) (hvalid : event.validate clock = .ok event)
    (hnew : ∀ invocationId, isOutcomeOf invocationId event = true →
      log.countP (isOutcomeOf invocationId) = 0 ∧ log.countP (isStartOf invocationId) = 1) :
    WellRecorded clock (log ++ [event]) where
  valid := by
    intro written hwritten
    rw [List.mem_append, List.mem_singleton] at hwritten
    cases hwritten with
    | inl hold => exact hlog.valid written hold
    | inr heq =>
        rw [heq]
        exact hvalid
  once := by
    intro invocationId
    rw [List.countP_append, List.countP_singleton]
    by_cases houtcome : isOutcomeOf invocationId event = true
    · rw [(hnew invocationId houtcome).1, if_pos houtcome]
    · rw [if_neg houtcome]
      exact hlog.once invocationId
  ordered := by
    intro earlier written invocationId hearlier houtcome
    rw [List.prefix_concat_iff] at hearlier
    cases hearlier with
    | inl heq =>
        obtain ⟨hfront, hlast⟩ := List.append_inj' heq rfl
        rw [List.singleton_inj.mp hlast] at houtcome
        rw [hfront]
        exact (hnew invocationId houtcome).2
    | inr hold => exact hlog.ordered earlier written invocationId hold houtcome

structure Ledger (clock : AnalyticsClock) (state : RecorderState) : Prop where
  tidy : Tidy state
  recorded : WellRecorded clock state.log
  outcomes : ∀ invocationId,
    state.log.countP (isOutcomeOf invocationId) = (state.ended invocationId).toNat

/-- An event which ends no call by itself leaves the outcomes as they are. -/
theorem Ledger.write {event : AnalyticsEvent} (hledger : Ledger clock state) (htidy : Tidy next)
    (hlog : next.log = state.log ++ [event]) (hvalid : event.validate clock = .ok event)
    (hquiet : ∀ invocationId, isOutcomeOf invocationId event = false)
    (hended : ∀ invocationId, next.ended invocationId = state.ended invocationId) :
    Ledger clock next where
  tidy := htidy
  recorded := by
    rw [hlog]
    apply hledger.recorded.append hvalid
    intro invocationId houtcome
    rw [hquiet] at houtcome
    cases houtcome
  outcomes := by
    intro invocationId
    rw [hlog, List.countP_append, List.countP_singleton, hquiet, hended]
    exact hledger.outcomes invocationId

theorem Ledger.keep (hledger : Ledger clock state) (htidy : Tidy next) (hlog : next.log = state.log)
    (hended : ∀ invocationId, next.ended invocationId = state.ended invocationId) :
    Ledger clock next where
  tidy := htidy
  recorded := by
    rw [hlog]
    exact hledger.recorded
  outcomes := by
    intro invocationId
    rw [hlog, hended]
    exact hledger.outcomes invocationId

theorem ended_advance {thread : CallThread} {phase : CallPhase} (htidy : Tidy state)
    {started : String} (hthread : state.threads started = some thread)
    (hbefore : thread.phase ≠ .finished) (hafter : phase ≠ .finished) (invocationId : String) :
    (state.setThread thread.call phase).ended invocationId = state.ended invocationId := by
  rw [ended_setThread]
  by_cases hcall : invocationId = thread.call.invocationId
  · rw [htidy.keyed started thread hthread] at hcall
    simp [hcall, ended, hthread, hbefore, hafter, htidy.keyed started thread hthread]
  · rw [if_neg hcall]

theorem Ledger.move {operation : RecorderOperation} (hledger : Ledger clock state)
    (hmove : RecorderMove clock context state operation next) :
    Ledger clock next ∧ state.log <+: next.log := by
  have htidy := hledger.tidy.move hmove
  cases hmove with
  | rest howed => exact ⟨hledger, List.prefix_rfl⟩
  | @track call hfresh =>
      refine ⟨hledger.keep htidy rfl ?_, List.prefix_rfl⟩
      intro invocationId
      have hsame : (state.trackStartedCall call).ended invocationId =
          (state.setThread call .tracked).ended invocationId := rfl
      rw [hsame, ended_setThread]
      by_cases hcall : invocationId = call.invocationId
      · simp [hcall, ended, hfresh]
      · rw [if_neg hcall]
  | @start started stamp thread hthread hphase =>
      refine ⟨hledger.write htidy rfl (startedEvent_validate thread.call stamp) ?_ ?_,
        List.prefix_append _ _⟩
      · intro invocationId
        simp [isOutcomeOf]
      · exact ended_advance hledger.tidy hthread (by simp [hphase]) CallPhase.noConfusion
  | @clear started outcome thread hthread hphase =>
      refine ⟨hledger.keep htidy rfl ?_, List.prefix_rfl⟩
      exact ended_advance hledger.tidy hthread (by simp [hphase]) CallPhase.noConfusion
  | @finish started stamp thread outcome hthread hphase =>
      have hkeyed := hledger.tidy.keyed started thread hthread
      have hstart := hledger.tidy.starts started thread hthread
      have hnone := hledger.outcomes started
      rw [hphase, if_neg CallPhase.noConfusion] at hstart
      simp only [ended, hthread, Option.any_some, hphase, reduceCtorEq, decide_false,
        Bool.toNat_false] at hnone
      refine ⟨⟨htidy, ?_, ?_⟩, List.prefix_append _ _⟩
      · apply hledger.recorded.append (outcomeEvent_validate thread.call stamp outcome)
        intro invocationId houtcome
        rw [isOutcomeOf_outcomeEvent, decide_eq_true_eq, hkeyed] at houtcome
        rw [← houtcome]
        exact ⟨hnone, hstart⟩
      · intro invocationId
        have hended : ((state.setThread thread.call .finished).appendEvent
            (outcomeEvent clock context thread.call stamp outcome)).ended invocationId =
            (state.setThread thread.call .finished).ended invocationId := rfl
        rw [hended, ended_setThread]
        simp only [appendEvent, setThread, List.countP_append, List.countP_singleton,
          isOutcomeOf_outcomeEvent, hkeyed]
        by_cases hcall : invocationId = started
        · simp [hcall, hnone]
        · have hcall' : ¬ started = invocationId := fun heq => hcall heq.symm
          simp [hcall, hcall', hledger.outcomes invocationId]
  | @copy flushId hidle => exact ⟨hledger.keep htidy rfl fun _ => rfl, List.prefix_rfl⟩
  | @clearHeld flushId heldCall hnext =>
      exact ⟨hledger.keep htidy rfl fun _ => rfl, List.prefix_rfl⟩
  | @interrupt flushId heldCall stamp reason durationMs hnext =>
      refine ⟨hledger.write htidy rfl
        (interruptedEvent_validate heldCall.call stamp reason durationMs) ?_ fun _ => rfl,
        List.prefix_append _ _⟩
      intro invocationId
      simp [isOutcomeOf]

/-! ### Runs -/

theorem Ledger.run (hledger : Ledger clock state) (operations : List RecorderOperation) :
    ∀ later ∈ reached (recorderStep clock context) state operations,
      Ledger clock later ∧ state.log <+: later.log := by
  induction operations generalizing state with
  | nil =>
      intro later hlater
      cases hlater
  | cons operation operations ih =>
      intro later hlater
      obtain ⟨hnext, hgrown⟩ := hledger.move (recorderMove_of_step clock context state operation)
      cases hlater with
      | head => exact ⟨hnext, hgrown⟩
      | tail _ hrest =>
          obtain ⟨hlast, hrun⟩ := ih hnext later hrest
          exact ⟨hlast, hgrown.trans hrun⟩

theorem Ledger.grows (hledger : Ledger clock state) (operations : List RecorderOperation) :
    (reached (recorderStep clock context) state operations).Pairwise
      fun earlier later => earlier.log <+: later.log := by
  induction operations generalizing state with
  | nil => exact .nil
  | cons operation operations ih =>
      have hnext := (hledger.move (recorderMove_of_step clock context state operation)).1
      exact .cons (fun later hlater => (hnext.run operations later hlater).2) (ih hnext)

theorem ledger_initial (clock : AnalyticsClock) : Ledger clock .initial where
  tidy := tidy_initial
  recorded := ⟨by simp [initial], by simp [initial], by simp [initial]⟩
  outcomes := fun _ => rfl

end Moves

/-- Every log on the way is well recorded, and the later ones extend the earlier ones. -/
theorem recorderLog_wellRecorded (clock : AnalyticsClock) (context : RecorderContext)
    (operations : List RecorderOperation) :
    let states := reached (recorderStep clock context) .initial operations
    (∀ state ∈ states, WellRecorded clock state.log) ∧
      states.Pairwise fun earlier later => earlier.log <+: later.log := by
  have hledger := ledger_initial clock
  constructor
  · intro state hstate
    exact (hledger.run operations state hstate).1.recorded
  · exact hledger.grows operations

end SuitCode
