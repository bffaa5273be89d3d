import SuitCode.CodexReaders

/-!
# Runs of the two readers of Codex rollouts

The items of a rollout are its events as both readers tell them apart.  A run of the
session parser counts over the items, a run of the capture builder places a segment for
most of them; the invariants of the two runs are about the same lists of tool names.
-/

namespace SuitCode

open PosixText KeyedList ExceptList

/-! ## The items of a rollout -/

inductive RolloutItem where
  | sessionMeta (payload : RolloutMembers)
  | message (payload : RolloutMembers)
  | toolCall (payload : RolloutMembers)
  | toolOutput (payload : RolloutMembers)
  | reasoning (payload : RolloutMembers)
  | otherItem
  | otherEvent
  | malformed

def responseItem (payload : RolloutMembers) : RolloutItem :=
  let payloadType := payload.get "type"
  if payloadType.isText "message" then .message payload
  else if !payloadType.isHashable then .malformed
  else if payloadType.isText "function_call" || payloadType.isText "custom_tool_call" then
    .toolCall payload
  else if payloadType.isText "function_call_output" ||
      payloadType.isText "custom_tool_call_output" then
    .toolOutput payload
  else if payloadType.isText "reasoning" || payloadType.isText "response_reasoning" then
    .reasoning payload
  else .otherItem

def rolloutItem (event : RolloutMembers) : RolloutItem :=
  if (event.get "type").isText "session_meta" then
    match event.get "payload" with
    | .obj payload => .sessionMeta payload
    | _ => .malformed
  else if (event.get "type").isText "response_item" then
    match event.get "payload" with
    | .obj payload => responseItem payload
    | _ => .malformed
  else .otherEvent

namespace RolloutItem

def isResponse : RolloutItem → Bool
  | .sessionMeta _ => false
  | .otherEvent => false
  | _ => true

def sessionMeta? : RolloutItem → Option RolloutMembers
  | .sessionMeta payload => some payload
  | _ => none

def toolCall? : RolloutItem → Option RolloutMembers
  | .toolCall payload => some payload
  | _ => none

end RolloutItem

def suitcodeNameOf (toolName : String) : Option String :=
  match canonicalSuitcodeToolName toolName with
  | .ok name => name
  | .error _ => none

/-- `payload.get("name").strip()` of a tool call. -/
def calledTool (call : RolloutMembers) : String :=
  (optionalNonEmpty (call.get "name")).getD ""

def callIdOf (call : RolloutMembers) : Option String := optionalNonEmpty (call.get "call_id")

section Lists

variable (items : List RolloutItem)

def sessionMetas : List RolloutMembers := items.filterMap RolloutItem.sessionMeta?

def toolCalls : List RolloutMembers := items.filterMap RolloutItem.toolCall?

def calledTools : List String := (toolCalls items).map calledTool

def suitcodeCalls : List String := (calledTools items).filterMap suitcodeNameOf

end Lists

theorem sessionMetas_snoc (items : List RolloutItem) (item : RolloutItem) :
    sessionMetas (items ++ [item]) = sessionMetas items ++ item.sessionMeta?.toList := by
  unfold sessionMetas
  rw [List.filterMap_append]
  cases item <;> rfl

theorem toolCalls_snoc (items : List RolloutItem) (item : RolloutItem) :
    toolCalls (items ++ [item]) = toolCalls items ++ item.toolCall?.toList := by
  unfold toolCalls
  rw [List.filterMap_append]
  cases item <;> rfl

variable {item : RolloutItem} {text name : String} {value : RolloutValue} {instant : ℤ}
  {segment : TranscriptSegment} {segments : List TranscriptSegment}

theorem calledTools_snoc_of_none {items : List RolloutItem} (hcall : item.toolCall? = none) :
    calledTools (items ++ [item]) = calledTools items := by
  simp [calledTools, toolCalls_snoc, hcall]

/-! ## Runs of the session parser -/

namespace CodexSessionParser

variable {environment : RolloutEnvironment} {artifactPath : String} {lineNumber : ℕ}
  {event : RolloutMembers} {items : List RolloutItem} {state next : State}

structure Accepts (environment : RolloutEnvironment) (artifactPath : String) (lineNumber : ℕ)
    (event : RolloutMembers) : Prop where
  timestamp : ∃ timestamp,
    parseEventTimestamp environment artifactPath lineNumber event = .ok timestamp
  wellFormed : rolloutItem event ≠ .malformed
  named : ∀ call, rolloutItem event = .toolCall call →
    ∃ name, optionalNonEmpty (call.get "name") = some name ∧
      canonicalSuitcodeToolName name = .ok (suitcodeNameOf name)

structure Counted (items : List RolloutItem) (state : State) : Prop where
  sessionMetas_eq : state.sessionMetas = sessionMetas items
  mcpCalls_eq : state.metrics.mcpToolCallCount = (calledTools items).countP isMcpToolName
  suitcodeCalls_eq : state.metrics.suitcodeToolCallCount = (suitcodeCalls items).length
  first_eq : state.firstSuitcodeTool = (suitcodeCalls items).head?
  firstHighValue_eq : state.firstHighValueSuitcodeTool =
    (suitcodeCalls items).find? (· ∈ highValueTools)

theorem counted_nil : Counted [] {} where
  sessionMetas_eq := rfl
  mcpCalls_eq := rfl
  suitcodeCalls_eq := rfl
  first_eq := rfl
  firstHighValue_eq := rfl

def CountsItem (artifactPath : String) (lineNumber : ℕ) (timestamp : ℤ) (item : RolloutItem)
    (state next : State) : Prop :=
  match item with
  | .sessionMeta payload =>
      next = { state with sessionMetas := state.sessionMetas ++ [payload] }
  | .message payload => next = countMessage payload state
  | .toolCall payload =>
      parseToolCall artifactPath lineNumber timestamp payload state = .ok next
  | .malformed => False
  | _ => next = state

theorem countsItem_responseItem {timestamp : ℤ} {payload : RolloutMembers}
    (hitem : parseResponseItem artifactPath lineNumber timestamp payload state = .ok next) :
    CountsItem artifactPath lineNumber timestamp (responseItem payload) state next := by
  unfold parseResponseItem at hitem
  unfold responseItem
  by_cases hmessage : (payload.get "type").isText "message" = true
  · simp only [hmessage, if_true, Except.ok.injEq] at hitem ⊢
    exact hitem.symm
  by_cases hhash : (payload.get "type").isHashable = true
  · by_cases hcall : ((payload.get "type").isText "function_call" ||
        (payload.get "type").isText "custom_tool_call") = true
    · simp only [hmessage, hhash, hcall, Bool.not_true, Bool.false_eq_true, if_false,
        if_true] at hitem ⊢
      exact hitem
    · simp only [hmessage, hhash, hcall, Bool.not_true, Bool.false_eq_true, if_false,
        Except.ok.injEq] at hitem ⊢
      split_ifs <;> exact hitem.symm
  · simp [hmessage, hhash] at hitem

theorem parseEvent_ok
    (hstep : parseEvent environment artifactPath lineNumber event state = .ok next) :
    ∃ timestamp,
      parseEventTimestamp environment artifactPath lineNumber event = .ok timestamp ∧
      CountsItem artifactPath lineNumber timestamp (rolloutItem event)
        { state with
          metrics := { state.metrics with eventCount := state.metrics.eventCount + 1 }
          lastEventAt := some timestamp } next := by
  unfold parseEvent at hstep
  rcases bind_eq_ok.mp hstep with ⟨timestamp, htimestamp, hstep⟩
  refine ⟨timestamp, htimestamp, ?_⟩
  unfold rolloutItem
  by_cases hmeta : (event.get "type").isText "session_meta" = true
  · simp only [hmeta, if_true] at hstep ⊢
    cases hpayload : event.get "payload" with
    | obj payload =>
        simp only [hpayload, pure_eq_ok] at hstep ⊢
        exact hstep.symm
    | _ => simp [hpayload] at hstep
  by_cases hresponse : (event.get "type").isText "response_item" = true
  · simp only [hmeta, hresponse, Bool.false_eq_true, if_false, if_true] at hstep ⊢
    cases hpayload : event.get "payload" with
    | obj payload =>
        simp only [hpayload] at hstep ⊢
        exact countsItem_responseItem hstep
    | _ => simp [hpayload] at hstep
  · simp only [hmeta, hresponse, Bool.false_eq_true, if_false, pure_eq_ok] at hstep ⊢
    exact hstep.symm

def countCall (toolName : String) (state : State) : State :=
  { state with
    toolOrderIndex := state.toolOrderIndex + 1
    metrics :=
      { state.metrics with
        toolEventCount := state.metrics.toolEventCount + 1
        mcpToolCallCount :=
          state.metrics.mcpToolCallCount + if isMcpToolName toolName then 1 else 0 } }

theorem parseToolCall_ok {timestamp : ℤ} {call : RolloutMembers}
    (hcall : parseToolCall artifactPath lineNumber timestamp call state = .ok next) :
    ∃ name, optionalNonEmpty (call.get "name") = some name ∧
      canonicalSuitcodeToolName name = .ok (suitcodeNameOf name) ∧
      next = ((suitcodeNameOf name).elim (countCall name state) fun suitcodeName =>
        countSuitcodeCall suitcodeName timestamp state.toolOrderIndex (countCall name state)) := by
  unfold parseToolCall at hcall
  cases hname : call.get "name" with
  | str name =>
      simp only [hname] at hcall
      by_cases hblank : isBlank name = true
      · simp [hblank] at hcall
      · simp only [hblank, Bool.false_eq_true, if_false] at hcall
        rcases bind_eq_ok.mp hcall with ⟨suitcodeName, hcanonical, hnext⟩
        have hsame : suitcodeNameOf (strip name) = suitcodeName := by
          simp [suitcodeNameOf, hcanonical]
        refine ⟨strip name, ?_, ?_, ?_⟩
        · simp [optionalNonEmpty, hblank]
        · rw [hsame, hcanonical]
        · rw [hsame]
          unfold countCall
          revert hnext
          generalize isMcpToolName (strip name) = isMcp
          intro hnext
          cases suitcodeName with
          | none => exact (pure_eq_ok.mp hnext).symm
          | some suitcodeName => exact (pure_eq_ok.mp hnext).symm
  | _ => simp [hname] at hcall

theorem accepts_of_parseEvent
    (hstep : parseEvent environment artifactPath lineNumber event state = .ok next) :
    Accepts environment artifactPath lineNumber event := by
  rcases parseEvent_ok hstep with ⟨timestamp, htimestamp, hitem⟩
  constructor
  · exact ⟨timestamp, htimestamp⟩
  · intro hmalformed
    rw [hmalformed] at hitem
    exact hitem
  · intro call hcall
    rw [hcall] at hitem
    rcases parseToolCall_ok hitem with ⟨name, hname, hcanonical, -⟩
    exact ⟨name, hname, hcanonical⟩

section NoteFirst

variable (suitcodeName : String) (index : ℕ) (state : State)

@[simp] theorem noteFirst_sessionMetas :
    (noteFirst suitcodeName index state).sessionMetas = state.sessionMetas := by
  unfold noteFirst
  split_ifs <;> rfl

@[simp] theorem noteFirst_metrics :
    (noteFirst suitcodeName index state).metrics = state.metrics := by
  unfold noteFirst
  split_ifs <;> rfl

@[simp] theorem noteFirst_first :
    (noteFirst suitcodeName index state).firstSuitcodeTool =
      state.firstSuitcodeTool.or (some suitcodeName) := by
  unfold noteFirst
  cases hfirst : state.firstSuitcodeTool <;> simp [hfirst]

@[simp] theorem noteFirst_firstHighValue :
    (noteFirst suitcodeName index state).firstHighValueSuitcodeTool =
      state.firstHighValueSuitcodeTool := by
  unfold noteFirst
  split_ifs <;> rfl

@[simp] theorem noteFirstHighValue_sessionMetas :
    (noteFirstHighValue suitcodeName index state).sessionMetas = state.sessionMetas := by
  unfold noteFirstHighValue
  split_ifs <;> rfl

@[simp] theorem noteFirstHighValue_metrics :
    (noteFirstHighValue suitcodeName index state).metrics = state.metrics := by
  unfold noteFirstHighValue
  split_ifs <;> rfl

@[simp] theorem noteFirstHighValue_first :
    (noteFirstHighValue suitcodeName index state).firstSuitcodeTool =
      state.firstSuitcodeTool := by
  unfold noteFirstHighValue
  split_ifs <;> rfl

@[simp] theorem noteFirstHighValue_firstHighValue :
    (noteFirstHighValue suitcodeName index state).firstHighValueSuitcodeTool =
      state.firstHighValueSuitcodeTool.or ([suitcodeName].find? (· ∈ highValueTools)) := by
  unfold noteFirstHighValue
  cases hfirst : state.firstHighValueSuitcodeTool with
  | none => by_cases hhigh : suitcodeName ∈ highValueTools <;> simp [hhigh, hfirst]
  | some first => simp [hfirst]

end NoteFirst

theorem counted_toolCall {timestamp : ℤ} {call : RolloutMembers} (hcounted : Counted items state)
    (hcall : parseToolCall artifactPath lineNumber timestamp call state = .ok next) :
    Counted (items ++ [.toolCall call]) next := by
  obtain ⟨name, hname, -, hnext⟩ := parseToolCall_ok hcall
  rw [hnext]
  have htools : calledTools (items ++ [.toolCall call]) = calledTools items ++ [name] := by
    simp [calledTools, toolCalls_snoc, RolloutItem.toolCall?, calledTool, hname]
  have hsuitcode : suitcodeCalls (items ++ [.toolCall call]) =
      suitcodeCalls items ++ (suitcodeNameOf name).toList := by
    unfold suitcodeCalls
    rw [htools, List.filterMap_append]
    cases hcanonical : suitcodeNameOf name <;> simp [hcanonical]
  constructor
  · rw [sessionMetas_snoc, ← hcounted.sessionMetas_eq]
    cases suitcodeNameOf name <;> simp [countSuitcodeCall, countCall, RolloutItem.sessionMeta?]
  · rw [htools, List.countP_append, ← hcounted.mcpCalls_eq, List.countP_singleton]
    cases suitcodeNameOf name <;> simp [countSuitcodeCall, countCall]
  · rw [hsuitcode, List.length_append, ← hcounted.suitcodeCalls_eq]
    cases suitcodeNameOf name <;> simp [countSuitcodeCall, countCall]
  · rw [hsuitcode, List.head?_append, ← hcounted.first_eq]
    cases suitcodeNameOf name <;> simp [countSuitcodeCall, countCall]
  · rw [hsuitcode, List.find?_append, ← hcounted.firstHighValue_eq]
    cases suitcodeNameOf name <;> simp [countSuitcodeCall, countCall]

theorem Counted.of_no_call (hcounted : Counted items state) (hcall : item.toolCall? = none)
    (hmetas : next.sessionMetas = state.sessionMetas ++ item.sessionMeta?.toList)
    (hmcp : next.metrics.mcpToolCallCount = state.metrics.mcpToolCallCount)
    (hsuitcode : next.metrics.suitcodeToolCallCount = state.metrics.suitcodeToolCallCount)
    (hfirst : next.firstSuitcodeTool = state.firstSuitcodeTool)
    (hhigh : next.firstHighValueSuitcodeTool = state.firstHighValueSuitcodeTool) :
    Counted (items ++ [item]) next := by
  have htools : calledTools (items ++ [item]) = calledTools items :=
    calledTools_snoc_of_none hcall
  have hnames : suitcodeCalls (items ++ [item]) = suitcodeCalls items := by
    unfold suitcodeCalls
    rw [htools]
  constructor
  · rw [hmetas, sessionMetas_snoc, hcounted.sessionMetas_eq]
  · rw [hmcp, htools, hcounted.mcpCalls_eq]
  · rw [hsuitcode, hnames, hcounted.suitcodeCalls_eq]
  · rw [hfirst, hnames, hcounted.first_eq]
  · rw [hhigh, hnames, hcounted.firstHighValue_eq]

theorem countMessage_kept (payload : RolloutMembers) (state : State) :
    (countMessage payload state).sessionMetas = state.sessionMetas ∧
      (countMessage payload state).metrics.mcpToolCallCount = state.metrics.mcpToolCallCount ∧
      (countMessage payload state).metrics.suitcodeToolCallCount =
        state.metrics.suitcodeToolCallCount ∧
      (countMessage payload state).firstSuitcodeTool = state.firstSuitcodeTool ∧
      (countMessage payload state).firstHighValueSuitcodeTool =
        state.firstHighValueSuitcodeTool := by
  unfold countMessage
  dsimp only
  split_ifs <;> exact ⟨rfl, rfl, rfl, rfl, rfl⟩

theorem counted_step (hcounted : Counted items state)
    (hstep : parseEvent environment artifactPath lineNumber event state = .ok next) :
    Counted (items ++ [rolloutItem event]) next := by
  rcases parseEvent_ok hstep with ⟨timestamp, -, hitem⟩
  have hstart : Counted items
      { state with
        metrics := { state.metrics with eventCount := state.metrics.eventCount + 1 }
        lastEventAt := some timestamp } :=
    ⟨hcounted.sessionMetas_eq, hcounted.mcpCalls_eq, hcounted.suitcodeCalls_eq,
      hcounted.first_eq, hcounted.firstHighValue_eq⟩
  revert hstart hitem
  generalize { state with
    metrics := { state.metrics with eventCount := state.metrics.eventCount + 1 }
    lastEventAt := some timestamp } = start
  intro hitem hstart
  cases hkind : rolloutItem event with
  | sessionMeta payload =>
      rw [hkind] at hitem
      subst hitem
      exact hstart.of_no_call rfl rfl rfl rfl rfl rfl
  | message payload =>
      rw [hkind] at hitem
      subst hitem
      rcases countMessage_kept payload start with ⟨hmetas, hmcp, hsuitcode, hfirst, hhigh⟩
      apply hstart.of_no_call rfl _ hmcp hsuitcode hfirst hhigh
      simp [hmetas, RolloutItem.sessionMeta?]
  | toolCall call =>
      rw [hkind] at hitem
      exact counted_toolCall hstart hitem
  | malformed =>
      rw [hkind] at hitem
      exact absurd hitem id
  | toolOutput payload | reasoning payload =>
      rw [hkind] at hitem
      subst hitem
      apply hstart.of_no_call rfl _ rfl rfl rfl rfl
      simp [RolloutItem.sessionMeta?]
  | otherItem | otherEvent =>
      rw [hkind] at hitem
      subst hitem
      apply hstart.of_no_call rfl _ rfl rfl rfl rfl
      simp [RolloutItem.sessionMeta?]

theorem counted_run {events : List (ℕ × RolloutMembers)} {last : State}
    (hrun : events.foldlM (fun state event =>
      parseEvent environment artifactPath event.1 event.2 state) {} = .ok last) :
    Counted (events.map fun event => rolloutItem event.2) last ∧
      ∀ event ∈ events, Accepts environment artifactPath event.1 event.2 := by
  induction events using List.reverseRecOn generalizing last with
  | nil =>
      cases hrun
      exact ⟨counted_nil, by simp⟩
  | append_singleton events event ih =>
      rcases foldlM_snoc_eq_ok.mp hrun with ⟨state, hbefore, hlast⟩
      rcases ih hbefore with ⟨hcounted, haccepts⟩
      constructor
      · rw [List.map_append]
        exact counted_step hcounted hlast
      · intro other hother
        rcases List.mem_append.mp hother with hother | hother
        · exact haccepts other hother
        · rw [List.mem_singleton.mp hother]
          exact accepts_of_parseEvent hlast

end CodexSessionParser

/-! ## Runs of the capture builder -/

theorem requiredNonEmpty_eq_ok {label artifactPath : String} :
    requiredNonEmpty value label artifactPath = .ok text ↔ optionalNonEmpty value = some text := by
  cases value with
  | str found =>
      simp only [requiredNonEmpty, optionalNonEmpty]
      by_cases hblank : isBlank found = true <;> simp [hblank]
  | _ => simp [requiredNonEmpty, optionalNonEmpty]

theorem isBlank_of_optionalNonEmpty (htext : optionalNonEmpty value = some text) :
    isBlank text = false := by
  cases value with
  | str found =>
      simp only [optionalNonEmpty] at htext
      by_cases hblank : isBlank found = true
      · simp [hblank] at htext
      · rw [if_neg hblank, Option.some.injEq] at htext
        rw [← htext, isBlank_strip]
        simpa using hblank
  | _ => simp [optionalNonEmpty] at htext

theorem strip_of_optionalNonEmpty (htext : optionalNonEmpty value = some text) :
    strip text = text := by
  cases value with
  | str found =>
      simp only [optionalNonEmpty] at htext
      by_cases hblank : isBlank found = true
      · simp [hblank] at htext
      · rw [if_neg hblank, Option.some.injEq] at htext
        rw [← htext, strip_strip]
  | _ => simp [optionalNonEmpty] at htext

namespace CodexTranscriptCapture

variable {environment : RolloutEnvironment} {artifactPath sessionId timestamp : String}
  {lineNumber index : ℕ} {event payload call : RolloutMembers} {items : List RolloutItem}
  {state next : State}

def isCallSegment (segment : TranscriptSegment) : Bool :=
  segment.kind = .mcpToolCall || segment.kind = .customToolCall

structure Quiet (sessionId : String) (index : ℕ) (segments : List TranscriptSegment) :
    Prop where
  placed : PlacedFrom sessionId index segments
  no_call : segments.filter isCallSegment = []

theorem placed_stripped (hsession : segment.sessionId = sessionId)
    (hindex : segment.sequenceIndex = index) (hid : segment.segmentId = segmentIdAt sessionId index) :
    PlacedFrom sessionId index [segment.stripped] :=
  ⟨by rw [← hsession]; rfl, hindex, by rw [← hid]; rfl, trivial⟩

/-! ### Messages -/

/-- A message of the user or the assistant has a text which is empty or has something in
it besides white space. -/
def MessageFits (payload : RolloutMembers) : Prop :=
  optionalNonEmpty (payload.get "role") = some "user" ∨
      optionalNonEmpty (payload.get "role") = some "assistant" →
    messageText (payload.get "content") = "" ∨
      isBlank (messageText (payload.get "content")) = false

theorem quiet_messageSegments
    (hsegments : messageSegments sessionId timestamp payload index = .ok segments) :
    Quiet sessionId (index + 1) segments ∧ MessageFits payload := by
  unfold messageSegments at hsegments
  dsimp only at hsegments
  split_ifs at hsegments with hrole htext huser
  · cases hsegments
    refine ⟨⟨trivial, rfl⟩, ?_⟩
    simp only [ne_eq, Bool.and_eq_true, decide_eq_true_eq] at hrole
    rintro (huser | hassistant)
    · exact absurd huser hrole.1
    · exact absurd hassistant hrole.2
  · cases hsegments
    exact ⟨⟨trivial, rfl⟩, fun _ => Or.inl htext⟩
  all_goals
    rcases bind_eq_ok.mp hsegments with ⟨segment, hsegment, hresult⟩
    rcases TranscriptSegment.create_eq_ok.mp hsegment with ⟨hvalid, rfl⟩
    cases hresult
    exact ⟨⟨placed_stripped rfl rfl rfl, rfl⟩, fun _ => Or.inr hvalid.contentText⟩

theorem exists_messageSegments (hsession : isBlank sessionId = false)
    (htimestamp : isBlank timestamp = false) (hfits : MessageFits payload) :
    ∃ segments, messageSegments sessionId timestamp payload index = .ok segments := by
  unfold messageSegments
  dsimp only
  split_ifs with hrole htext
  · exact ⟨_, rfl⟩
  · exact ⟨_, rfl⟩
  all_goals
    have hcontent : isBlank (messageText (payload.get "content")) = false := by
      apply (hfits _).resolve_left htext
      by_contra hnone
      apply hrole
      simpa [not_or] using hnone
    apply Exists.intro
    apply bind_eq_ok.mpr
    refine ⟨_, TranscriptSegment.create_eq_ok.mpr ⟨⟨isBlank_segmentIdAt _ _, hsession, htimestamp,
      hcontent, by simp, by simp [toolSegmentKinds], by simp, by simp⟩, rfl⟩, rfl⟩

/-! ### Tool calls -/

def callFacts (segment : TranscriptSegment) : TranscriptSegmentKind × Bool × Option String :=
  (segment.kind, segment.isSuitcode, segment.canonicalToolName)

def factsOf (toolName : String) : TranscriptSegmentKind × Bool × Option String :=
  (if isMcpToolName toolName then .mcpToolCall else .customToolCall,
    (suitcodeNameOf toolName).isSome, suitcodeNameOf toolName)

/-- The data of a call which its output repeats. -/
structure CallInfo.Sound (info : CallInfo) : Prop where
  named : isBlank info.toolName = false
  canonical : info.canonicalToolName.isSome = true → info.isSuitcode = true
  mcp : info.isSuitcode = true → info.isMcp = true

theorem isBlank_labelled (label text rest : String) (hlabel : isBlank label = false) :
    isBlank (label ++ text ++ rest) = false := by
  rw [isBlank_append, isBlank_append, hlabel, Bool.false_and, Bool.false_and]

theorem toolCallSegment_ok {info : CallInfo}
    (hname : optionalNonEmpty (call.get "name") = some name)
    (hcanonical : canonicalSuitcodeToolName name = .ok (suitcodeNameOf name))
    (hcall : toolCallSegment artifactPath sessionId timestamp call index = .ok (segment, info)) :
    callIdOf call = some info.callId ∧ info.Sound ∧
      PlacedFrom sessionId index [segment] ∧ isCallSegment segment = true ∧
      callFacts segment = factsOf name ∧
      ((suitcodeNameOf name).isSome = true → isMcpToolName name = true) := by
  unfold toolCallSegment at hcall
  rcases bind_eq_ok.mp hcall with ⟨toolName, htool, hcall⟩
  rw [requiredNonEmpty_eq_ok, hname, Option.some.injEq] at htool
  subst htool
  rcases bind_eq_ok.mp hcall with ⟨callId, hid, hcall⟩
  rw [requiredNonEmpty_eq_ok] at hid
  dsimp only at hcall
  rw [hcanonical, ok_bind] at hcall
  unfold factsOf
  -- the names are read once; what follows is about any answers
  revert hcall
  generalize suitcodeNameOf name = canonicalName
  generalize isMcpToolName name = isMcp
  intro hcall
  rcases bind_eq_ok.mp hcall with ⟨created, hsegment, hresult⟩
  rcases TranscriptSegment.create_eq_ok.mp hsegment with ⟨hvalid, hcreated⟩
  simp only [pure_eq_ok, Prod.mk.injEq] at hresult
  rcases hresult with ⟨rfl, rfl⟩
  subst hcreated
  refine ⟨hid, ⟨isBlank_of_optionalNonEmpty hname, hvalid.canonicalToolName,
    hvalid.isSuitcode⟩, placed_stripped rfl rfl rfl, ?_, ?_, hvalid.isSuitcode⟩
  · unfold isCallSegment TranscriptSegment.stripped
    dsimp only
    split_ifs <;> rfl
  · simp only [callFacts, TranscriptSegment.stripped]

theorem exists_toolCallSegment {callId : String} (hsession : isBlank sessionId = false)
    (htimestamp : isBlank timestamp = false) (hindex : index ≠ 0)
    (hname : optionalNonEmpty (call.get "name") = some name)
    (hcanonical : canonicalSuitcodeToolName name = .ok (suitcodeNameOf name))
    (hid : callIdOf call = some callId)
    (hmcp : (suitcodeNameOf name).isSome = true → isMcpToolName name = true) :
    ∃ segment info, info.callId = callId ∧
      toolCallSegment artifactPath sessionId timestamp call index = .ok (segment, info) := by
  unfold toolCallSegment
  rw [requiredNonEmpty_eq_ok.mpr hname, ok_bind, requiredNonEmpty_eq_ok.mpr hid, ok_bind]
  dsimp only
  rw [hcanonical, ok_bind]
  have hblank := isBlank_of_optionalNonEmpty hname
  revert hmcp
  generalize suitcodeNameOf name = canonicalName
  generalize isMcpToolName name = isMcp
  intro hmcp
  refine ⟨_, _, ?_, bind_eq_ok.mpr ⟨_, TranscriptSegment.create_eq_ok.mpr ⟨?_, rfl⟩, rfl⟩⟩
  · rfl
  constructor
  case segmentId => exact isBlank_segmentIdAt _ _
  case sessionId => exact hsession
  case timestampUtc => exact htimestamp
  case contentText =>
    dsimp only
    rw [isBlank_append, isBlank_labelled "tool:" name "\narguments:" rfl, Bool.false_and]
  case sequenceIndex => exact hindex
  case toolName => simp [hblank]
  case canonicalToolName => simp
  case isSuitcode => exact hmcp

/-! ### Outputs and summaries -/

theorem quiet_toolOutputSegment {calls : List CallInfo}
    (hsegment : toolOutputSegment artifactPath sessionId timestamp lineNumber payload index
      calls = .ok segment) :
    Quiet sessionId index [segment] := by
  unfold toolOutputSegment at hsegment
  rcases bind_eq_ok.mp hsegment with ⟨callId, -, hsegment⟩
  cases hleader : leader? CallInfo.callId calls callId with
  | none => simp [hleader] at hsegment
  | some info =>
      simp only [hleader] at hsegment
      rcases TranscriptSegment.create_eq_ok.mp hsegment with ⟨-, rfl⟩
      refine ⟨placed_stripped rfl rfl rfl, ?_⟩
      unfold isCallSegment TranscriptSegment.stripped
      dsimp only
      split_ifs <;> rfl

theorem exists_toolOutputSegment {calls : List CallInfo} {info : CallInfo}
    (hsession : isBlank sessionId = false) (htimestamp : isBlank timestamp = false)
    (hindex : index ≠ 0) (hsound : ∀ info ∈ calls, info.Sound) (hinfo : info ∈ calls)
    (hid : callIdOf payload = some info.callId) :
    ∃ segment, toolOutputSegment artifactPath sessionId timestamp lineNumber payload index
      calls = .ok segment := by
  unfold toolOutputSegment
  rw [requiredNonEmpty_eq_ok.mpr hid, ok_bind]
  rcases exists_leader CallInfo.callId hinfo with ⟨leader, hleader⟩
  rw [hleader]
  have hgood := hsound leader (leader?_mem hleader)
  refine ⟨_, TranscriptSegment.create_eq_ok.mpr ⟨?_, rfl⟩⟩
  constructor
  case segmentId => exact isBlank_segmentIdAt _ _
  case sessionId => exact hsession
  case timestampUtc => exact htimestamp
  case contentText =>
    dsimp only
    rw [isBlank_append, isBlank_labelled "tool:" leader.toolName "\noutput:" rfl,
      Bool.false_and]
  case sequenceIndex => exact hindex
  case toolName => simp [hgood.named]
  case canonicalToolName => exact hgood.canonical
  case isSuitcode => exact hgood.mcp

theorem exists_summarySegments (hsession : isBlank sessionId = false)
    (htimestamp : isBlank timestamp = false) {texts : List String}
    (htexts : ∀ text ∈ texts, isBlank text = false) (hindex : index ≠ 0) :
    ∃ segments, summarySegments sessionId timestamp index texts = .ok segments := by
  induction texts generalizing index with
  | nil => exact ⟨[], rfl⟩
  | cons text texts ih =>
      rcases ih (fun later hlater => htexts later (List.mem_cons_of_mem _ hlater))
        (Nat.succ_ne_zero index) with ⟨segments, hsegments⟩
      have htext := htexts text List.mem_cons_self
      unfold summarySegments
      rw [hsegments]
      refine ⟨_, bind_eq_ok.mpr ⟨_, TranscriptSegment.create_eq_ok.mpr ⟨?_, rfl⟩, rfl⟩⟩
      exact ⟨isBlank_segmentIdAt _ _, hsession, htimestamp, htext, hindex,
        by simp [toolSegmentKinds], by simp, by simp⟩

theorem quiet_summarySegments {texts : List String}
    (hsegments : summarySegments sessionId timestamp index texts = .ok segments) :
    Quiet sessionId index segments := by
  induction texts generalizing index segments with
  | nil =>
      cases hsegments
      exact ⟨trivial, rfl⟩
  | cons text texts ih =>
      unfold summarySegments at hsegments
      rcases bind_eq_ok.mp hsegments with ⟨segment, hsegment, hsegments⟩
      rcases bind_eq_ok.mp hsegments with ⟨rest, hrest, hresult⟩
      rcases TranscriptSegment.create_eq_ok.mp hsegment with ⟨-, rfl⟩
      cases hresult
      have hquiet := ih hrest
      exact ⟨⟨rfl, rfl, rfl, hquiet.placed⟩, hquiet.no_call⟩

theorem quiet_reasoningSegments
    (hsegments : reasoningSegments sessionId timestamp payload index = .ok segments) :
    Quiet sessionId (index + 1) segments := by
  unfold reasoningSegments at hsegments
  cases hsummary : payload.get "summary" with
  | arr summaries =>
      simp only [hsummary] at hsegments
      exact quiet_summarySegments hsegments
  | _ =>
      simp only [hsummary] at hsegments
      cases hsegments
      exact ⟨trivial, rfl⟩

theorem exists_reasoningSegments (hsession : isBlank sessionId = false)
    (htimestamp : isBlank timestamp = false) :
    ∃ segments, reasoningSegments sessionId timestamp payload index = .ok segments := by
  unfold reasoningSegments
  cases payload.get "summary" with
  | arr summaries =>
      apply exists_summarySegments hsession htimestamp _ (Nat.succ_ne_zero index)
      intro text htext
      rcases List.mem_filterMap.mp htext with ⟨item, -, hitem⟩
      cases item with
      | obj members => exact isBlank_of_optionalNonEmpty hitem
      | _ => simp [summaryText] at hitem
  | _ => exact ⟨[], rfl⟩

/-! ### The builder over the items -/

/-- What the builder does with an item, once it has met a `session_meta`. -/
def takeItem (artifactPath sessionId timestamp : String) (lineNumber : ℕ)
    (item : RolloutItem) (state : State) : PyResult State :=
  match item with
  | .sessionMeta _ => .ok { state with sawSessionMeta := true }
  | .message payload => do
      let segments ← messageSegments sessionId timestamp payload state.sequenceIndex
      pure (state.extend segments)
  | .toolCall payload => do
      let (segment, callInfo) ←
        toolCallSegment artifactPath sessionId timestamp payload (state.sequenceIndex + 1)
      if (leader? CallInfo.callId state.callIndex callInfo.callId).isSome then
        raiseValueError
          ("duplicate call_id `" ++ callInfo.callId ++ "` in `" ++ artifactPath ++ "`")
      else
        pure { state.extend [segment] with callIndex := state.callIndex ++ [callInfo] }
  | .toolOutput payload => do
      let segment ← toolOutputSegment artifactPath sessionId timestamp lineNumber payload
        (state.sequenceIndex + 1) state.callIndex
      pure (state.extend [segment])
  | .reasoning payload => do
      let segments ← reasoningSegments sessionId timestamp payload state.sequenceIndex
      pure (state.extend segments)
  | _ => .ok state

theorem captureItem_eq (hwell : responseItem payload ≠ .malformed) :
    captureItem artifactPath sessionId timestamp lineNumber payload state =
      takeItem artifactPath sessionId timestamp lineNumber (responseItem payload) state := by
  unfold captureItem
  unfold responseItem at hwell ⊢
  dsimp only at hwell ⊢
  split_ifs at hwell ⊢ <;> first | rfl | exact absurd rfl hwell

theorem captureEvent_eq
    (hinstant : parseEventTimestamp environment artifactPath lineNumber event = .ok instant)
    (hwell : rolloutItem event ≠ .malformed)
    (hsaw : (rolloutItem event).isResponse = true → state.sawSessionMeta = true) :
    captureEvent environment artifactPath sessionId lineNumber event state =
      takeItem artifactPath sessionId (environment.isoFormat instant) lineNumber
        (rolloutItem event) state := by
  unfold captureEvent
  unfold rolloutItem at hwell hsaw ⊢
  by_cases hmeta : (event.get "type").isText "session_meta" = true
  · simp only [hmeta, if_true] at hwell ⊢
    cases hpayload : event.get "payload" with
    | obj payload => rfl
    | _ => simp [hpayload] at hwell
  by_cases hresponse : (event.get "type").isText "response_item" = true
  · simp only [hmeta, hresponse, Bool.false_eq_true, if_false, if_true, Bool.not_true] at hwell hsaw ⊢
    cases hpayload : event.get "payload" with
    | obj payload =>
        simp only [hpayload] at hwell hsaw ⊢
        have hitem : (responseItem payload).isResponse = true := by
          unfold responseItem
          dsimp only
          split_ifs <;> rfl
        rw [hsaw hitem]
        simp only [Bool.not_true, Bool.false_eq_true, if_false, timestampText, hinstant, ok_bind]
        exact captureItem_eq hwell
    | _ => simp [hpayload] at hwell
  · simp only [hmeta, hresponse, Bool.false_eq_true, if_false, Bool.not_false, if_true]
    rfl

structure Built (sessionId : String) (items : List RolloutItem) (state : State) : Prop where
  saw : state.sawSessionMeta = !(sessionMetas items).isEmpty
  index_eq : state.sequenceIndex = state.segments.length
  placed : PlacedFrom sessionId 1 state.segments
  calls_eq : (state.segments.filter isCallSegment).map callFacts =
    (calledTools items).map factsOf
  ids_eq : state.callIndex.map (fun info => some info.callId) = (toolCalls items).map callIdOf
  sound : ∀ info ∈ state.callIndex, info.Sound

theorem built_nil (sessionId : String) : Built sessionId [] {} where
  saw := rfl
  index_eq := rfl
  placed := trivial
  calls_eq := rfl
  ids_eq := rfl
  sound := by simp

def Fits (before : List RolloutItem) : RolloutItem → Prop
  | .message payload => MessageFits payload
  | .toolCall call =>
      ((callIdOf call).isSome = true ∧ callIdOf call ∉ (toolCalls before).map callIdOf) ∧
        ((suitcodeNameOf (calledTool call)).isSome = true →
          isMcpToolName (calledTool call) = true)
  | _ => True

/-- Segments which are no calls keep what was built in step with the items. -/
theorem Built.extend (hbuilt : Built sessionId items state) (hcall : item.toolCall? = none)
    (hmeta : item.sessionMeta? = none) (hquiet : Quiet sessionId (state.sequenceIndex + 1) segments) :
    Built sessionId (items ++ [item]) (state.extend segments) where
  saw := by simp [State.extend, sessionMetas_snoc, hmeta, hbuilt.saw]
  index_eq := by simp [State.extend, hbuilt.index_eq]
  placed := by
    simp only [State.extend, placedFrom_append]
    refine ⟨hbuilt.placed, ?_⟩
    rw [Nat.add_comm, ← hbuilt.index_eq]
    exact hquiet.placed
  calls_eq := by
    rw [calledTools_snoc_of_none hcall, ← hbuilt.calls_eq]
    simp [State.extend, hquiet.no_call]
  ids_eq := by simp [State.extend, toolCalls_snoc, hcall, hbuilt.ids_eq]
  sound := hbuilt.sound

theorem Built.extend_nil (hbuilt : Built sessionId items state) (hcall : item.toolCall? = none)
    (hmeta : item.sessionMeta? = none) :
    Built sessionId (items ++ [item]) state := by
  have hsame : Built sessionId (items ++ [item]) (state.extend []) :=
    hbuilt.extend hcall hmeta ⟨trivial, rfl⟩
  simpa [State.extend] using hsame

theorem Built.saw_meta (hbuilt : Built sessionId items state) (payload : RolloutMembers) :
    Built sessionId (items ++ [.sessionMeta payload]) { state with sawSessionMeta := true } where
  saw := by simp [sessionMetas_snoc, RolloutItem.sessionMeta?]
  index_eq := hbuilt.index_eq
  placed := hbuilt.placed
  calls_eq := by rw [calledTools_snoc_of_none rfl]; exact hbuilt.calls_eq
  ids_eq := by simp [toolCalls_snoc, RolloutItem.toolCall?, hbuilt.ids_eq]
  sound := hbuilt.sound

theorem Built.id_met_iff (hbuilt : Built sessionId items state) (callId : String) :
    (leader? CallInfo.callId state.callIndex callId).isSome = true ↔
      some callId ∈ (toolCalls items).map callIdOf := by
  rw [← hbuilt.ids_eq]
  constructor
  · intro hsome
    rcases Option.isSome_iff_exists.mp hsome with ⟨info, hinfo⟩
    have hkey := leader?_key hinfo
    rw [← hkey]
    exact List.mem_map_of_mem (leader?_mem hinfo)
  · intro hmem
    rcases List.mem_map.mp hmem with ⟨info, hinfo, heq⟩
    rcases exists_leader CallInfo.callId hinfo with ⟨leader, hleader⟩
    rw [← Option.some.inj heq, hleader]
    rfl

theorem built_toolCall (hbuilt : Built sessionId items state)
    (hname : optionalNonEmpty (call.get "name") = some name)
    (hcanonical : canonicalSuitcodeToolName name = .ok (suitcodeNameOf name))
    (htake : takeItem artifactPath sessionId timestamp lineNumber (.toolCall call) state =
      .ok next) :
    Built sessionId (items ++ [.toolCall call]) next ∧ Fits items (.toolCall call) := by
  rcases bind_eq_ok.mp htake with ⟨⟨segment, info⟩, hsegment, hnext⟩
  rcases toolCallSegment_ok hname hcanonical hsegment with
    ⟨hid, hsound, hplaced, hiscall, hfacts, hmcp⟩
  have htool : calledTool call = name := by simp [calledTool, hname]
  have hmet := hbuilt.id_met_iff info.callId
  dsimp only at hnext
  by_cases hduplicate : (leader? CallInfo.callId state.callIndex info.callId).isSome = true
  · simp [hduplicate] at hnext
  rw [if_neg hduplicate] at hnext
  cases hnext
  constructor
  · constructor
    · simp [State.extend, sessionMetas_snoc, RolloutItem.sessionMeta?, hbuilt.saw]
    · simp [State.extend, hbuilt.index_eq]
    · simp only [State.extend, placedFrom_append]
      refine ⟨hbuilt.placed, ?_⟩
      rw [Nat.add_comm, ← hbuilt.index_eq]
      exact hplaced
    · simp only [State.extend, List.filter_append, List.map_append, hbuilt.calls_eq]
      simp [hiscall, hfacts, calledTools, toolCalls_snoc, RolloutItem.toolCall?, htool]
    · simp [toolCalls_snoc, RolloutItem.toolCall?, hbuilt.ids_eq, hid]
    · intro other hother
      rcases List.mem_append.mp hother with hother | hother
      · exact hbuilt.sound other hother
      · rw [List.mem_singleton.mp hother]
        exact hsound
  · refine ⟨⟨by simp [hid], ?_⟩, by rw [htool]; exact hmcp⟩
    rw [hid, ← hmet]
    exact hduplicate

theorem built_step (hbuilt : Built sessionId items state)
    (haccepts : CodexSessionParser.Accepts environment artifactPath lineNumber event)
    (htake : takeItem artifactPath sessionId (environment.isoFormat instant) lineNumber
      (rolloutItem event) state = .ok next) :
    Built sessionId (items ++ [rolloutItem event]) next ∧ Fits items (rolloutItem event) := by
  cases hkind : rolloutItem event with
  | sessionMeta payload =>
      rw [hkind] at htake
      cases htake
      exact ⟨hbuilt.saw_meta payload, trivial⟩
  | message payload =>
      rw [hkind] at htake
      rcases bind_eq_ok.mp htake with ⟨segments, hsegments, hnext⟩
      cases hnext
      rcases quiet_messageSegments hsegments with ⟨hquiet, hfits⟩
      exact ⟨hbuilt.extend rfl rfl hquiet, hfits⟩
  | toolCall call =>
      rw [hkind] at htake
      rcases haccepts.named call hkind with ⟨name, hname, hcanonical⟩
      exact built_toolCall hbuilt hname hcanonical htake
  | toolOutput payload =>
      rw [hkind] at htake
      rcases bind_eq_ok.mp htake with ⟨segment, hsegment, hnext⟩
      cases hnext
      exact ⟨hbuilt.extend rfl rfl (quiet_toolOutputSegment hsegment), trivial⟩
  | reasoning payload =>
      rw [hkind] at htake
      rcases bind_eq_ok.mp htake with ⟨segments, hsegments, hnext⟩
      cases hnext
      exact ⟨hbuilt.extend rfl rfl (quiet_reasoningSegments hsegments), trivial⟩
  | otherItem | otherEvent =>
      rw [hkind] at htake
      cases htake
      exact ⟨hbuilt.extend_nil rfl rfl, trivial⟩
  | malformed => exact absurd hkind haccepts.wellFormed

def NamesCall (before : List RolloutItem) (output : RolloutMembers) : Prop :=
  ∃ call ∈ toolCalls before, ∃ text other, output.get "call_id" = .str text ∧
    call.get "call_id" = .str other ∧ strip text = strip other

theorem NamesCall.callIdOf_mem {output : RolloutMembers} (hnames : NamesCall items output) :
    callIdOf output ∈ (toolCalls items).map callIdOf := by
  rcases hnames with ⟨call, hcall, text, other, htext, hother, hsame⟩
  have hblank : isBlank text = isBlank other := by
    rw [Bool.eq_iff_iff, ← strip_eq_empty_iff, ← strip_eq_empty_iff, hsame]
  have hid : callIdOf output = callIdOf call := by
    simp [callIdOf, htext, hother, optionalNonEmpty, hblank, hsame]
  rw [hid]
  exact List.mem_map_of_mem hcall

theorem exists_takeItem (hsession : isBlank sessionId = false)
    (hbuilt : Built sessionId items state)
    (haccepts : CodexSessionParser.Accepts environment artifactPath lineNumber event)
    (houtput : ∀ output, rolloutItem event = .toolOutput output → NamesCall items output)
    (hfits : Fits items (rolloutItem event)) :
    ∃ next, takeItem artifactPath sessionId (environment.isoFormat instant) lineNumber
      (rolloutItem event) state = .ok next := by
  have htimestamp := environment.isoFormat_nonblank instant
  cases hkind : rolloutItem event with
  | sessionMeta payload => exact ⟨_, rfl⟩
  | message payload =>
      rw [hkind] at hfits
      rcases exists_messageSegments hsession htimestamp hfits with ⟨segments, hsegments⟩
      exact ⟨_, bind_eq_ok.mpr ⟨segments, hsegments, rfl⟩⟩
  | toolCall call =>
      rw [hkind] at hfits
      rcases hfits with ⟨⟨hsome, hnew⟩, hmcp⟩
      rcases haccepts.named call hkind with ⟨name, hname, hcanonical⟩
      have htool : calledTool call = name := by simp [calledTool, hname]
      rw [htool] at hmcp
      rcases Option.isSome_iff_exists.mp hsome with ⟨callId, hid⟩
      have htaken : ∃ segment info, info.callId = callId ∧
          toolCallSegment artifactPath sessionId (environment.isoFormat instant) call
            (state.sequenceIndex + 1) = .ok (segment, info) :=
        exists_toolCallSegment hsession htimestamp (Nat.succ_ne_zero state.sequenceIndex)
          hname hcanonical hid hmcp
      rcases htaken with ⟨segment, info, hinfo, hsegment⟩
      have hnotmet : ¬ (leader? CallInfo.callId state.callIndex info.callId).isSome = true := by
        rw [hbuilt.id_met_iff, hinfo, ← hid]
        exact hnew
      apply Exists.intro
      apply bind_eq_ok.mpr
      refine ⟨(segment, info), hsegment, ?_⟩
      dsimp only
      rw [if_neg hnotmet]
      rfl
  | toolOutput output =>
      have hmem := (houtput output hkind).callIdOf_mem
      rw [← hbuilt.ids_eq] at hmem
      rcases List.mem_map.mp hmem with ⟨info, hinfo, hid⟩
      have htaken : ∃ segment, toolOutputSegment artifactPath sessionId
          (environment.isoFormat instant) lineNumber output (state.sequenceIndex + 1)
            state.callIndex = .ok segment :=
        exists_toolOutputSegment hsession htimestamp (Nat.succ_ne_zero state.sequenceIndex)
          hbuilt.sound hinfo hid.symm
      rcases htaken with ⟨segment, hsegment⟩
      exact ⟨_, bind_eq_ok.mpr ⟨segment, hsegment, rfl⟩⟩
  | reasoning payload =>
      have htaken : ∃ segments, reasoningSegments sessionId (environment.isoFormat instant)
          payload state.sequenceIndex = .ok segments :=
        exists_reasoningSegments hsession htimestamp
      rcases htaken with ⟨segments, hsegments⟩
      exact ⟨_, bind_eq_ok.mpr ⟨segments, hsegments, rfl⟩⟩
  | otherItem | otherEvent => exact ⟨_, rfl⟩
  | malformed => exact absurd hkind haccepts.wellFormed

structure Capturable (items : List RolloutItem) : Prop where
  messages : ∀ payload, .message payload ∈ items → MessageFits payload
  callIds : ∀ call ∈ toolCalls items, (callIdOf call).isSome = true
  callIds_nodup : ((toolCalls items).map callIdOf).Nodup
  suitcode : ∀ toolName ∈ calledTools items,
    (suitcodeNameOf toolName).isSome = true → isMcpToolName toolName = true

theorem capturable_nil : Capturable [] where
  messages := by simp
  callIds := by simp [toolCalls]
  callIds_nodup := List.nodup_nil
  suitcode := by simp [calledTools, toolCalls]

theorem capturable_snoc_of_no_call (hcall : item.toolCall? = none) :
    Capturable (items ++ [item]) ↔
      Capturable items ∧ ∀ payload, item = .message payload → MessageFits payload := by
  have hcalls : toolCalls (items ++ [item]) = toolCalls items := by
    simp [toolCalls_snoc, hcall]
  have htools : calledTools (items ++ [item]) = calledTools items :=
    calledTools_snoc_of_none hcall
  constructor
  · rintro ⟨hmessages, hids, hnodup, hmcp⟩
    rw [hcalls] at hids hnodup
    rw [htools] at hmcp
    refine ⟨⟨fun payload hmem => hmessages payload (List.mem_append_left _ hmem), hids, hnodup,
      hmcp⟩, ?_⟩
    rintro payload rfl
    exact hmessages payload (by simp)
  · rintro ⟨⟨hmessages, hids, hnodup, hmcp⟩, hlast⟩
    refine ⟨?_, by rwa [hcalls], by rwa [hcalls], by rwa [htools]⟩
    intro payload hmem
    rcases List.mem_append.mp hmem with hmem | hmem
    · exact hmessages payload hmem
    · exact hlast payload (List.mem_singleton.mp hmem).symm

theorem capturable_snoc_iff :
    Capturable (items ++ [item]) ↔ Capturable items ∧ Fits items item := by
  cases item with
  | message payload =>
      rw [capturable_snoc_of_no_call rfl]
      apply and_congr_right
      intro _
      constructor
      · intro hfits
        exact hfits payload rfl
      · rintro hfits other ⟨⟩
        exact hfits
  | toolCall call =>
      have htools : calledTools (items ++ [.toolCall call]) =
          calledTools items ++ [calledTool call] := by
        simp [calledTools, toolCalls_snoc, RolloutItem.toolCall?]
      have hcalls : toolCalls (items ++ [.toolCall call]) = toolCalls items ++ [call] := by
        simp [toolCalls_snoc, RolloutItem.toolCall?]
      constructor
      · intro hall
        have hids := hall.callIds_nodup
        have hsome := hall.callIds
        have hmcp := hall.suitcode
        rw [hcalls, List.map_append, List.nodup_append] at hids
        rw [hcalls] at hsome
        rw [htools] at hmcp
        refine ⟨⟨fun other hother => hall.messages other (List.mem_append_left _ hother),
          fun other hother => hsome other (List.mem_append_left _ hother), hids.1,
          fun name hname => hmcp name (List.mem_append_left _ hname)⟩, ⟨?_, ?_⟩, ?_⟩
        · exact hsome call (by simp)
        · intro hmem
          exact hids.2.2 _ hmem _ (by simp) rfl
        · exact hmcp _ (by simp)
      · rintro ⟨hall, ⟨hsome, hnew⟩, hmcp⟩
        constructor
        · intro other hother
          rcases List.mem_append.mp hother with hother | hother
          · exact hall.messages other hother
          · cases List.mem_singleton.mp hother
        · intro other hother
          rw [hcalls] at hother
          rcases List.mem_append.mp hother with hother | hother
          · exact hall.callIds other hother
          · rw [List.mem_singleton.mp hother]
            exact hsome
        · rw [hcalls, List.map_append, List.nodup_append]
          refine ⟨hall.callIds_nodup, by simp, ?_⟩
          intro id hid other hother heq
          rw [List.map_cons, List.map_nil, List.mem_singleton] at hother
          rw [heq, hother] at hid
          exact hnew hid
        · intro name hname
          rw [htools] at hname
          rcases List.mem_append.mp hname with hname | hname
          · exact hall.suitcode name hname
          · rw [List.mem_singleton.mp hname]
            exact hmcp
  | sessionMeta payload | toolOutput payload | reasoning payload =>
      rw [capturable_snoc_of_no_call rfl]
      simp [Fits]
  | otherItem | otherEvent | malformed =>
      rw [capturable_snoc_of_no_call rfl]
      simp [Fits]

/-- What the builder has made of accepted events, by induction on them. -/
theorem built_run {events : List (ℕ × RolloutMembers)} (hsession : isBlank sessionId = false)
    (haccepts : ∀ event ∈ events,
      CodexSessionParser.Accepts environment artifactPath event.1 event.2)
    (hmeta : ∀ before item after, (events.map fun event => rolloutItem event.2) =
      before ++ item :: after → item.isResponse = true → sessionMetas before ≠ [])
    (houtputs : ∀ before output after, (events.map fun event => rolloutItem event.2) =
      before ++ .toolOutput output :: after → NamesCall before output) :
    ((∃ last, events.foldlM (fun state event =>
        captureEvent environment artifactPath sessionId event.1 event.2 state) {} = .ok last) ↔
      Capturable (events.map fun event => rolloutItem event.2)) ∧
      ∀ last, events.foldlM (fun state event =>
          captureEvent environment artifactPath sessionId event.1 event.2 state) {} = .ok last →
        Built sessionId (events.map fun event => rolloutItem event.2) last := by
  induction events using List.reverseRecOn with
  | nil =>
      constructor
      · exact ⟨fun _ => capturable_nil, fun _ => ⟨_, rfl⟩⟩
      · intro last hlast
        cases hlast
        exact built_nil sessionId
  | append_singleton events event ih =>
      simp only [List.map_append, List.map_cons, List.map_nil] at hmeta houtputs ⊢
      have hbefore := ih
        (fun other hother => haccepts other (List.mem_append_left _ hother))
        (fun before item after hsplit => hmeta before item (after ++ [rolloutItem event.2])
          (by rw [hsplit, List.append_assoc, List.cons_append]))
        (fun before output after hsplit => houtputs before output
          (after ++ [rolloutItem event.2]) (by rw [hsplit, List.append_assoc, List.cons_append]))
      rcases hbefore with ⟨hend, hkept⟩
      have haccept := haccepts event (by simp)
      rcases haccept.timestamp with ⟨instant, hinstant⟩
      have hstep : ∀ state, Built sessionId (events.map fun event => rolloutItem event.2) state →
          captureEvent environment artifactPath sessionId event.1 event.2 state =
            takeItem artifactPath sessionId (environment.isoFormat instant) event.1
              (rolloutItem event.2) state := by
        intro state hbuilt
        apply captureEvent_eq hinstant haccept.wellFormed
        intro hresponse
        have hne := hmeta _ _ [] rfl hresponse
        simpa [hbuilt.saw, List.isEmpty_iff] using hne
      constructor
      · rw [capturable_snoc_iff, ← hend]
        constructor
        · rintro ⟨last, hlast⟩
          rcases foldlM_snoc_eq_ok.mp hlast with ⟨state, hstate, hnext⟩
          rw [hstep state (hkept state hstate)] at hnext
          exact ⟨⟨state, hstate⟩, (built_step (hkept state hstate) haccept hnext).2⟩
        · rintro ⟨⟨state, hstate⟩, hfits⟩
          have houtput : ∀ output, rolloutItem event.2 = .toolOutput output →
              NamesCall (events.map fun event => rolloutItem event.2) output := by
            intro output heq
            exact houtputs _ output [] (by rw [heq])
          rcases exists_takeItem hsession (hkept state hstate) haccept houtput hfits with
            ⟨next, hnext⟩
          rw [← hstep state (hkept state hstate)] at hnext
          exact ⟨next, foldlM_snoc_eq_ok.mpr ⟨state, hstate, hnext⟩⟩
      · intro last hlast
        rcases foldlM_snoc_eq_ok.mp hlast with ⟨state, hstate, hnext⟩
        rw [hstep state (hkept state hstate)] at hnext
        exact (built_step (hkept state hstate) haccept hnext).1

end CodexTranscriptCapture

end SuitCode
