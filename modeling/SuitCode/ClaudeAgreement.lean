import SuitCode.ClaudeReaders

/-!
# Where the two readers of Claude transcripts agree

The builder is run beside a parser which accepts the events.  Both have the same
repository root at every event; what the builder may refuse are blocks, and it may take
another session id and count tools which the parser passes over.
-/

namespace SuitCode

open PosixText KeyedList ExceptList

/-! ## The blocks of events -/

def claudeBlocks (event : RolloutMembers) : List AgentBlock :=
  match event.get "message" with
  | .obj message =>
      messageBlocks (RolloutMembers.get message "role") (RolloutMembers.get message "content")
  | _ => []

def isTyped (event : RolloutMembers) : Bool :=
  (event.get "type").isText "user" || (event.get "type").isText "assistant"

def countedBlocks (event : RolloutMembers) : List AgentBlock :=
  if isTyped event then claudeBlocks event else []

def uncountedBlocks (event : RolloutMembers) : List AgentBlock :=
  if isTyped event then [] else claudeBlocks event

def capturedSession (stem : String) (events : List RolloutMembers) : String :=
  (events.head?.map (ClaudeTranscriptCapture.sessionIdOr stem)).getD stem

theorem mem_claudeBlocks {event : RolloutMembers} {block : AgentBlock} :
    block ∈ claudeBlocks event ↔ block ∈ countedBlocks event ∨ block ∈ uncountedBlocks event := by
  unfold countedBlocks uncountedBlocks
  cases htyped : isTyped event <;> simp

theorem toolUses_claudeBlocks (event : RolloutMembers) :
    toolUses (claudeBlocks event) =
      toolUses (countedBlocks event) ++ toolUses (uncountedBlocks event) := by
  unfold countedBlocks uncountedBlocks
  cases htyped : isTyped event <;> simp [toolUses]

theorem uses_claudeBlocks (events : List RolloutMembers) :
    mcpUses (toolUses (events.flatMap claudeBlocks)) =
        mcpUses (toolUses (events.flatMap countedBlocks)) +
          mcpUses (toolUses (events.flatMap uncountedBlocks)) ∧
      suitcodeUses (toolUses (events.flatMap claudeBlocks)) =
        suitcodeUses (toolUses (events.flatMap countedBlocks)) +
          suitcodeUses (toolUses (events.flatMap uncountedBlocks)) := by
  induction events with
  | nil => exact ⟨rfl, rfl⟩
  | cons event events ih =>
      simp only [List.flatMap_cons, toolUses_append, mcpUses_append, suitcodeUses_append,
        toolUses_claudeBlocks]
      omega

theorem isText_of_toolUse_mem {role content : RolloutValue} {members : RolloutMembers}
    (hmem : AgentBlock.toolUse members ∈ messageBlocks role content) :
    role.isText "assistant" = true := by
  unfold messageBlocks at hmem
  cases content with
  | arr items =>
      obtain ⟨item, -, hblock⟩ := List.mem_map.mp hmem
      unfold agentBlock at hblock
      cases item with
      | obj block =>
          dsimp only at hblock
          split_ifs at hblock with htext huse hresult
          · cases htextValue : RolloutMembers.get block "text" <;> simp [htextValue] at hblock
          · exact (Bool.and_eq_true_iff.mp huse).2
      | _ => cases hblock
  | _ => simp at hmem

theorem toolUses_eq_nil {blocks : List AgentBlock}
    (hnone : ∀ members, AgentBlock.toolUse members ∉ blocks) : toolUses blocks = [] := by
  unfold toolUses
  rw [List.filterMap_eq_nil_iff]
  intro block hblock
  cases block with
  | toolUse members => exact absurd hblock (hnone members)
  | _ => rfl

theorem named_of_no_use {blocks : List AgentBlock}
    (hnone : ∀ members, AgentBlock.toolUse members ∉ blocks) :
    ∀ block ∈ blocks, Named true block := by
  intro block hblock
  cases block with
  | toolUse members => exact absurd hblock (hnone members)
  | _ => trivial

/-! ## The parser's run -/

namespace ClaudeSessionParser

variable {environment : AgentEnvironment} {artifactPath : String} {lineNumber : ℕ}
  {event : RolloutMembers} {events : List RolloutMembers} {state next : State}

structure Parsed (events : List RolloutMembers) (state : State) : Prop where
  sessionId : state.sessionId = (events.filterMap namedSession).head?
  ids : ∀ id ∈ events.filterMap namedSession, state.sessionId = some id
  named : ∀ block ∈ events.flatMap countedBlocks, Named true block
  tallied : Tallied (toolUses (events.flatMap countedBlocks)) state.counts

theorem parsed_nil : Parsed [] {} where
  sessionId := rfl
  ids := by simp
  named := by simp
  tallied := ⟨rfl, rfl⟩

theorem parseMessage_ok {timestamp : ℤ} {message : RolloutMembers}
    (hmessage : parseMessage artifactPath lineNumber timestamp message state = .ok next) :
    next.sessionId = state.sessionId ∧ next.repositoryRoot = state.repositoryRoot ∧
      (∀ block ∈ messageBlocks (message.get "role") (message.get "content"),
        Named true block) ∧
      ∀ uses, Tallied uses state.counts →
        Tallied (uses ++ toolUses (messageBlocks (message.get "role") (message.get "content")))
          next.counts := by
  unfold parseMessage at hmessage
  dsimp only at hmessage
  cases hrole : (message.get "role").isText "user" || (message.get "role").isText "assistant" with
  | true =>
      rw [hrole, if_pos rfl] at hmessage
      obtain ⟨hmcp, hsuitcode⟩ := countRole_metrics (message.get "role") state.counts
      cases hcontent : message.get "content" with
      | arr items =>
          simp only [hcontent] at hmessage
          obtain ⟨counts, hcount, hnext⟩ := bind_eq_ok.mp hmessage
          rw [pure_eq_ok] at hnext
          obtain ⟨hnamed, hlast⟩ := countBlocks_ok hcount
          rw [← hnext]
          refine ⟨rfl, rfl, hnamed, fun uses htallied => hlast uses ?_⟩
          exact htallied.of_metrics hmcp hsuitcode
      | _ =>
          simp only [hcontent, Except.ok.injEq] at hmessage
          rw [← hmessage]
          refine ⟨rfl, rfl, by simp [messageBlocks], fun uses htallied => ?_⟩
          have hblocks : uses ++ toolUses [] = uses := List.append_nil uses
          simp only [messageBlocks]
          rw [hblocks]
          exact htallied.of_metrics hmcp hsuitcode
  | false =>
      rw [hrole, if_neg (by simp), Except.ok.injEq] at hmessage
      rw [← hmessage]
      have hnone : ∀ members, AgentBlock.toolUse members ∉
          messageBlocks (message.get "role") (message.get "content") := by
        intro members hmem
        rw [isText_of_toolUse_mem hmem, Bool.or_true] at hrole
        cases hrole
      refine ⟨rfl, rfl, named_of_no_use hnone, fun uses htallied => ?_⟩
      rw [toolUses_eq_nil hnone, List.append_nil]
      exact htallied

theorem noteSessionId_ok {found result : Option String}
    (hnote : noteSessionId artifactPath event found = .ok result) :
    result = found.or (namedSession event) ∧
      ∀ id, namedSession event = some id → result = some id := by
  unfold noteSessionId at hnote
  cases hnamed : namedSession event with
  | none =>
      simp only [hnamed, Except.ok.injEq] at hnote
      simp [hnote]
  | some id =>
      cases found with
      | none =>
          simp only [hnamed, Except.ok.injEq] at hnote
          simp [← hnote]
      | some earlier =>
          simp only [hnamed] at hnote
          by_cases hsame : earlier = id
          · rw [if_neg (by simpa using hsame), Except.ok.injEq] at hnote
            simp [← hnote, hsame]
          · simp [hsame] at hnote

structure Accepts (environment : AgentEnvironment) (artifactPath : String)
    (event : RolloutMembers) (state next : State) : Prop where
  instant : ∃ instant, eventInstant environment event (environment.modifiedAt artifactPath) =
    .ok instant
  sessionId : noteSessionId artifactPath event state.sessionId = .ok next.sessionId
  repositoryRoot : noteRoot environment event state.repositoryRoot = .ok next.repositoryRoot
  named : ∀ block ∈ countedBlocks event, Named true block
  tallied : ∀ uses, Tallied uses state.counts →
    Tallied (uses ++ toolUses (countedBlocks event)) next.counts

theorem accepts_of_parseEvent
    (hparse : parseEvent environment artifactPath lineNumber event state = .ok next) :
    Accepts environment artifactPath event state next := by
  unfold parseEvent at hparse
  obtain ⟨instant, hinstant, hparse⟩ := bind_eq_ok.mp hparse
  obtain ⟨sessionId, hsession, hparse⟩ := bind_eq_ok.mp hparse
  obtain ⟨repositoryRoot, hroot, hparse⟩ := bind_eq_ok.mp hparse
  dsimp only at hparse
  cases hhashable : (event.get "type").isHashable with
  | false => simp [hhashable] at hparse
  | true =>
      rw [hhashable, Bool.not_true, if_neg (by simp)] at hparse
      cases htyped : isTyped event with
      | false =>
          have htype := htyped
          unfold isTyped at htype
          rw [htype, if_neg (by simp), pure_eq_ok] at hparse
          rw [← hparse]
          refine ⟨⟨instant, hinstant⟩, hsession, hroot, by simp [countedBlocks, htyped], ?_⟩
          intro uses htallied
          rw [countedBlocks, htyped, if_neg (by simp), toolUses_eq_nil (by simp),
            List.append_nil]
          exact htallied.of_metrics rfl rfl
      | true =>
          have htype := htyped
          unfold isTyped at htype
          rw [htype, if_pos rfl] at hparse
          cases hmessage : event.get "message" with
          | obj message =>
              simp only [hmessage] at hparse
              have hblocks : countedBlocks event =
                  messageBlocks (RolloutMembers.get message "role")
                    (RolloutMembers.get message "content") := by
                rw [countedBlocks, htyped, if_pos rfl, claudeBlocks, hmessage]
              obtain ⟨hid, hrepository, hnamed, htallies⟩ := parseMessage_ok hparse
              have hsame : next.sessionId = sessionId := hid
              have hkept : next.repositoryRoot = repositoryRoot := hrepository
              rw [← hsame] at hsession
              rw [← hkept] at hroot
              refine ⟨⟨instant, hinstant⟩, hsession, hroot, ?_, ?_⟩
              · rw [hblocks]
                exact hnamed
              · intro uses htallied
                rw [hblocks]
                exact htallies uses (htallied.of_metrics rfl rfl)
          | _ =>
              simp only [hmessage, pure_eq_ok] at hparse
              rw [← hparse]
              have hblocks : countedBlocks event = [] := by
                rw [countedBlocks, htyped, if_pos rfl, claudeBlocks, hmessage]
              refine ⟨⟨instant, hinstant⟩, hsession, hroot, by simp [hblocks], ?_⟩
              intro uses htallied
              rw [hblocks, toolUses_eq_nil (by simp), List.append_nil]
              exact htallied.of_metrics rfl rfl

theorem Parsed.snoc (hparsed : Parsed events state)
    (haccepts : Accepts environment artifactPath event state next) :
    Parsed (events ++ [event]) next := by
  obtain ⟨hor, hsame⟩ := noteSessionId_ok haccepts.sessionId
  have hhead : next.sessionId = ((events ++ [event]).filterMap namedSession).head? := by
    rw [hor, hparsed.sessionId, List.filterMap_append, List.head?_append]
    cases hnamed : namedSession event <;> simp [hnamed]
  constructor
  · exact hhead
  · intro id hid
    rw [List.filterMap_append, List.mem_append] at hid
    cases hid with
    | inl hearlier =>
        rw [hor, hparsed.ids id hearlier]
        rfl
    | inr hlast =>
        apply hsame id
        obtain ⟨last, hlast, hnamed⟩ := List.mem_filterMap.mp hlast
        rw [List.mem_singleton.mp hlast] at hnamed
        exact hnamed
  · intro block hblock
    rw [List.flatMap_append, List.mem_append] at hblock
    cases hblock with
    | inl hearlier => exact hparsed.named block hearlier
    | inr hlast => exact haccepts.named block (by simpa using hlast)
  · rw [List.flatMap_append, toolUses_append, List.flatMap_singleton]
    exact haccepts.tallied _ hparsed.tallied

theorem parsed_run {events : List (ℕ × RolloutMembers)} {before : List RolloutMembers}
    {last : State} (hparsed : Parsed before state)
    (hfold : events.foldlM (fun state event =>
      parseEvent environment artifactPath event.1 event.2 state) state = .ok last) :
    Parsed (before ++ events.map Prod.snd) last := by
  induction events generalizing before state with
  | nil =>
      simp only [List.foldlM_nil, pure_eq_ok] at hfold
      rw [← hfold, List.map_nil, List.append_nil]
      exact hparsed
  | cons event events ih =>
      rw [List.foldlM_cons] at hfold
      obtain ⟨middle, hstep, hrest⟩ := bind_eq_ok.mp hfold
      have hnext := ih (hparsed.snoc (accepts_of_parseEvent hstep)) hrest
      simpa using hnext

end ClaudeSessionParser

/-! ## The builder's run beside the parser's -/

namespace ClaudeTranscriptCapture

variable {environment : AgentEnvironment} {artifactPath : String} {lineNumber : ℕ}
  {event : RolloutMembers} {before : List RolloutMembers} {state next : State}
  {parsed parsedNext : ClaudeSessionParser.State}

/-- The builder after some events, beside a parser with its repository root. -/
structure Beside (stem : String) (events : List RolloutMembers) (repositoryRoot : Option String)
    (state : State) : Prop where
  root : state.repositoryRoot = repositoryRoot
  sessionId : state.sessionId = events.head?.map (sessionIdOr stem)
  captured : ∀ id, (events ≠ [] → id = capturedSession stem events) →
    Captured rules id (events.flatMap claudeBlocks) state.capture

theorem beside_nil (stem : String) : Beside stem [] none {} where
  root := rfl
  sessionId := rfl
  captured id _ := captured_nil rules id

theorem Beside.getD_sessionId {stem : String} {repositoryRoot : Option String}
    (hbeside : Beside stem before repositoryRoot state) (event : RolloutMembers) :
    state.sessionId.getD (sessionIdOr stem event) =
      capturedSession stem (before ++ [event]) := by
  rw [hbeside.sessionId]
  cases before with
  | nil => rfl
  | cons first rest => rfl

theorem capturedSession_append {stem : String} {events : List RolloutMembers}
    (hevents : events ≠ []) (more : List RolloutMembers) :
    capturedSession stem (events ++ more) = capturedSession stem events := by
  cases events with
  | nil => exact absurd rfl hevents
  | cons first rest => rfl

theorem map_block_eventBlocks (timestamp : String) (lineNumber : ℕ) (event : RolloutMembers) :
    (eventBlocks timestamp lineNumber event).map PlacedBlock.block = claudeBlocks event := by
  unfold eventBlocks claudeBlocks
  cases event.get "message" <;> simp [Function.comp_def]

theorem timestamp_eventBlocks {timestamp : String} {placed : PlacedBlock}
    (hmem : placed ∈ eventBlocks timestamp lineNumber event) :
    placed.timestamp = timestamp := by
  unfold eventBlocks at hmem
  cases hmessage : event.get "message" with
  | obj message =>
      rw [hmessage] at hmem
      obtain ⟨block, -, hplaced⟩ := List.mem_map.mp hmem
      rw [← hplaced]
  | _ => simp [hmessage] at hmem

theorem captureEvent_eq (lineNumber : ℕ) {stem : String} (hstem : stem = pathStem artifactPath)
    (hbeside : Beside stem before parsed.repositoryRoot state)
    (haccepts : ClaudeSessionParser.Accepts environment artifactPath event parsed parsedNext) :
    ∃ instant, captureEvent environment artifactPath lineNumber event state = (do
      let capture ← (eventBlocks (environment.isoFormat instant) lineNumber event).foldlM
        (captureBlock rules "Claude" artifactPath (capturedSession stem (before ++ [event])))
        state.capture
      pure
        { sessionId := some (capturedSession stem (before ++ [event]))
          repositoryRoot := parsedNext.repositoryRoot
          capture := capture }) := by
  obtain ⟨instant, hinstant⟩ := haccepts.instant
  refine ⟨instant, ?_⟩
  unfold captureEvent timestampText
  rw [← hstem, hbeside.getD_sessionId event, hbeside.root, haccepts.repositoryRoot, ok_bind,
    hinstant, ok_bind]
  rfl

theorem beside_step {stem : String} (hstem : stem = pathStem artifactPath)
    (hbeside : Beside stem before parsed.repositoryRoot state)
    (haccepts : ClaudeSessionParser.Accepts environment artifactPath event parsed parsedNext)
    (hstep : captureEvent environment artifactPath lineNumber event state = .ok next) :
    (∀ block ∈ claudeBlocks event, Fits rules block) ∧
      Beside stem (before ++ [event]) parsedNext.repositoryRoot next := by
  obtain ⟨instant, heq⟩ := captureEvent_eq lineNumber hstem hbeside haccepts
  rw [heq] at hstep
  obtain ⟨capture, hrun, hnext⟩ := bind_eq_ok.mp hstep
  rw [pure_eq_ok] at hnext
  have hstart := hbeside.captured (capturedSession stem (before ++ [event]))
    fun hbefore => capturedSession_append hbefore [event]
  obtain ⟨hfits, hcaptured⟩ := captured_run hstart hrun
  rw [map_block_eventBlocks] at hcaptured
  constructor
  · rw [← map_block_eventBlocks (environment.isoFormat instant) lineNumber event]
    intro block hblock
    obtain ⟨placed, hplaced, hsame⟩ := List.mem_map.mp hblock
    rw [← hsame]
    exact hfits placed hplaced
  · rw [← hnext]
    constructor
    · rfl
    · cases before <;> rfl
    · intro id hid
      rw [hid (by simp), List.flatMap_append, List.flatMap_singleton]
      exact hcaptured

theorem exists_captureEvent (lineNumber : ℕ) {stem : String} (hstem : stem = pathStem artifactPath)
    (hbeside : Beside stem before parsed.repositoryRoot state)
    (haccepts : ClaudeSessionParser.Accepts environment artifactPath event parsed parsedNext)
    (hsession : isBlank (capturedSession stem (before ++ [event])) = false)
    (hfits : ∀ block ∈ claudeBlocks event, Fits rules block) :
    ∃ next, captureEvent environment artifactPath lineNumber event state = .ok next := by
  obtain ⟨instant, heq⟩ := captureEvent_eq lineNumber hstem hbeside haccepts
  have hstart := hbeside.captured (capturedSession stem (before ++ [event]))
    fun hbefore => capturedSession_append hbefore [event]
  have htimes : ∀ placed ∈ eventBlocks (environment.isoFormat instant) lineNumber event,
      isBlank placed.timestamp = false := by
    intro placed hplaced
    rw [timestamp_eventBlocks hplaced]
    exact environment.isoFormat_nonblank instant
  have hall : ∀ placed ∈ eventBlocks (environment.isoFormat instant) lineNumber event,
      Fits rules placed.block := by
    intro placed hplaced
    apply hfits
    rw [← map_block_eventBlocks (environment.isoFormat instant) lineNumber event]
    exact List.mem_map_of_mem hplaced
  obtain ⟨capture, hrun⟩ := exists_run "Claude" artifactPath hsession htimes hstart hall
  rw [heq, hrun, ok_bind]
  exact ⟨_, rfl⟩

variable {events : List (ℕ × RolloutMembers)} {last : ClaudeSessionParser.State} {built : State}

theorem snoc_map (before : List RolloutMembers) (event : ℕ × RolloutMembers)
    (events : List (ℕ × RolloutMembers)) :
    before ++ (event :: events).map Prod.snd =
      before ++ [event.2] ++ events.map Prod.snd := by
  simp

theorem beside_run {stem : String} (hstem : stem = pathStem artifactPath)
    (hbeside : Beside stem before parsed.repositoryRoot state)
    (hfold : events.foldlM (fun state event =>
      ClaudeSessionParser.parseEvent environment artifactPath event.1 event.2 state) parsed =
        .ok last)
    (hbuild : events.foldlM (fun state event =>
      captureEvent environment artifactPath event.1 event.2 state) state = .ok built) :
    (∀ block ∈ (events.map Prod.snd).flatMap claudeBlocks, Fits rules block) ∧
      Beside stem (before ++ events.map Prod.snd) last.repositoryRoot built := by
  induction events generalizing before parsed state with
  | nil =>
      simp only [List.foldlM_nil, pure_eq_ok] at hfold hbuild
      rw [← hfold, ← hbuild, List.map_nil, List.append_nil]
      exact ⟨by simp, hbeside⟩
  | cons event events ih =>
      rw [List.foldlM_cons] at hfold hbuild
      obtain ⟨parsedNext, hparse, hfold⟩ := bind_eq_ok.mp hfold
      obtain ⟨next, hstep, hbuild⟩ := bind_eq_ok.mp hbuild
      have haccepts := ClaudeSessionParser.accepts_of_parseEvent hparse
      obtain ⟨hfits, hnext⟩ := beside_step hstem hbeside haccepts hstep
      obtain ⟨hrest, hlast⟩ := ih hnext hfold hbuild
      constructor
      · intro block hblock
        rw [List.map_cons, List.flatMap_cons, List.mem_append] at hblock
        cases hblock with
        | inl hfirst => exact hfits block hfirst
        | inr hlater => exact hrest block hlater
      · rw [snoc_map]
        exact hlast

theorem exists_built {stem : String} (hstem : stem = pathStem artifactPath)
    (hbeside : Beside stem before parsed.repositoryRoot state)
    (hfold : events.foldlM (fun state event =>
      ClaudeSessionParser.parseEvent environment artifactPath event.1 event.2 state) parsed =
        .ok last)
    (hsession : isBlank (capturedSession stem (before ++ events.map Prod.snd)) = false)
    (hfits : ∀ block ∈ (events.map Prod.snd).flatMap claudeBlocks, Fits rules block) :
    ∃ built, events.foldlM (fun state event =>
      captureEvent environment artifactPath event.1 event.2 state) state = .ok built := by
  induction events generalizing before parsed state with
  | nil => exact ⟨state, rfl⟩
  | cons event events ih =>
      rw [List.foldlM_cons] at hfold
      obtain ⟨parsedNext, hparse, hfold⟩ := bind_eq_ok.mp hfold
      have haccepts := ClaudeSessionParser.accepts_of_parseEvent hparse
      rw [snoc_map] at hsession
      have hfirst : isBlank (capturedSession stem (before ++ [event.2])) = false := by
        rw [capturedSession_append (by simp)] at hsession
        exact hsession
      simp only [List.map_cons, List.flatMap_cons, List.mem_append] at hfits
      have hnow : ∀ block ∈ claudeBlocks event.2, Fits rules block :=
        fun block hblock => hfits block (.inl hblock)
      obtain ⟨next, hstep⟩ := exists_captureEvent event.1 hstem hbeside haccepts hfirst hnow
      obtain ⟨-, hnext⟩ := beside_step hstem hbeside haccepts hstep
      obtain ⟨built, hbuild⟩ := ih hnext hfold hsession
        fun block hblock => hfits block (.inr hblock)
      rw [List.foldlM_cons, hstep, ok_bind]
      exact ⟨built, hbuild⟩

end ClaudeTranscriptCapture

/-! ## The agreement -/

/-- The capture is of the session, with as many calls of MCP and SuitCode tools. -/
structure ClaudeReadersAgree (session : NativeSessionAnalytics) (capture : TranscriptCapture) :
    Prop where
  sessionId : capture.sessionId = session.sessionId.val
  repositoryRoot : capture.repositoryRoot = session.repositoryRoot
  mcpCalls : (capture.segments.filter fun segment => segment.kind = .mcpToolCall).length =
    session.transcriptMetrics.mcpToolCallCount
  suitcodeCalls : (capture.segments.filter fun segment =>
      CodexTranscriptCapture.isCallSegment segment && segment.isSuitcode).length =
    session.transcriptMetrics.suitcodeToolCallCount

/-- The first event has the session id if any event has it, unless it is the name of the
file; a SuitCode tool has the name of an MCP tool; and events which are neither of a user
nor of an assistant use tools which are neither of SuitCode nor of MCP. -/
structure ClaudeReadAlike (stem : String) (events : List RolloutMembers) : Prop where
  sessionId : ∀ id ∈ events.filterMap namedSession,
    (events.head?.bind namedSession).isSome = true ∨ strip stem = id
  counted : ∀ use ∈ toolUses (events.flatMap countedBlocks), use.IsRegular
  uncounted : ∀ members, AgentBlock.toolUse members ∈ events.flatMap uncountedBlocks →
    ∃ toolName, usedToolName members = some toolName ∧ isMcpToolName toolName = false ∧
      canonicalServerToolName toolName (serverNameOf members) = .ok none

def agentStem (environment : AgentEnvironment) (path : String) : String :=
  match environment.resolvePath path with
  | .ok artifactPath => pathStem artifactPath
  | .error _ => ""

section Sessions

variable {stem : String} {events : List RolloutMembers} {parsed : ClaudeSessionParser.State}

theorem capturedSession_eq_iff (hparsed : ClaudeSessionParser.Parsed events parsed) :
    strip (capturedSession stem events) = strip (parsed.sessionId.getD stem) ↔
      ∀ id ∈ events.filterMap namedSession,
        (events.head?.bind namedSession).isSome = true ∨ strip stem = id := by
  rw [hparsed.sessionId]
  have hids := hparsed.ids
  rw [hparsed.sessionId] at hids
  cases events with
  | nil => simp [capturedSession]
  | cons event events =>
      cases hnamed : namedSession event with
      | some id => simp [capturedSession, ClaudeTranscriptCapture.sessionIdOr, hnamed]
      | none =>
          simp only [List.filterMap_cons, hnamed, List.head?_cons, Option.bind_some,
            Option.isSome_none, Bool.false_eq_true, false_or] at hids ⊢
          have hcaptured : capturedSession stem (event :: events) = stem := by
            simp [capturedSession, ClaudeTranscriptCapture.sessionIdOr, hnamed]
          rw [hcaptured]
          cases hlater : events.filterMap namedSession with
          | nil => simp
          | cons id ids =>
              rw [hlater] at hids
              have hstrip : strip id = id := by
                have hmem : id ∈ events.filterMap namedSession := by simp [hlater]
                obtain ⟨other, -, hother⟩ := List.mem_filterMap.mp hmem
                exact strip_of_optionalNonEmpty hother
              rw [List.head?_cons, Option.getD_some, hstrip]
              constructor
              · intro hsame other hother
                have hfirst := hids other hother
                rw [List.head?_cons, Option.some.injEq] at hfirst
                rw [hsame, hfirst]
              · intro hall
                exact hall id List.mem_cons_self

theorem fits_iff (hparsed : ClaudeSessionParser.Parsed events parsed) :
    (∀ block ∈ events.flatMap claudeBlocks, Fits ClaudeTranscriptCapture.rules block) ↔
      (∀ use ∈ toolUses (events.flatMap countedBlocks), use.IsRegular) ∧
        ∀ block ∈ events.flatMap uncountedBlocks, Fits ClaudeTranscriptCapture.rules block := by
  have hsplit : ∀ block, block ∈ events.flatMap claudeBlocks ↔
      block ∈ events.flatMap countedBlocks ∨ block ∈ events.flatMap uncountedBlocks := by
    intro block
    simp only [List.mem_flatMap, mem_claudeBlocks]
    constructor
    · rintro ⟨event, hevent, hcounted | huncounted⟩
      · exact .inl ⟨event, hevent, hcounted⟩
      · exact .inr ⟨event, hevent, huncounted⟩
    · rintro (⟨event, hevent, hblock⟩ | ⟨event, hevent, hblock⟩)
      · exact ⟨event, hevent, .inl hblock⟩
      · exact ⟨event, hevent, .inr hblock⟩
  have hcounted : (∀ block ∈ events.flatMap countedBlocks,
      Fits ClaudeTranscriptCapture.rules block) ↔
        ∀ use ∈ toolUses (events.flatMap countedBlocks), use.IsRegular := by
    constructor
    · intro hfits use huse
      obtain ⟨block, hblock, hused⟩ := List.mem_filterMap.mp huse
      exact ((fits_iff_of_named (hparsed.named block hblock)).mp (hfits block hblock)).2 use hused
    · intro hregular block hblock
      apply (fits_iff_of_named (hparsed.named block hblock)).mpr
      constructor
      · intro text _ hkeeps
        simpa [ClaudeTranscriptCapture.rules] using hkeeps
      · intro use huse
        exact hregular use (List.mem_filterMap.mpr ⟨block, hblock, huse⟩)
  constructor
  · intro hall
    exact ⟨hcounted.mp fun block hblock => hall block ((hsplit block).mpr (.inl hblock)),
      fun block hblock => hall block ((hsplit block).mpr (.inr hblock))⟩
  · rintro ⟨hregular, huncounted⟩ block hblock
    cases (hsplit block).mp hblock with
    | inl hfirst => exact hcounted.mpr hregular block hfirst
    | inr hother => exact huncounted block hother

theorem quiet_iff (blocks : List AgentBlock) :
    ((∀ block ∈ blocks, Fits ClaudeTranscriptCapture.rules block) ∧
        mcpUses (toolUses blocks) = 0 ∧ suitcodeUses (toolUses blocks) = 0) ↔
      ∀ members, AgentBlock.toolUse members ∈ blocks →
        ∃ toolName, usedToolName members = some toolName ∧ isMcpToolName toolName = false ∧
          canonicalServerToolName toolName (serverNameOf members) = .ok none := by
  constructor
  · rintro ⟨hfits, hmcp, hsuitcode⟩ members hmem
    have hthis := hfits _ hmem
    unfold mcpUses at hmcp
    unfold suitcodeUses at hsuitcode
    rw [List.countP_eq_zero] at hmcp hsuitcode
    cases hname : usedToolName members with
    | none => simp [Fits, hname, ClaudeTranscriptCapture.rules] at hthis
    | some toolName =>
        simp only [Fits, hname] at hthis
        obtain ⟨⟨canonicalName, hcanonical⟩, -⟩ := hthis
        have huse : (toolName, canonicalName) ∈ toolUses blocks := by
          apply List.mem_filterMap.mpr
          refine ⟨_, hmem, ?_⟩
          simp [AgentBlock.toolUse?, hname, blockUse, canonicalNameOf_eq hcanonical]
        have hnone : canonicalName = none := by simpa using hsuitcode _ huse
        rw [hnone] at hcanonical
        exact ⟨toolName, rfl, by simpa using hmcp _ huse, hcanonical⟩
  · intro hquiet
    have huses : ∀ use ∈ toolUses blocks, isMcpToolName use.1 = false ∧ use.2 = none := by
      intro use huse
      obtain ⟨block, hblock, hused⟩ := List.mem_filterMap.mp huse
      cases block with
      | toolUse members =>
          obtain ⟨toolName, hname, hmcp, hcanonical⟩ := hquiet members hblock
          simp only [AgentBlock.toolUse?, hname, Option.map_some, Option.some.injEq, blockUse,
            canonicalNameOf_eq hcanonical] at hused
          rw [← hused]
          exact ⟨hmcp, rfl⟩
      | _ => cases hused
    refine ⟨?_, ?_, ?_⟩
    · intro block hblock
      cases block with
      | text text => simp [Fits, ClaudeTranscriptCapture.rules]
      | toolUse members =>
          obtain ⟨toolName, hname, -, hcanonical⟩ := hquiet members hblock
          simp only [Fits, hname]
          refine ⟨⟨none, hcanonical⟩, ?_⟩
          rw [isRegular_blockUse, canonicalNameOf_eq hcanonical]
          simp
      | toolResult members => trivial
      | other => trivial
    · unfold mcpUses
      rw [List.countP_eq_zero]
      intro use huse
      simp [(huses use huse).1]
    · unfold suitcodeUses
      rw [List.countP_eq_zero]
      intro use huse
      simp [(huses use huse).2]

end Sessions

/-- A transcript the session parser accepts is captured as the same session with as many
calls exactly when the two readers read it alike. -/
theorem claudeReadersAgree_iff {environment : AgentEnvironment} {path : String}
    {session : NativeSessionAnalytics}
    (hparse : ClaudeSessionParser.parse environment path = .ok session) :
    (ClaudeTranscriptCapture.build environment path).Yields (ClaudeReadersAgree session) ↔
      ClaudeReadAlike (agentStem environment path) (agentEvents environment "Claude" path) := by
  unfold ClaudeSessionParser.parse at hparse
  obtain ⟨⟨artifactPath, lines⟩, hopen, hparse⟩ := bind_eq_ok.mp hparse
  obtain ⟨parsed, hfold, hsession⟩ := bind_eq_ok.mp hparse
  have hreadable := isReadable_of_foldAgentEvents hfold
  rw [foldAgentEvents_of_readable _ _ _ hreadable] at hfold
  have hevents : agentEvents environment "Claude" path =
      (numberedEvents 1 lines).map Prod.snd := by
    unfold agentEvents
    rw [hopen]
  have hstem : agentStem environment path = pathStem artifactPath := by
    unfold openAgentArtifact at hopen
    obtain ⟨resolved, hresolved, hlines⟩ := bind_eq_ok.mp hopen
    unfold agentStem
    rw [hresolved]
    cases hfile : environment.rolloutLines resolved with
    | none => simp [hfile] at hlines
    | some found =>
        simp only [hfile, pure_eq_ok, Prod.mk.injEq] at hlines
        rw [hlines.1]
  have hparsed := ClaudeSessionParser.parsed_run ClaudeSessionParser.parsed_nil hfold
  rw [List.nil_append, ← hevents] at hparsed
  have hbeside := ClaudeTranscriptCapture.beside_nil (agentStem environment path)
  obtain ⟨hnamed, hpath, hid, hroot, hmetrics⟩ := agentSession_ok hsession
  rw [← hstem] at hnamed hid
  have hmcp : session.transcriptMetrics.mcpToolCallCount = mcpUses
      (toolUses ((agentEvents environment "Claude" path).flatMap countedBlocks)) := by
    rw [hmetrics]
    exact hparsed.tallied.mcp
  have hsuitcode : session.transcriptMetrics.suitcodeToolCallCount = suitcodeUses
      (toolUses ((agentEvents environment "Claude" path).flatMap countedBlocks)) := by
    rw [hmetrics]
    exact hparsed.tallied.suitcode
  obtain ⟨hmcpSplit, hsuitcodeSplit⟩ :=
    uses_claudeBlocks (agentEvents environment "Claude" path)
  have hbuild : ClaudeTranscriptCapture.build environment path = (do
      let built ← (numberedEvents 1 lines).foldlM (fun state event =>
        ClaudeTranscriptCapture.captureEvent environment artifactPath event.1 event.2 state) {}
      TranscriptCapture.create ⟨built.sessionId.getD (agentStem environment path),
        built.repositoryRoot, artifactPath, built.capture.segments⟩) := by
    unfold ClaudeTranscriptCapture.build
    rw [hopen, ok_bind]
    dsimp only
    rw [foldAgentEvents_of_readable _ _ _ hreadable, hstem]
  have hbuilt : ∀ built, (numberedEvents 1 lines).foldlM (fun state event =>
      ClaudeTranscriptCapture.captureEvent environment artifactPath event.1 event.2 state) {} =
        .ok built →
      (∀ block ∈ (agentEvents environment "Claude" path).flatMap claudeBlocks,
          Fits ClaudeTranscriptCapture.rules block) ∧
        ClaudeTranscriptCapture.Beside (agentStem environment path)
          (agentEvents environment "Claude" path) parsed.repositoryRoot built := by
    intro built hrun
    have hrun := ClaudeTranscriptCapture.beside_run hstem hbeside hfold hrun
    rw [List.nil_append, ← hevents] at hrun
    exact hrun
  rw [hbuild]
  constructor
  · intro hyields
    obtain ⟨capture, hcapture, hagree⟩ := hyields.exists_ok
    obtain ⟨built, hrun, hcreate⟩ := bind_eq_ok.mp hcapture
    obtain ⟨hfits, hkept⟩ := hbuilt built hrun
    have hcaptured := hkept.captured _ fun _ => rfl
    have hsame : built.sessionId.getD (agentStem environment path) =
        capturedSession (agentStem environment path) (agentEvents environment "Claude" path) := by
      rw [hkept.sessionId]
      rfl
    rw [hsame, create_placed hcaptured.placed] at hcreate
    obtain ⟨-, hresult⟩ := hcreate
    have hcaptureId := hagree.sessionId
    have hmcpCalls := hagree.mcpCalls
    have hsuitcodeCalls := hagree.suitcodeCalls
    rw [← hresult] at hcaptureId hmcpCalls hsuitcodeCalls
    dsimp only at hcaptureId hmcpCalls hsuitcodeCalls
    rw [count_mcpSegments hcaptured.calls, hmcp, hmcpSplit] at hmcpCalls
    rw [count_suitcodeSegments hcaptured.calls, hsuitcode, hsuitcodeSplit] at hsuitcodeCalls
    obtain ⟨hregular, hothers⟩ := (fits_iff hparsed).mp hfits
    constructor
    · rw [hid] at hcaptureId
      exact (capturedSession_eq_iff hparsed).mp hcaptureId
    · exact hregular
    · apply (quiet_iff _).mp
      exact ⟨hothers, by omega, by omega⟩
  · intro halike
    obtain ⟨hothers, hnoMcp, hnoSuitcode⟩ := (quiet_iff _).mpr halike.uncounted
    have hfits := (fits_iff hparsed).mpr ⟨halike.counted, hothers⟩
    have hsameId := (capturedSession_eq_iff hparsed).mpr halike.sessionId
    have hblank : isBlank (capturedSession (agentStem environment path)
        (agentEvents environment "Claude" path)) = false := by
      rw [← isBlank_strip, hsameId, isBlank_strip]
      exact hnamed
    have hexists : ∃ built, (numberedEvents 1 lines).foldlM (fun state event =>
        ClaudeTranscriptCapture.captureEvent environment artifactPath event.1 event.2 state) {} =
          .ok built := by
      apply ClaudeTranscriptCapture.exists_built hstem hbeside hfold
      · rw [List.nil_append, ← hevents]
        exact hblank
      · rw [← hevents]
        exact hfits
    obtain ⟨built, hrun⟩ := hexists
    obtain ⟨-, hkept⟩ := hbuilt built hrun
    have hcaptured := hkept.captured _ fun _ => rfl
    have hsame : built.sessionId.getD (agentStem environment path) =
        capturedSession (agentStem environment path) (agentEvents environment "Claude" path) := by
      rw [hkept.sessionId]
      rfl
    rw [hrun, ok_bind, hsame, (create_placed hcaptured.placed).mpr ⟨⟨hblank, hpath⟩, rfl⟩]
    apply PyResult.Yields.ok
    constructor
    · rw [hid]
      exact hsameId
    · rw [hroot]
      exact hkept.root
    · rw [hmcp, count_mcpSegments hcaptured.calls, hmcpSplit, hnoMcp, Nat.add_zero]
    · rw [hsuitcode, count_suitcodeSegments hcaptured.calls, hsuitcodeSplit, hnoSuitcode,
        Nat.add_zero]

/-! ## A transcript of one call -/

/-- A machine with one transcript, in which a tool of the server `suitcode` is called. -/
def claudeCallEnvironment (toolName : String) : AgentEnvironment where
  resolvePath path := .ok path
  rolloutLines _ := some
    [.event
      [("type", .str "assistant"), ("sessionId", .str "s"), ("cwd", .str "/repo"),
        ("timestamp", .str "2025-01-01T00:00:00Z"),
        ("message", .obj [("role", .str "assistant"), ("content", .arr
          [.obj [("type", .str "tool_use"), ("id", .str "c"), ("name", .str toolName),
            ("server_name", .str "suitcode")]])])]]
  fromIsoFormat _ := .ok 0
  isoFormat _ := "1970-01-01T00:00:00Z"
  isoFormat_nonblank _ := CallSample.epoch_nonblank
  createdAt _ := 0
  modifiedAt _ := 0

def claudeCallSession (mcpToolCallCount : ℕ) : NativeSessionAnalytics where
  agentKind := .claude
  sessionId := CallSample.sessionId
  artifact :=
    { sessionId := "s"
      artifactPath := "/t.jsonl"
      repositoryRoot := some "/repo"
      startedAt := 0
      lastEventAt := 0
      cwd := some "/repo"
      cliVersion := none
      modelProvider := some "anthropic"
      eventCount := 1 }
  repositoryRoot := some "/repo"
  usedSuitcode := true
  suitcodeTools := [CallSample.toolUse]
  firstSuitcodeTool := some "repository_summary"
  firstSuitcodeToolIndex := some CallSample.toolIndex
  firstHighValueSuitcodeTool := some "repository_summary"
  firstHighValueSuitcodeToolIndex := some CallSample.toolIndex
  transcriptMetrics :=
    { eventCount := 1
      messageEventCount := 1
      toolEventCount := 1
      assistantMessageCount := 1
      mcpToolCallCount := mcpToolCallCount
      suitcodeToolCallCount := 1 }

theorem claudeReadersAgree_iff_oneCall :
    (ClaudeTranscriptCapture.build (claudeCallEnvironment "mcp__suitcode__repository_summary")
        "/t.jsonl").Yields (ClaudeReadersAgree (claudeCallSession 1)) ↔
      ClaudeReadAlike
        (agentStem (claudeCallEnvironment "mcp__suitcode__repository_summary") "/t.jsonl")
        (agentEvents (claudeCallEnvironment "mcp__suitcode__repository_summary") "Claude"
          "/t.jsonl") :=
  claudeReadersAgree_iff (by decide +kernel)

/-- The parser counts a call of `repository_summary` on the server `suitcode`; the builder
refuses it. -/
theorem claudeReaders_disagree_on_server :
    ∃ session,
      ClaudeSessionParser.parse (claudeCallEnvironment "repository_summary") "/t.jsonl" =
        .ok session ∧
      ¬ (ClaudeTranscriptCapture.build (claudeCallEnvironment "repository_summary")
        "/t.jsonl").Yields (ClaudeReadersAgree session) := by
  refine ⟨claudeCallSession 0, by decide +kernel, ?_⟩
  have hbuild : ClaudeTranscriptCapture.build (claudeCallEnvironment "repository_summary")
      "/t.jsonl" = raiseValueError "is_suitcode=True requires is_mcp=True" := by
    decide +kernel
  rw [hbuild]
  intro hyields
  obtain ⟨capture, hcapture, -⟩ := hyields.exists_ok
  exact absurd hcapture raiseValueError_ne_ok

end SuitCode
