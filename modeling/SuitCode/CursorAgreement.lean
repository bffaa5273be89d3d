import SuitCode.AnsweredCalls

/-!
# Where the two readers of Cursor transcripts agree

Both readers go over the same blocks in the same session.  A call without an id is put
into the builder's table under an id made of its place, which an explicit id may equal.
-/

namespace SuitCode

open PosixText KeyedList ExceptList

def cursorBlocks (event : RolloutMembers) : List AgentBlock :=
  let role := event.get "role"
  if role.isText "user" || role.isText "assistant" then
    match event.get "message" with
    | .obj message => messageBlocks role (RolloutMembers.get message "content")
    | _ => []
  else
    []

/-! ## The parser's run -/

namespace CursorSessionParser

variable {environment : CursorEnvironment} {artifactPath : String} {lineNumber : ℕ}
  {event : RolloutMembers} {before : List RolloutMembers} {state next : State}

structure Accepts (environment : CursorEnvironment) (artifactPath : String) (lineNumber : ℕ)
    (event : RolloutMembers) (state next : State) : Prop where
  instant : ∃ instant, cursorInstant environment artifactPath lineNumber event = .ok instant
  hashable : (event.get "role").isHashable = true
  named : ∀ block ∈ cursorBlocks event, Named false block
  tallied : ∀ uses, Tallied uses state.counts →
    Tallied (uses ++ toolUses (cursorBlocks event)) next.counts

theorem accepts_of_parseEvent
    (hparse : parseEvent environment artifactPath lineNumber event state = .ok next) :
    Accepts environment artifactPath lineNumber event state next := by
  unfold parseEvent at hparse
  obtain ⟨instant, hinstant, hparse⟩ := bind_eq_ok.mp hparse
  dsimp only at hparse
  cases hhashable : (event.get "role").isHashable with
  | false => simp [hhashable] at hparse
  | true =>
      rw [hhashable, Bool.not_true, if_neg (by simp)] at hparse
      -- an event without blocks leaves the tallies
      have hquiet : cursorBlocks event = [] →
          next.counts.metrics.mcpToolCallCount = state.counts.metrics.mcpToolCallCount →
          next.counts.metrics.suitcodeToolCallCount =
            state.counts.metrics.suitcodeToolCallCount →
          Accepts environment artifactPath lineNumber event state next := by
        intro hblocks hmcp hsuitcode
        refine ⟨⟨instant, hinstant⟩, hhashable, by simp [hblocks], ?_⟩
        intro uses htallied
        rw [hblocks]
        simpa [toolUses] using htallied.of_metrics hmcp hsuitcode
      cases hrole : (event.get "role").isText "user" || (event.get "role").isText "assistant" with
      | false =>
          rw [hrole, if_neg (by simp), pure_eq_ok] at hparse
          apply hquiet
          · simp [cursorBlocks, hrole]
          · rw [← hparse]
          · rw [← hparse]
      | true =>
          rw [hrole, if_pos rfl] at hparse
          cases hmessage : event.get "message" with
          | obj message =>
              simp only [hmessage] at hparse
              cases hcontent : RolloutMembers.get message "content" with
              | arr items =>
                  simp only [hcontent] at hparse
                  obtain ⟨counts, hcount, hnext⟩ := bind_eq_ok.mp hparse
                  rw [pure_eq_ok] at hnext
                  have hblocks : cursorBlocks event =
                      messageBlocks (event.get "role") (.arr items) := by
                    simp [cursorBlocks, hrole, hmessage, hcontent]
                  obtain ⟨hnamed, htallies⟩ := countBlocks_ok hcount
                  rw [← hnext]
                  refine ⟨⟨instant, hinstant⟩, hhashable, ?_, ?_⟩
                  · rw [hblocks]
                    exact hnamed
                  · intro uses htallied
                    obtain ⟨hmcp, hsuitcode⟩ := countRole_metrics (event.get "role")
                      { state.counts with
                        metrics :=
                          { state.counts.metrics with
                            eventCount := state.counts.metrics.eventCount + 1 } }
                    rw [hblocks]
                    exact htallies uses (htallied.of_metrics hmcp hsuitcode)
              | _ =>
                  simp only [hcontent, pure_eq_ok] at hparse
                  apply hquiet
                  · simp [cursorBlocks, hrole, hmessage, hcontent, messageBlocks]
                  · rw [← hparse]
                  · rw [← hparse]
          | _ =>
              simp only [hmessage, pure_eq_ok] at hparse
              apply hquiet
              · simp [cursorBlocks, hrole, hmessage]
              · rw [← hparse]
              · rw [← hparse]

structure Parsed (events : List RolloutMembers) (state : State) : Prop where
  named : ∀ block ∈ events.flatMap cursorBlocks, Named false block
  tallied : Tallied (toolUses (events.flatMap cursorBlocks)) state.counts

theorem parsed_nil : Parsed [] {} where
  named := by simp
  tallied := ⟨rfl, rfl⟩

theorem Parsed.snoc (hparsed : Parsed before state)
    (haccepts : Accepts environment artifactPath lineNumber event state next) :
    Parsed (before ++ [event]) next := by
  constructor
  · intro block hblock
    rw [List.flatMap_append, List.mem_append, List.flatMap_singleton] at hblock
    cases hblock with
    | inl hearlier => exact hparsed.named block hearlier
    | inr hlast => exact haccepts.named block hlast
  · rw [List.flatMap_append, toolUses_append, List.flatMap_singleton]
    exact haccepts.tallied _ hparsed.tallied

/-- The events of a run of the parser, which the builder can read as well. -/
def Readable (environment : CursorEnvironment) (artifactPath : String)
    (event : ℕ × RolloutMembers) : Prop :=
  (∃ instant, cursorInstant environment artifactPath event.1 event.2 = .ok instant) ∧
    (event.2.get "role").isHashable = true

theorem parsed_run {events : List (ℕ × RolloutMembers)} {last : State}
    (hparsed : Parsed before state)
    (hfold : events.foldlM (fun state event =>
      parseEvent environment artifactPath event.1 event.2 state) state = .ok last) :
    (∀ event ∈ events, Readable environment artifactPath event) ∧
      Parsed (before ++ events.map Prod.snd) last := by
  induction events generalizing before state with
  | nil =>
      simp only [List.foldlM_nil, pure_eq_ok] at hfold
      rw [← hfold, List.map_nil, List.append_nil]
      exact ⟨by simp, hparsed⟩
  | cons event events ih =>
      rw [List.foldlM_cons] at hfold
      obtain ⟨middle, hstep, hrest⟩ := bind_eq_ok.mp hfold
      have haccepts := accepts_of_parseEvent hstep
      obtain ⟨hreadable, hlast⟩ := ih (hparsed.snoc haccepts) hrest
      rw [List.forall_mem_cons]
      exact ⟨⟨⟨haccepts.instant, haccepts.hashable⟩, hreadable⟩, by simpa using hlast⟩

end CursorSessionParser

/-! ## The builder's run -/

namespace CursorTranscriptCapture

variable {environment : CursorEnvironment} {artifactPath sessionId : String}
  {event : ℕ × RolloutMembers} {events : List (ℕ × RolloutMembers)}
  {blocks : List AgentBlock} {state next : CaptureState}

theorem captureEvent_eq (sessionId : String) (state : CaptureState)
    (hreadable : CursorSessionParser.Readable environment artifactPath event) :
    ∃ placedBlocks : List PlacedBlock,
      placedBlocks.map PlacedBlock.block = cursorBlocks event.2 ∧
      (∀ placed ∈ placedBlocks, isBlank placed.timestamp = false) ∧
      captureEvent environment artifactPath sessionId event.1 event.2 state =
        placedBlocks.foldlM (captureBlock rules "Cursor" artifactPath sessionId) state := by
  obtain ⟨⟨instant, hinstant⟩, hhashable⟩ := hreadable
  unfold captureEvent timestampText
  rw [hinstant, ok_bind, pure_bind]
  dsimp only
  rw [hhashable, Bool.not_true, if_neg (by simp)]
  cases hrole : (event.2.get "role").isText "user" ||
      (event.2.get "role").isText "assistant" with
  | false =>
      refine ⟨[], ?_, by simp, ?_⟩
      · simp [cursorBlocks, hrole]
      · rw [if_neg (by simp)]
        rfl
  | true =>
      rw [if_pos rfl]
      cases hmessage : event.2.get "message" with
      | obj message =>
          refine ⟨_, ?_, ?_, rfl⟩
          · simp [cursorBlocks, hrole, hmessage, Function.comp_def]
          · intro placed hplaced
            obtain ⟨block, -, hsame⟩ := List.mem_map.mp hplaced
            rw [← hsame]
            exact environment.isoFormat_nonblank instant
      | _ => exact ⟨[], by simp [cursorBlocks, hrole, hmessage], by simp, rfl⟩

theorem captured_events
    (hreadable : ∀ event ∈ events, CursorSessionParser.Readable environment artifactPath event)
    (hcaptured : Captured rules sessionId blocks state)
    (hrun : events.foldlM (fun state event =>
      captureEvent environment artifactPath sessionId event.1 event.2 state) state = .ok next) :
    (∀ block ∈ (events.map Prod.snd).flatMap cursorBlocks, Fits rules block) ∧
      Captured rules sessionId (blocks ++ (events.map Prod.snd).flatMap cursorBlocks) next := by
  induction events generalizing blocks state with
  | nil =>
      simp only [List.foldlM_nil, pure_eq_ok] at hrun
      rw [← hrun]
      simpa using hcaptured
  | cons event events ih =>
      rw [List.forall_mem_cons] at hreadable
      rw [List.foldlM_cons] at hrun
      obtain ⟨middle, hstep, hrest⟩ := bind_eq_ok.mp hrun
      obtain ⟨placedBlocks, hblocks, -, heq⟩ := captureEvent_eq sessionId state hreadable.1
      rw [heq] at hstep
      obtain ⟨hfits, hmiddle⟩ := captured_run hcaptured hstep
      rw [hblocks] at hmiddle
      obtain ⟨hall, hlast⟩ := ih hreadable.2 hmiddle hrest
      rw [List.map_cons, List.flatMap_cons, ← List.append_assoc]
      refine ⟨?_, hlast⟩
      intro block hblock
      rw [List.mem_append, ← hblocks] at hblock
      cases hblock with
      | inl hfirst =>
          obtain ⟨placed, hplaced, hsame⟩ := List.mem_map.mp hfirst
          rw [← hsame]
          exact hfits placed hplaced
      | inr hlater => exact hall block hlater

theorem exists_captured_events (hsession : isBlank sessionId = false)
    (hreadable : ∀ event ∈ events, CursorSessionParser.Readable environment artifactPath event)
    (hcaptured : Captured rules sessionId blocks state)
    (hfits : ∀ block ∈ (events.map Prod.snd).flatMap cursorBlocks, Fits rules block) :
    ∃ next, events.foldlM (fun state event =>
      captureEvent environment artifactPath sessionId event.1 event.2 state) state =
        .ok next := by
  induction events generalizing blocks state with
  | nil => exact ⟨state, rfl⟩
  | cons event events ih =>
      rw [List.forall_mem_cons] at hreadable
      simp only [List.map_cons, List.flatMap_cons, List.mem_append] at hfits
      obtain ⟨placedBlocks, hblocks, htimes, heq⟩ :=
        captureEvent_eq sessionId state hreadable.1
      have hnow : ∀ placed ∈ placedBlocks, Fits rules placed.block := by
        intro placed hplaced
        apply hfits
        rw [← hblocks]
        exact .inl (List.mem_map_of_mem hplaced)
      obtain ⟨middle, hstep⟩ := exists_run "Cursor" artifactPath hsession htimes hcaptured hnow
      obtain ⟨-, hmiddle⟩ := captured_run hcaptured hstep
      obtain ⟨next, hrest⟩ := ih hreadable.2 hmiddle fun block hblock =>
        hfits block (.inr hblock)
      rw [List.foldlM_cons, heq, hstep, ok_bind]
      exact ⟨next, hrest⟩

end CursorTranscriptCapture

/-! ## The agreement -/

/-- The capture has as many calls of MCP and SuitCode tools as the session, and each of
its outputs carries the tool of the latest call which was given the output's id. -/
structure CursorReadersAgree (session : NativeSessionAnalytics) (blocks : List AgentBlock)
    (capture : TranscriptCapture) : Prop where
  mcpCalls : (capture.segments.filter fun segment => segment.kind = .mcpToolCall).length =
    session.transcriptMetrics.mcpToolCallCount
  suitcodeCalls : (capture.segments.filter fun segment =>
      CodexTranscriptCapture.isCallSegment segment && segment.isSuitcode).length =
    session.transcriptMetrics.suitcodeToolCallCount
  outputs : (capture.segments.filter isOutputSegment).map outputFacts =
    (explicitOutputs blocks).map answered

/-- No text is white space alone, a SuitCode tool has the name of an MCP tool, and no call
without an id is in the way of a result. -/
structure CursorReadAlike (sessionId : String) (blocks : List AgentBlock) : Prop where
  texts : ∀ text, AgentBlock.text text ∈ blocks → text = "" ∨ isBlank text = false
  tools : ∀ use ∈ toolUses blocks, use.IsRegular
  results : ∀ before members after callId, blocks = before ++ .toolResult members :: after →
    resultCallId members = some callId →
      NoneInTheWay CursorTranscriptCapture.rules sessionId before callId

def transcriptBlocks (environment : CursorEnvironment) (path : String) : List AgentBlock :=
  (agentEvents environment.toAgentEnvironment "Cursor" path).flatMap cursorBlocks

/-- The session id which the store gives to the transcript at a path. -/
def storedSession (environment : CursorEnvironment) (path : String) : String :=
  match environment.resolvePath path with
  | .error _ => ""
  | .ok artifactPath =>
      match CursorSessionStore.sessionMeta environment artifactPath with
      | .error _ => ""
      | .ok (sessionId, _) => sessionId

theorem fits_cursor_iff {blocks : List AgentBlock}
    (hnamed : ∀ block ∈ blocks, Named false block) :
    (∀ block ∈ blocks, Fits CursorTranscriptCapture.rules block) ↔
      (∀ text, AgentBlock.text text ∈ blocks → text = "" ∨ isBlank text = false) ∧
        ∀ use ∈ toolUses blocks, use.IsRegular := by
  constructor
  · intro hfits
    constructor
    · intro text hmem
      have hthis := ((fits_iff_of_named (hnamed _ hmem)).mp (hfits _ hmem)).1 text rfl
      by_cases hempty : text = ""
      · exact .inl hempty
      · exact .inr (hthis (by simpa [CursorTranscriptCapture.rules] using hempty))
    · intro use huse
      rcases List.mem_filterMap.mp huse with ⟨block, hblock, hused⟩
      exact ((fits_iff_of_named (hnamed block hblock)).mp (hfits block hblock)).2 use hused
  · intro hboth block hblock
    apply (fits_iff_of_named (hnamed block hblock)).mpr
    constructor
    · intro text hsame hkeeps
      cases hboth.1 text (hsame ▸ hblock) with
      | inl hempty => simp [CursorTranscriptCapture.rules, hempty] at hkeeps
      | inr hblank => exact hblank
    · intro use huse
      exact hboth.2 use (List.mem_filterMap.mpr ⟨block, hblock, huse⟩)

theorem outputs_eq_iff {sessionId : String} {blocks : List AgentBlock} {state : CaptureState}
    (hcaptured : Captured CursorTranscriptCapture.rules sessionId blocks state) :
    (state.segments.filter isOutputSegment).map outputFacts =
        (explicitOutputs blocks).map answered ↔
      ∀ before members after callId, blocks = before ++ .toolResult members :: after →
        resultCallId members = some callId →
          NoneInTheWay CursorTranscriptCapture.rules sessionId before callId := by
  have hanswered : Function.Injective answered := by
    intro first second hsame
    simp only [answered, Prod.mk.injEq, Option.some.injEq] at hsame
    exact Prod.ext hsame.1 hsame.2
  rw [hcaptured.outputs, (List.map_injective_iff.mpr hanswered).eq_iff,
    outputs_readBlocks (fun _ => rfl), outputsBy_table_eq_iff]

/-- A transcript the session parser accepts is captured with as many calls and with outputs
of the calls which were given their ids exactly when the two readers read it alike. -/
theorem cursorReadersAgree_iff {environment : CursorEnvironment} {path : String}
    {session : NativeSessionAnalytics}
    (hparse : CursorSessionParser.parse environment path = .ok session) :
    (CursorTranscriptCapture.build environment path).Yields
        (CursorReadersAgree session (transcriptBlocks environment path)) ↔
      CursorReadAlike (storedSession environment path) (transcriptBlocks environment path) := by
  unfold CursorSessionParser.parse at hparse
  rcases bind_eq_ok.mp hparse with ⟨⟨artifactPath, lines⟩, hopen, hparse⟩
  rcases bind_eq_ok.mp hparse with ⟨⟨sessionId, root⟩, hstore, hparse⟩
  rcases bind_eq_ok.mp hparse with ⟨parsed, hfold, hsession⟩
  have hreadable := isReadable_of_foldAgentEvents hfold
  rw [foldAgentEvents_of_readable _ _ _ hreadable] at hfold
  have hevents : agentEvents environment.toAgentEnvironment "Cursor" path =
      (numberedEvents 1 lines).map Prod.snd := by
    unfold agentEvents
    rw [hopen]
  have hstored : storedSession environment path = sessionId := by
    unfold openAgentArtifact at hopen
    rcases bind_eq_ok.mp hopen with ⟨resolved, hresolved, hlines⟩
    unfold storedSession
    rw [hresolved]
    cases hfile : environment.rolloutLines resolved with
    | none => simp [hfile] at hlines
    | some found =>
        simp only [hfile, pure_eq_ok, Prod.mk.injEq] at hlines
        rw [hlines.1]
        dsimp only
        rw [hstore]
  have hblocks : transcriptBlocks environment path =
      ((numberedEvents 1 lines).map Prod.snd).flatMap cursorBlocks := by
    unfold transcriptBlocks
    rw [hevents]
  rcases CursorSessionParser.parsed_run CursorSessionParser.parsed_nil hfold with
    ⟨hevent, hparsed⟩
  rw [List.nil_append] at hparsed
  have hnamed := hparsed.named
  have htallied := hparsed.tallied
  rcases agentSession_ok hsession with ⟨hblank, hpath, -, -, hmetrics⟩
  have hbuild : CursorTranscriptCapture.build environment path = (do
      let built ← (numberedEvents 1 lines).foldlM (fun state event =>
        CursorTranscriptCapture.captureEvent environment artifactPath sessionId event.1 event.2
          state) {}
      TranscriptCapture.create ⟨sessionId, root, artifactPath, built.segments⟩) := by
    unfold CursorTranscriptCapture.build
    rw [hopen, ok_bind]
    dsimp only
    rw [hstore, ok_bind]
    dsimp only
    rw [foldAgentEvents_of_readable _ _ _ hreadable]
  have hstart := captured_nil CursorTranscriptCapture.rules sessionId
  rw [hbuild, hstored, hblocks]
  rw [← hblocks] at hnamed htallied ⊢
  constructor
  · intro hyields
    rcases hyields.exists_ok with ⟨capture, hcapture, hagree⟩
    rcases bind_eq_ok.mp hcapture with ⟨built, hrun, hcreate⟩
    rcases CursorTranscriptCapture.captured_events hevent hstart hrun with ⟨hfits, hcaptured⟩
    rw [← hblocks] at hfits
    rw [List.nil_append, ← hblocks] at hcaptured
    rw [create_placed hcaptured.placed] at hcreate
    have houtputs := hagree.outputs
    rw [← hcreate.2] at houtputs
    have htextsTools := (fits_cursor_iff hnamed).mp hfits
    exact ⟨htextsTools.1, htextsTools.2, (outputs_eq_iff hcaptured).mp houtputs⟩
  · intro halike
    have hfits := (fits_cursor_iff hnamed).mpr ⟨halike.texts, halike.tools⟩
    rw [hblocks] at hfits
    rcases CursorTranscriptCapture.exists_captured_events hblank hevent hstart hfits with
      ⟨built, hrun⟩
    rcases CursorTranscriptCapture.captured_events hevent hstart hrun with ⟨-, hcaptured⟩
    rw [List.nil_append, ← hblocks] at hcaptured
    rw [hrun, ok_bind, (create_placed hcaptured.placed).mpr ⟨⟨hblank, hpath⟩, rfl⟩]
    apply PyResult.Yields.ok
    constructor
    · rw [hmetrics, htallied.mcp]
      exact count_mcpSegments hcaptured.calls
    · rw [hmetrics, htallied.suitcode]
      exact count_suitcodeSegments hcaptured.calls
    · exact (outputs_eq_iff hcaptured).mpr halike.results

/-! ## A transcript of one text -/

def cursorTextEnvironment (text : String) : CursorEnvironment where
  resolvePath path := .ok path
  rolloutLines _ := some
    [.event [("role", .str "user"), ("timestamp", .str "2025-01-01T00:00:00Z"),
      ("message", .obj [("content", .arr [.obj [("type", .str "text"), ("text", .str text)]])])],
      .event [("role", .str "assistant"), ("timestamp", .str "2025-01-01T00:00:00Z"),
        ("message", .obj [("content", .arr
          [.obj [("type", .str "tool_use"), ("id", .str "c"),
              ("name", .str "mcp__suitcode__repository_summary")],
            .obj [("type", .str "tool_result"), ("tool_use_id", .str "c"),
              ("content", .str "done")]])])]]
  fromIsoFormat _ := .ok 0
  isoFormat _ := "1970-01-01T00:00:00Z"
  isoFormat_nonblank _ := CallSample.epoch_nonblank
  createdAt _ := 0
  modifiedAt _ := 0
  workerLog _ := some ["started", "workspacePath=/repo"]

def cursorTextSession : NativeSessionAnalytics where
  agentKind := .cursor
  sessionId := CallSample.sessionId
  artifact :=
    { sessionId := "s"
      artifactPath := "/p/agent-transcripts/s.jsonl"
      repositoryRoot := some "/repo"
      startedAt := 0
      lastEventAt := 0
      cwd := some "/repo"
      cliVersion := none
      modelProvider := some "cursor"
      eventCount := 2 }
  repositoryRoot := some "/repo"
  usedSuitcode := true
  suitcodeTools := [CallSample.toolUse]
  firstSuitcodeTool := some "repository_summary"
  firstSuitcodeToolIndex := some CallSample.toolIndex
  firstHighValueSuitcodeTool := some "repository_summary"
  firstHighValueSuitcodeToolIndex := some CallSample.toolIndex
  transcriptMetrics :=
    { eventCount := 2
      messageEventCount := 2
      toolEventCount := 1
      assistantMessageCount := 1
      userMessageCount := 1
      mcpToolCallCount := 1
      suitcodeToolCallCount := 1
      approxInputCharacters := 2 }

theorem cursorReadersAgree_iff_oneText :
    (CursorTranscriptCapture.build (cursorTextEnvironment "hi")
        "/p/agent-transcripts/s.jsonl").Yields
        (CursorReadersAgree cursorTextSession
          (transcriptBlocks (cursorTextEnvironment "hi") "/p/agent-transcripts/s.jsonl")) ↔
      CursorReadAlike
        (storedSession (cursorTextEnvironment "hi") "/p/agent-transcripts/s.jsonl")
        (transcriptBlocks (cursorTextEnvironment "hi") "/p/agent-transcripts/s.jsonl") :=
  cursorReadersAgree_iff (by decide +kernel)

/-- The parser counts two blanks; the builder refuses them. -/
theorem cursorReaders_disagree_on_blanks :
    ∃ session,
      CursorSessionParser.parse (cursorTextEnvironment "  ") "/p/agent-transcripts/s.jsonl" =
        .ok session ∧
      ¬ (CursorTranscriptCapture.build (cursorTextEnvironment "  ")
        "/p/agent-transcripts/s.jsonl").Yields
          (CursorReadersAgree session
            (transcriptBlocks (cursorTextEnvironment "  ") "/p/agent-transcripts/s.jsonl")) := by
  refine ⟨cursorTextSession, by decide +kernel, ?_⟩
  have hbuild : CursorTranscriptCapture.build (cursorTextEnvironment "  ")
      "/p/agent-transcripts/s.jsonl" = raiseValueError "value must not be empty" := by
    decide +kernel
  rw [hbuild]
  intro hyields
  rcases hyields.exists_ok with ⟨capture, hcapture, -⟩
  exact absurd hcapture raiseValueError_ne_ok

end SuitCode
