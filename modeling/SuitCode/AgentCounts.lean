import SuitCode.AgentCaptures

/-!
# Counts and captures of the same blocks

A session parser counts the tools which some blocks use, a capture has a call segment for
each of them.
-/

namespace SuitCode

open PosixText KeyedList ExceptList
open CodexTranscriptCapture (isCallSegment callFacts)

/-! ## Counting -/

structure Tallied (uses : List ToolUse) (counts : AgentCounts) : Prop where
  mcp : counts.metrics.mcpToolCallCount = mcpUses uses
  suitcode : counts.metrics.suitcodeToolCallCount = suitcodeUses uses

/-- A use of a tool which a parser counts has a name with a SuitCode name or none. -/
def Named (refusesName : Bool) (block : AgentBlock) : Prop :=
  match block with
  | .text _ => True
  | .toolUse members =>
      match usedToolName members with
      | none => refusesName = false
      | some toolName =>
          ∃ name, canonicalServerToolName toolName (serverNameOf members) = .ok name
  | .toolResult _ => True
  | .other => True

variable {refusesName : Bool} {agent artifactPath : String} {lineNumber : ℕ} {timestamp : ℤ}
  {role : RolloutValue} {uses : List ToolUse} {counts next : AgentCounts} {block : AgentBlock}

theorem Tallied.of_metrics (htallied : Tallied uses counts)
    (hmcp : next.metrics.mcpToolCallCount = counts.metrics.mcpToolCallCount)
    (hsuitcode : next.metrics.suitcodeToolCallCount = counts.metrics.suitcodeToolCallCount) :
    Tallied uses next where
  mcp := by rw [hmcp, htallied.mcp]
  suitcode := by rw [hsuitcode, htallied.suitcode]

theorem countText_metrics (role : RolloutValue) (text : String) (counts : AgentCounts) :
    (countText role text counts).metrics.mcpToolCallCount = counts.metrics.mcpToolCallCount ∧
      (countText role text counts).metrics.suitcodeToolCallCount =
        counts.metrics.suitcodeToolCallCount := by
  unfold countText
  cases huser : role.isText "user" <;> simp

theorem countRole_metrics (role : RolloutValue) (counts : AgentCounts) :
    (countRole role counts).metrics.mcpToolCallCount = counts.metrics.mcpToolCallCount ∧
      (countRole role counts).metrics.suitcodeToolCallCount =
        counts.metrics.suitcodeToolCallCount := by
  unfold countRole
  cases huser : role.isText "user" <;> simp

theorem countSuitcodeCall_metrics (name : String) (timestamp : ℤ) (index : ℕ)
    (counts : AgentCounts) :
    (CodexSessionParser.countSuitcodeCall name timestamp index counts).metrics =
      { counts.metrics with
        suitcodeToolCallCount := counts.metrics.suitcodeToolCallCount + 1 } := by
  unfold CodexSessionParser.countSuitcodeCall CodexSessionParser.noteFirstHighValue
    CodexSessionParser.noteFirst
  split_ifs <;> rfl

theorem tallied_countNamedTool (htallied : Tallied uses counts) (timestamp : ℤ)
    (use : ToolUse) :
    Tallied (uses ++ [use]) (countNamedTool timestamp use.1 use.2 (countToolEvent counts)) := by
  have hmcp : (countNamedTool timestamp use.1 use.2
      (countToolEvent counts)).metrics.mcpToolCallCount =
        counts.metrics.mcpToolCallCount + if isMcpToolName use.1 then 1 else 0 := by
    unfold countNamedTool
    cases hname : use.2 with
    | none => rfl
    | some name =>
        dsimp only
        rw [countSuitcodeCall_metrics]
        rfl
  have hsuitcode : (countNamedTool timestamp use.1 use.2
      (countToolEvent counts)).metrics.suitcodeToolCallCount =
        counts.metrics.suitcodeToolCallCount + if use.2.isSome then 1 else 0 := by
    unfold countNamedTool
    cases hname : use.2 with
    | none => rfl
    | some name =>
        dsimp only
        rw [countSuitcodeCall_metrics]
        rfl
  constructor
  · rw [hmcp, mcpUses_append, htallied.mcp]
    simp [mcpUses, List.countP_cons]
  · rw [hsuitcode, suitcodeUses_append, htallied.suitcode]
    simp [suitcodeUses, List.countP_cons]

theorem countBlock_ok
    (hcount : countBlock refusesName agent artifactPath lineNumber timestamp role counts block =
      .ok next) :
    Named refusesName block ∧
      ∀ uses, Tallied uses counts → Tallied (uses ++ block.toolUse?.toList) next := by
  unfold countBlock at hcount
  cases block with
  | text text =>
      simp only [Except.ok.injEq] at hcount
      rw [← hcount]
      refine ⟨trivial, fun uses htallied => ?_⟩
      obtain ⟨hmcp, hsuitcode⟩ := countText_metrics role text counts
      simpa [AgentBlock.toolUse?] using htallied.of_metrics hmcp hsuitcode
  | toolUse members =>
      simp only at hcount
      cases hname : usedToolName members with
      | none =>
          simp only [hname] at hcount
          cases hrefuses : refusesName with
          | true => simp [hrefuses] at hcount
          | false =>
              rw [hrefuses, if_neg (by simp), Except.ok.injEq] at hcount
              rw [← hcount]
              refine ⟨by simp [Named, hname], fun uses htallied => ?_⟩
              have hcounted : Tallied uses (countToolEvent counts) :=
                htallied.of_metrics rfl rfl
              simpa [AgentBlock.toolUse?, hname] using hcounted
      | some toolName =>
          simp only [hname] at hcount
          obtain ⟨canonicalName, hcanonical, hnext⟩ := bind_eq_ok.mp hcount
          rw [pure_eq_ok] at hnext
          rw [← hnext]
          have huse : (AgentBlock.toolUse members).toolUse?.toList =
              [(toolName, canonicalName)] := by
            simp [AgentBlock.toolUse?, hname, blockUse, canonicalNameOf_eq hcanonical]
          constructor
          · simp only [Named, hname]
            exact ⟨canonicalName, hcanonical⟩
          · intro uses htallied
            rw [huse]
            exact tallied_countNamedTool htallied timestamp (toolName, canonicalName)
  | toolResult members =>
      simp only [Except.ok.injEq] at hcount
      rw [← hcount]
      exact ⟨trivial, fun uses htallied => by simpa [AgentBlock.toolUse?] using htallied⟩
  | other =>
      simp only [Except.ok.injEq] at hcount
      rw [← hcount]
      exact ⟨trivial, fun uses htallied => by simpa [AgentBlock.toolUse?] using htallied⟩

theorem countBlocks_ok {blocks : List AgentBlock}
    (hcount : blocks.foldlM
      (countBlock refusesName agent artifactPath lineNumber timestamp role) counts = .ok next) :
    (∀ block ∈ blocks, Named refusesName block) ∧
      ∀ uses, Tallied uses counts → Tallied (uses ++ toolUses blocks) next := by
  induction blocks generalizing counts with
  | nil =>
      simp only [List.foldlM_nil, pure_eq_ok] at hcount
      rw [← hcount]
      simp [toolUses]
  | cons block blocks ih =>
      rw [List.foldlM_cons] at hcount
      obtain ⟨middle, hstep, hrest⟩ := bind_eq_ok.mp hcount
      obtain ⟨hnamed, hmiddle⟩ := countBlock_ok hstep
      obtain ⟨hall, hnext⟩ := ih hrest
      rw [List.forall_mem_cons]
      refine ⟨⟨hnamed, hall⟩, fun uses htallied => ?_⟩
      have huses : toolUses (block :: blocks) = block.toolUse?.toList ++ toolUses blocks := by
        cases huse : block.toolUse? <;> simp [toolUses, huse]
      rw [huses, ← List.append_assoc]
      exact hnext _ (hmiddle uses htallied)

/-- A block fits the builder where its text is not blank and its tool is a regular one. -/
theorem fits_iff_of_named {rules : CaptureRules} (hnamed : Named rules.refusesName block) :
    Fits rules block ↔
      (∀ text, block = .text text → rules.keepsText text = true → isBlank text = false) ∧
        ∀ use, block.toolUse? = some use → use.IsRegular := by
  cases block with
  | text text => simp [Fits, AgentBlock.toolUse?]
  | toolUse members =>
      cases hname : usedToolName members with
      | none =>
          simp only [Named, hname] at hnamed
          simp [Fits, AgentBlock.toolUse?, hname, hnamed]
      | some toolName =>
          simp only [Named, hname] at hnamed
          simp [Fits, AgentBlock.toolUse?, hname, hnamed]
  | toolResult members => simp [Fits, AgentBlock.toolUse?]
  | other => simp [Fits, AgentBlock.toolUse?]

/-! ## The session -/

/-- The events of the transcript at a path, none where it cannot be read. -/
def agentEvents (environment : AgentEnvironment) (agent path : String) : List RolloutMembers :=
  match openAgentArtifact environment agent path with
  | .ok (_, lines) => (numberedEvents 1 lines).map Prod.snd
  | .error _ => []

theorem agentSession_ok {agentKind : NativeAgentKind} {modelProvider sessionId : String}
    {repositoryRoot : Option String} {startedAt lastEventAt : ℤ}
    {session : NativeSessionAnalytics}
    (hsession : agentSession agentKind modelProvider artifactPath sessionId repositoryRoot
      startedAt lastEventAt counts = .ok session) :
    isBlank sessionId = false ∧ isBlank artifactPath = false ∧
      session.sessionId.val = strip sessionId ∧ session.repositoryRoot = repositoryRoot ∧
      session.transcriptMetrics = counts.metrics := by
  unfold agentSession at hsession
  obtain ⟨suitcodeTools, -, hsession⟩ := bind_eq_ok.mp hsession
  obtain ⟨artifact, hartifact, hsession⟩ := bind_eq_ok.mp hsession
  obtain ⟨-, hchecks⟩ := validated_eq_ok.mp hartifact
  simp only [List.forall_mem_cons] at hchecks
  unfold NativeSessionAnalytics.create at hsession
  by_cases hblank : isBlank sessionId = true
  · simp [hblank] at hsession
  · rw [dif_neg hblank] at hsession
    dsimp only at hsession
    obtain ⟨hresult, -⟩ := validated_eq_ok.mp hsession
    rw [← hresult]
    exact ⟨hchecks.1, hchecks.2.1, rfl, rfl, rfl⟩

/-! ## The capture -/

variable {segments : List TranscriptSegment}

/-- Segments which are placed in turn make a capture where its session and its artifact have names.
-/
theorem create_placed {sessionId : String} {repositoryRoot : Option String}
    {capture : TranscriptCapture} (hplaced : PlacedFrom sessionId 1 segments) :
    TranscriptCapture.create ⟨sessionId, repositoryRoot, artifactPath, segments⟩ =
        .ok capture ↔
      (isBlank sessionId = false ∧ isBlank artifactPath = false) ∧
        ⟨strip sessionId, repositoryRoot, strip artifactPath, segments⟩ = capture := by
  unfold TranscriptCapture.create
  constructor
  · intro hcreate
    obtain ⟨checked, hchecked, hrest⟩ := bind_eq_ok.mp hcreate
    obtain ⟨hresult, hchecks⟩ := validated_eq_ok.mp hchecked
    simp only [List.forall_mem_cons] at hchecks
    obtain ⟨-, -, hcapture⟩ := bind_eq_ok.mp hrest
    rw [pure_eq_ok] at hcapture
    exact ⟨⟨hchecks.1, hchecks.2.1⟩, hresult.trans hcapture⟩
  · rintro ⟨⟨hsession, hpath⟩, hcapture⟩
    rw [validated_eq_ok.mpr ⟨rfl, by simp [hsession, hpath]⟩, ok_bind]
    dsimp only
    rw [validateSegments_of_placed hsession (by simp) hplaced, ok_bind, hcapture]
    rfl

theorem count_mcpSegments
    (hcalls : (segments.filter isCallSegment).map callFacts = uses.map useFacts) :
    (segments.filter fun segment => segment.kind = .mcpToolCall).length = mcpUses uses := by
  have hfacts := congrArg (List.countP fun facts => decide (facts.1 = .mcpToolCall)) hcalls
  rw [List.countP_map, List.countP_map, List.countP_filter, List.countP_eq_length_filter]
    at hfacts
  calc
    (segments.filter fun segment => segment.kind = .mcpToolCall).length =
        (segments.filter fun segment =>
          ((fun facts => decide (facts.1 = TranscriptSegmentKind.mcpToolCall)) ∘ callFacts)
            segment && isCallSegment segment).length := by
      congr 2
      funext segment
      cases hkind : segment.kind <;> simp [callFacts, isCallSegment, hkind]
    _ = _ := hfacts
    _ = mcpUses uses := by
      unfold mcpUses
      congr 1
      funext use
      cases hname : isMcpToolName use.1 <;> simp [useFacts, hname]

theorem count_suitcodeSegments
    (hcalls : (segments.filter isCallSegment).map callFacts = uses.map useFacts) :
    (segments.filter fun segment => isCallSegment segment && segment.isSuitcode).length =
      suitcodeUses uses := by
  have hfacts := congrArg (List.countP fun facts => facts.2.1) hcalls
  rw [List.countP_map, List.countP_map, List.countP_filter, List.countP_eq_length_filter]
    at hfacts
  calc
    (segments.filter fun segment => isCallSegment segment && segment.isSuitcode).length =
        _ := by
      congr 2
      funext segment
      rw [Bool.and_comm]
      rfl
    _ = _ := hfacts

end SuitCode
