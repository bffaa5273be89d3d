import SuitCode.AgentTranscripts

/-!
# Captures of Claude and Cursor

What a capture builder makes of a list of blocks depends on the blocks alone: how many
segments there are, which call an id stands for, and whether a block is refused.
-/

namespace SuitCode

open PosixText KeyedList ExceptList
open CodexTranscriptCapture (isCallSegment callFacts placed_stripped isBlank_labelled)

/-! ## The tools a list of blocks uses -/

abbrev ToolUse := String × Option String

def canonicalNameOf (toolName : String) (serverName : Option String) : Option String :=
  match canonicalServerToolName toolName serverName with
  | .ok name => name
  | .error _ => none

def blockUse (block : RolloutMembers) (toolName : String) : ToolUse :=
  (toolName, canonicalNameOf toolName (serverNameOf block))

def AgentBlock.toolUse? : AgentBlock → Option ToolUse
  | .toolUse block => (usedToolName block).map (blockUse block)
  | _ => none

def toolUses (blocks : List AgentBlock) : List ToolUse := blocks.filterMap AgentBlock.toolUse?

def mcpUses (uses : List ToolUse) : ℕ := uses.countP fun use => isMcpToolName use.1

def suitcodeUses (uses : List ToolUse) : ℕ := uses.countP fun use => use.2.isSome

def ToolUse.IsRegular (use : ToolUse) : Prop := use.2.isSome = true → isMcpToolName use.1 = true

instance (use : ToolUse) : Decidable use.IsRegular :=
  inferInstanceAs (Decidable (_ → _))

variable {toolName timestamp : String}

theorem isRegular_blockUse {block : RolloutMembers} :
    (blockUse block toolName).IsRegular ↔
      ((canonicalNameOf toolName (serverNameOf block)).isSome = true →
        isMcpToolName toolName = true) := by
  simp only [ToolUse.IsRegular, blockUse]

theorem isBlank_usedToolName {block : RolloutMembers} (hname : usedToolName block = some toolName) :
    isBlank toolName = false :=
  isBlank_of_optionalNonEmpty hname

theorem canonicalNameOf_eq {serverName name : Option String}
    (hcanonical : canonicalServerToolName toolName serverName = .ok name) :
    canonicalNameOf toolName serverName = name := by
  unfold canonicalNameOf
  rw [hcanonical]

theorem toolUses_append (before after : List AgentBlock) :
    toolUses (before ++ after) = toolUses before ++ toolUses after := by
  simp [toolUses]

theorem mcpUses_append (before after : List ToolUse) :
    mcpUses (before ++ after) = mcpUses before + mcpUses after := by
  simp [mcpUses]

theorem suitcodeUses_append (before after : List ToolUse) :
    suitcodeUses (before ++ after) = suitcodeUses before + suitcodeUses after := by
  simp [suitcodeUses]

theorem toolUses_snoc (blocks : List AgentBlock) (block : AgentBlock) :
    toolUses (blocks ++ [block]) = toolUses blocks ++ block.toolUse?.toList := by
  rw [toolUses_append]
  cases huse : block.toolUse? with
  | none => simp [toolUses, huse]
  | some use => simp [toolUses, huse]

/-! ## What segments say -/

def useFacts (use : ToolUse) : TranscriptSegmentKind × Bool × Option String :=
  (if isMcpToolName use.1 then .mcpToolCall else .customToolCall, use.2.isSome, use.2)

def isOutputSegment (segment : TranscriptSegment) : Bool :=
  segment.kind = .mcpToolOutput || segment.kind = .customToolOutput

def outputFacts (segment : TranscriptSegment) : Option String × Option String :=
  ((leader? Prod.fst segment.metadata "call_id").map Prod.snd, segment.toolName)

def answered (output : String × String) : Option String × Option String :=
  (some output.1, some output.2)

/-! ## Reading the blocks without making segments -/

structure CaptureReading where
  count : ℕ := 0
  calls : List CallEntry := []
  outputs : List (String × String) := []
  deriving DecidableEq, Repr

def readBlock (rules : CaptureRules) (sessionId : String) (reading : CaptureReading)
    (block : AgentBlock) : CaptureReading :=
  match block with
  | .text text =>
      if rules.keepsText text then { reading with count := reading.count + 1 } else reading
  | .toolUse members =>
      match usedToolName members with
      | none => reading
      | some toolName =>
          { reading with
            count := reading.count + 1
            calls := KeyedTable.upsertRows CallEntry.callId
              (callEntry (callIdAt sessionId reading.count members) toolName
                (canonicalNameOf toolName (serverNameOf members))) reading.calls }
  | .toolResult members =>
      match resultEntry reading.calls members with
      | none => reading
      | some entry =>
          if rules.keepsOutput (toolResultText (members.get "content")) then
            { reading with
              count := reading.count + 1
              outputs := reading.outputs ++ [(entry.callId, entry.toolName)] }
          else reading
  | .other => reading

def readBlocks (rules : CaptureRules) (sessionId : String) (blocks : List AgentBlock) :
    CaptureReading :=
  blocks.foldl (readBlock rules sessionId) {}

theorem readBlocks_snoc (rules : CaptureRules) (sessionId : String) (blocks : List AgentBlock)
    (block : AgentBlock) :
    readBlocks rules sessionId (blocks ++ [block]) =
      readBlock rules sessionId (readBlocks rules sessionId blocks) block := by
  rw [readBlocks, List.foldl_append]
  rfl

def Fits (rules : CaptureRules) (block : AgentBlock) : Prop :=
  match block with
  | .text text => rules.keepsText text = true → isBlank text = false
  | .toolUse members =>
      match usedToolName members with
      | none => rules.refusesName = false
      | some toolName =>
          (∃ name, canonicalServerToolName toolName (serverNameOf members) = .ok name) ∧
            (blockUse members toolName).IsRegular
  | .toolResult _ => True
  | .other => True

/-! ## The builder's state -/

/-- The data of a call which its output repeats. -/
structure CallEntry.Sound (entry : CallEntry) : Prop where
  named : isBlank entry.toolName = false
  canonical : entry.canonicalToolName.isSome = true → entry.isSuitcode = true
  mcp : entry.isSuitcode = true → entry.isMcp = true

structure Captured (rules : CaptureRules) (sessionId : String) (blocks : List AgentBlock)
    (state : CaptureState) : Prop where
  count : (readBlocks rules sessionId blocks).count = state.sequenceIndex
  index : (readBlocks rules sessionId blocks).calls = state.callIndex
  length : state.sequenceIndex = state.segments.length
  placed : PlacedFrom sessionId 1 state.segments
  calls : (state.segments.filter isCallSegment).map callFacts =
    (toolUses blocks).map useFacts
  outputs : (state.segments.filter isOutputSegment).map outputFacts =
    (readBlocks rules sessionId blocks).outputs.map answered
  sound : ∀ entry ∈ state.callIndex, entry.Sound

variable {rules : CaptureRules} {agent artifactPath sessionId : String}
  {blocks : List AgentBlock} {state next : CaptureState} {placed : PlacedBlock}

theorem captured_nil (rules : CaptureRules) (sessionId : String) :
    Captured rules sessionId [] {} where
  count := rfl
  index := rfl
  length := rfl
  placed := trivial
  calls := rfl
  outputs := rfl
  sound := by simp

/-- A block which adds a segment is captured by what it adds. -/
theorem Captured.push {block : AgentBlock} {segment : TranscriptSegment}
    {callIndex : List CallEntry}
    (hcaptured : Captured rules sessionId blocks state) (outputs : List (String × String))
    (hreading : readBlock rules sessionId (readBlocks rules sessionId blocks) block =
      { count := state.sequenceIndex + 1
        calls := callIndex
        outputs := (readBlocks rules sessionId blocks).outputs ++ outputs })
    (hsession : segment.sessionId = sessionId)
    (hindex : segment.sequenceIndex = state.sequenceIndex + 1)
    (hid : segment.segmentId = segmentIdAt sessionId (state.sequenceIndex + 1))
    (hcalls : ([segment.stripped].filter isCallSegment).map callFacts =
      block.toolUse?.toList.map useFacts)
    (houtputs : ([segment.stripped].filter isOutputSegment).map outputFacts =
      outputs.map answered)
    (hsound : ∀ entry ∈ callIndex, entry.Sound) :
    Captured rules sessionId (blocks ++ [block])
      { state.push segment.stripped with callIndex := callIndex } where
  count := by rw [readBlocks_snoc, hreading]; rfl
  index := by rw [readBlocks_snoc, hreading]
  length := by simp [CaptureState.push, hcaptured.length]
  placed := by
    simp only [CaptureState.push]
    rw [placedFrom_append, Nat.add_comm, ← hcaptured.length]
    exact ⟨hcaptured.placed, placed_stripped hsession hindex hid⟩
  calls := by
    simp only [CaptureState.push]
    rw [toolUses_snoc, List.filter_append, List.map_append, hcaptured.calls, hcalls,
      List.map_append]
  outputs := by
    simp only [CaptureState.push]
    rw [readBlocks_snoc, hreading, List.filter_append, List.map_append, hcaptured.outputs,
      houtputs, List.map_append]
  sound := hsound

theorem Captured.pass {block : AgentBlock} (hcaptured : Captured rules sessionId blocks state)
    (hreading : readBlock rules sessionId (readBlocks rules sessionId blocks) block =
      readBlocks rules sessionId blocks)
    (huse : block.toolUse? = none) :
    Captured rules sessionId (blocks ++ [block]) state where
  count := by rw [readBlocks_snoc, hreading, hcaptured.count]
  index := by rw [readBlocks_snoc, hreading, hcaptured.index]
  length := hcaptured.length
  placed := hcaptured.placed
  calls := by rw [toolUses_snoc, huse, hcaptured.calls]; simp
  outputs := by rw [readBlocks_snoc, hreading, hcaptured.outputs]
  sound := hcaptured.sound

theorem mem_of_mem_upsertRows {ρ κ : Type} [DecidableEq κ] {key : ρ → κ} {row other : ρ}
    {rows : List ρ} (hmem : other ∈ KeyedTable.upsertRows key row rows) :
    other = row ∨ other ∈ rows := by
  induction rows with
  | nil => exact .inl (List.mem_singleton.mp hmem)
  | cons head rows ih =>
      rw [KeyedTable.upsertRows] at hmem
      by_cases hkey : key head = key row
      · rw [if_pos hkey, List.mem_cons] at hmem
        cases hmem with
        | inl heq => exact .inl heq
        | inr htail => exact .inr (List.mem_cons_of_mem _ htail)
      · rw [if_neg hkey, List.mem_cons] at hmem
        cases hmem with
        | inl heq => exact .inr (heq ▸ List.mem_cons_self)
        | inr htail =>
            cases ih htail with
            | inl heq => exact .inl heq
            | inr hold => exact .inr (List.mem_cons_of_mem _ hold)

theorem sound_callEntry {callId : String} {canonicalName : Option String}
    (hnamed : isBlank toolName = false)
    (hregular : canonicalName.isSome = true → isMcpToolName toolName = true) :
    (callEntry callId toolName canonicalName).Sound where
  named := hnamed
  canonical := fun hsome => hsome
  mcp := hregular

theorem filter_textSegment (sessionId timestamp text : String) (role : RolloutValue) (index : ℕ) :
    [(textSegment sessionId timestamp role text index).stripped].filter isCallSegment = [] ∧
      [(textSegment sessionId timestamp role text index).stripped].filter isOutputSegment =
        [] := by
  cases huser : role.isText "user" <;>
    simp [isCallSegment, isOutputSegment, textSegment, TranscriptSegment.stripped, huser]

theorem filter_outputSegment (sessionId timestamp output : String) (entry : CallEntry)
    (index : ℕ) :
    [(outputSegment sessionId timestamp output entry index).stripped].filter isCallSegment =
        [] ∧
      ([(outputSegment sessionId timestamp output entry index).stripped].filter
        isOutputSegment).map outputFacts = [answered (entry.callId, entry.toolName)] := by
  cases hmcp : entry.isMcp <;>
    simp [isCallSegment, isOutputSegment, outputSegment, outputFacts, answered, leader?,
      TranscriptSegment.stripped, hmcp]

theorem filter_callSegment (sessionId callId toolName timestamp arguments : String)
    (canonicalName : Option String) (index : ℕ) :
    ([(callSegment sessionId timestamp arguments (callEntry callId toolName canonicalName)
        index).stripped].filter isCallSegment).map callFacts =
        [useFacts (toolName, canonicalName)] ∧
      [(callSegment sessionId timestamp arguments (callEntry callId toolName canonicalName)
        index).stripped].filter isOutputSegment = [] := by
  cases hmcp : isMcpToolName toolName <;>
    simp [isCallSegment, isOutputSegment, callSegment, callEntry, callFacts, useFacts,
      TranscriptSegment.stripped, hmcp]

theorem Captured.push_call {members : RolloutMembers}
    (hcaptured : Captured rules sessionId blocks state)
    (hname : usedToolName members = some toolName)
    (hregular : (blockUse members toolName).IsRegular) :
    let entry := callEntry (callIdAt sessionId state.sequenceIndex members) toolName
      (canonicalNameOf toolName (serverNameOf members))
    Captured rules sessionId (blocks ++ [.toolUse members])
      { state.push (callSegment sessionId timestamp (argumentsText members) entry
          (state.sequenceIndex + 1)).stripped with
        callIndex := KeyedTable.upsertRows CallEntry.callId entry state.callIndex } := by
  intro entry
  have huse : (AgentBlock.toolUse members).toolUse? = some (blockUse members toolName) := by
    simp [AgentBlock.toolUse?, hname]
  rcases filter_callSegment sessionId (callIdAt sessionId state.sequenceIndex members) toolName
    timestamp (argumentsText members) (canonicalNameOf toolName (serverNameOf members))
    (state.sequenceIndex + 1) with ⟨hcalls, houtputs⟩
  apply hcaptured.push [] _ rfl rfl rfl
  · rw [huse]
    exact hcalls
  · rw [houtputs]
    rfl
  · intro other hother
    cases mem_of_mem_upsertRows hother with
    | inl heq =>
        rw [heq]
        exact sound_callEntry (isBlank_usedToolName hname) (isRegular_blockUse.mp hregular)
    | inr hold => exact hcaptured.sound other hold
  · simp only [readBlock, hname, hcaptured.count, hcaptured.index, List.append_nil]
    rfl

/-! ## One block -/

theorem captured_step (hcaptured : Captured rules sessionId blocks state)
    (hstep : captureBlock rules agent artifactPath sessionId state placed = .ok next) :
    Fits rules placed.block ∧ Captured rules sessionId (blocks ++ [placed.block]) next := by
  unfold captureBlock at hstep
  cases hblock : placed.block with
  | text text =>
      simp only [hblock] at hstep
      cases hkeeps : rules.keepsText text with
      | true =>
          rw [hkeeps, if_pos rfl] at hstep
          obtain ⟨segment, hsegment, hnext⟩ := bind_eq_ok.mp hstep
          obtain ⟨hvalid, hstripped⟩ := TranscriptSegment.create_eq_ok.mp hsegment
          obtain ⟨hcalls, houtputs⟩ := filter_textSegment sessionId
            placed.timestamp text placed.role (state.sequenceIndex + 1)
          rw [pure_eq_ok] at hnext
          rw [← hnext, ← hstripped]
          constructor
          · intro _
            exact hvalid.contentText
          · apply hcaptured.push [] _ rfl rfl rfl _ _ hcaptured.sound
            · simp [readBlock, hkeeps, hcaptured.count, hcaptured.index]
            · rw [hcalls]
              rfl
            · rw [houtputs]
              rfl
      | false =>
          rw [hkeeps, if_neg (by simp), Except.ok.injEq] at hstep
          rw [← hstep]
          constructor
          · intro htrue
            rw [hkeeps] at htrue
            cases htrue
          · exact hcaptured.pass (by simp [readBlock, hkeeps]) rfl
  | toolUse members =>
      simp only [hblock] at hstep
      cases hname : usedToolName members with
      | none =>
          simp only [hname] at hstep
          cases hrefuses : rules.refusesName with
          | true => simp [hrefuses] at hstep
          | false =>
              rw [hrefuses, if_neg (by simp), Except.ok.injEq] at hstep
              rw [← hstep]
              constructor
              · simpa [Fits, hname] using hrefuses
              · exact hcaptured.pass (by simp [readBlock, hname])
                  (by simp [AgentBlock.toolUse?, hname])
      | some toolName =>
          simp only [hname] at hstep
          obtain ⟨canonicalName, hcanonical, hrest⟩ := bind_eq_ok.mp hstep
          obtain ⟨segment, hsegment, hnext⟩ := bind_eq_ok.mp hrest
          obtain ⟨hvalid, hstripped⟩ := TranscriptSegment.create_eq_ok.mp hsegment
          have hnameOf := canonicalNameOf_eq hcanonical
          have hregular : (blockUse members toolName).IsRegular := by
            rw [isRegular_blockUse, hnameOf]
            exact hvalid.isSuitcode
          rw [pure_eq_ok] at hnext
          rw [← hnext, ← hstripped, ← hnameOf]
          constructor
          · simp only [Fits, hname]
            exact ⟨⟨canonicalName, hcanonical⟩, hregular⟩
          · exact hcaptured.push_call hname hregular
  | toolResult members =>
      simp only [hblock] at hstep
      refine ⟨trivial, ?_⟩
      cases hentry : resultEntry state.callIndex members with
      | none =>
          simp only [hentry, Except.ok.injEq] at hstep
          rw [← hstep]
          exact hcaptured.pass (by simp [readBlock, hcaptured.index, hentry]) rfl
      | some entry =>
          simp only [hentry] at hstep
          cases hkeeps : rules.keepsOutput (toolResultText (members.get "content")) with
          | true =>
              rw [hkeeps, if_pos rfl] at hstep
              obtain ⟨segment, hsegment, hnext⟩ := bind_eq_ok.mp hstep
              obtain ⟨-, hstripped⟩ := TranscriptSegment.create_eq_ok.mp hsegment
              obtain ⟨hcalls, houtputs⟩ := filter_outputSegment sessionId
                placed.timestamp (toolResultText (members.get "content")) entry
                (state.sequenceIndex + 1)
              rw [pure_eq_ok] at hnext
              rw [← hnext, ← hstripped]
              apply hcaptured.push [(entry.callId, entry.toolName)] _ rfl rfl rfl _ _
                hcaptured.sound
              · simp [readBlock, hkeeps, hcaptured.count, hcaptured.index, hentry]
              · rw [hcalls]
                rfl
              · rw [houtputs]
                rfl
          | false =>
              rw [hkeeps, if_neg (by simp), Except.ok.injEq] at hstep
              rw [← hstep]
              exact hcaptured.pass (by simp [readBlock, hcaptured.index, hentry, hkeeps]) rfl
  | other =>
      simp only [hblock, Except.ok.injEq] at hstep
      rw [← hstep]
      exact ⟨trivial, hcaptured.pass rfl rfl⟩

theorem resultEntry_mem {calls : List CallEntry} {members : RolloutMembers} {entry : CallEntry}
    (hentry : resultEntry calls members = some entry) : entry ∈ calls := by
  unfold resultEntry at hentry
  obtain ⟨callId, -, hleader⟩ := Option.bind_eq_some_iff.mp hentry
  exact leader?_mem hleader

theorem valid_callSegment (callId arguments : String) {canonicalName : Option String} {index : ℕ}
    (hsession : isBlank sessionId = false) (htimestamp : isBlank timestamp = false)
    (hnamed : isBlank toolName = false) (hindex : index ≠ 0)
    (hregular : canonicalName.isSome = true → isMcpToolName toolName = true) :
    (callSegment sessionId timestamp arguments (callEntry callId toolName canonicalName)
      index).Valid where
  segmentId := isBlank_segmentIdAt _ _
  sessionId := hsession
  timestampUtc := htimestamp
  contentText := by
    simp only [callSegment, callEntry]
    rw [isBlank_append, isBlank_labelled "tool:" toolName "\narguments:" rfl, Bool.false_and]
  sequenceIndex := hindex
  toolName := by simp [callSegment, callEntry, hnamed]
  canonicalToolName := by simp [callSegment, callEntry]
  isSuitcode := hregular

theorem valid_outputSegment {entry : CallEntry} (output : String) {index : ℕ}
    (hsession : isBlank sessionId = false) (htimestamp : isBlank timestamp = false)
    (hindex : index ≠ 0) (hsound : entry.Sound) :
    (outputSegment sessionId timestamp output entry index).Valid where
  segmentId := isBlank_segmentIdAt _ _
  sessionId := hsession
  timestampUtc := htimestamp
  contentText := by
    simp only [outputSegment]
    rw [isBlank_append, isBlank_labelled "tool:" entry.toolName "\noutput:" rfl,
      Bool.false_and]
  sequenceIndex := hindex
  toolName := by simp [outputSegment, hsound.named]
  canonicalToolName := hsound.canonical
  isSuitcode := hsound.mcp

theorem exists_captureBlock (agent artifactPath : String) (hsession : isBlank sessionId = false)
    (htimestamp : isBlank placed.timestamp = false)
    (hcaptured : Captured rules sessionId blocks state) (hfits : Fits rules placed.block) :
    ∃ next, captureBlock rules agent artifactPath sessionId state placed = .ok next := by
  unfold captureBlock
  cases hblock : placed.block with
  | text text =>
      simp only [hblock, Fits] at hfits ⊢
      cases hkeeps : rules.keepsText text with
      | true =>
          have hvalid : (textSegment sessionId placed.timestamp placed.role text
              (state.sequenceIndex + 1)).Valid := by
            constructor
            case segmentId => exact isBlank_segmentIdAt _ _
            case sessionId => exact hsession
            case timestampUtc => exact htimestamp
            case contentText => exact hfits hkeeps
            case sequenceIndex => simp [textSegment]
            case toolName =>
              cases huser : placed.role.isText "user" <;>
                simp [textSegment, huser, toolSegmentKinds]
            case canonicalToolName => simp [textSegment]
            case isSuitcode => simp [textSegment]
          rw [if_pos rfl, TranscriptSegment.create_eq_ok.mpr ⟨hvalid, rfl⟩, ok_bind]
          exact ⟨_, rfl⟩
      | false =>
          rw [if_neg (by simp)]
          exact ⟨_, rfl⟩
  | toolUse members =>
      simp only [hblock, Fits] at hfits ⊢
      cases hname : usedToolName members with
      | none =>
          simp only [hname] at hfits ⊢
          rw [hfits, if_neg (by simp)]
          exact ⟨_, rfl⟩
      | some toolName =>
          simp only [hname] at hfits ⊢
          obtain ⟨⟨canonicalName, hcanonical⟩, hregular⟩ := hfits
          rw [isRegular_blockUse, canonicalNameOf_eq hcanonical] at hregular
          have hvalid := valid_callSegment (callIdAt sessionId state.sequenceIndex members)
            (argumentsText members) hsession htimestamp (isBlank_usedToolName hname)
            (Nat.succ_ne_zero state.sequenceIndex) hregular
          rw [hcanonical, ok_bind, TranscriptSegment.create_eq_ok.mpr ⟨hvalid, rfl⟩, ok_bind]
          exact ⟨_, rfl⟩
  | toolResult members =>
      simp only
      cases hentry : resultEntry state.callIndex members with
      | none => exact ⟨_, rfl⟩
      | some entry =>
          simp only
          cases hkeeps : rules.keepsOutput (toolResultText (members.get "content")) with
          | true =>
              have hvalid := valid_outputSegment (toolResultText (members.get "content"))
                hsession htimestamp
                (Nat.succ_ne_zero state.sequenceIndex)
                (hcaptured.sound entry (resultEntry_mem hentry))
              rw [if_pos rfl, TranscriptSegment.create_eq_ok.mpr ⟨hvalid, rfl⟩, ok_bind]
              exact ⟨_, rfl⟩
          | false =>
              rw [if_neg (by simp)]
              exact ⟨_, rfl⟩
  | other => exact ⟨_, rfl⟩

/-! ## A run over blocks -/

theorem captured_run {placedBlocks : List PlacedBlock}
    (hcaptured : Captured rules sessionId blocks state)
    (hrun : placedBlocks.foldlM (captureBlock rules agent artifactPath sessionId) state =
      .ok next) :
    (∀ placed ∈ placedBlocks, Fits rules placed.block) ∧
      Captured rules sessionId (blocks ++ placedBlocks.map PlacedBlock.block) next := by
  induction placedBlocks generalizing blocks state with
  | nil =>
      simp only [List.foldlM_nil, pure_eq_ok] at hrun
      rw [← hrun]
      simpa using hcaptured
  | cons placed rest ih =>
      rw [List.foldlM_cons] at hrun
      obtain ⟨middle, hstep, hrest⟩ := bind_eq_ok.mp hrun
      obtain ⟨hfits, hmiddle⟩ := captured_step hcaptured hstep
      obtain ⟨hall, hnext⟩ := ih hmiddle hrest
      rw [List.forall_mem_cons]
      refine ⟨⟨hfits, hall⟩, ?_⟩
      simpa using hnext

theorem exists_run (agent artifactPath : String) {placedBlocks : List PlacedBlock}
    (hsession : isBlank sessionId = false)
    (htimestamps : ∀ placed ∈ placedBlocks, isBlank placed.timestamp = false)
    (hcaptured : Captured rules sessionId blocks state)
    (hfits : ∀ placed ∈ placedBlocks, Fits rules placed.block) :
    ∃ next, placedBlocks.foldlM (captureBlock rules agent artifactPath sessionId) state =
      .ok next := by
  induction placedBlocks generalizing blocks state with
  | nil => exact ⟨state, rfl⟩
  | cons placed rest ih =>
      rw [List.forall_mem_cons] at hfits htimestamps
      obtain ⟨middle, hstep⟩ := exists_captureBlock agent artifactPath hsession htimestamps.1
        hcaptured hfits.1
      obtain ⟨-, hmiddle⟩ := captured_step hcaptured hstep
      obtain ⟨next, hrest⟩ := ih htimestamps.2 hmiddle hfits.2
      rw [List.foldlM_cons, hstep, ok_bind]
      exact ⟨next, hrest⟩

end SuitCode
