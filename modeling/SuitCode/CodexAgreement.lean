import SuitCode.CodexRuns

/-!
# Where the two readers of Codex rollouts agree

Both readers are asked for the same file.  The parser accepts it, its metadata comes
first, its calls have ids and its outputs name calls; then the builder reads the same
session unless it refuses a segment or takes an earlier working directory.
-/

namespace SuitCode

open PosixText KeyedList ExceptList

/-- The items of the rollout at a path, none where it cannot be read. -/
def rolloutItems (environment : RolloutEnvironment) (path : String) : List RolloutItem :=
  match openRollout environment path with
  | .ok (_, lines) => (numberedEvents 1 lines).map fun event => rolloutItem event.2
  | .error _ => []

/-- Metadata before the items, calls with ids of their own, outputs of earlier calls. -/
structure Linked (items : List RolloutItem) : Prop where
  metaFirst : ∀ before item after, items = before ++ item :: after →
    item.isResponse = true → sessionMetas before ≠ []
  callIds : ∃ texts : List String,
    (toolCalls items).map (fun call => call.get "call_id") = texts.map RolloutValue.str ∧
      "" ∉ texts ∧ texts.Nodup
  outputs : ∀ before output after, items = before ++ .toolOutput output :: after →
    CodexTranscriptCapture.NamesCall before output

/-! ## The session of the parser -/

namespace CodexSessionParser

variable {environment : RolloutEnvironment} {artifactPath : String} {state : State}
  {session : NativeSessionAnalytics}

structure ReadFrom (environment : RolloutEnvironment) (artifactPath : String) (state : State)
    (session : NativeSessionAnalytics) : Prop where
  path : isBlank artifactPath = false
  ids : ∀ sessionMeta ∈ state.sessionMetas, ∃ id, optionalNonEmpty (sessionMeta.get "id") = some id
  cwds : ∀ sessionMeta ∈ state.sessionMetas, ∃ cwd,
    optionalResolvedPath environment (sessionMeta.get "cwd") artifactPath = .ok cwd
  last : ∃ lastMeta id, state.sessionMetas.getLast? = some lastMeta ∧
    optionalNonEmpty (lastMeta.get "id") = some id ∧ session.sessionId.val = strip id ∧
    optionalResolvedPath environment (lastMeta.get "cwd") artifactPath =
      .ok session.repositoryRoot
  metrics : session.transcriptMetrics = state.metrics
  first : session.firstSuitcodeTool = state.firstSuitcodeTool
  firstHighValue : session.firstHighValueSuitcodeTool = state.firstHighValueSuitcodeTool

theorem sessionMetaNotes_ok {items : List RolloutMembers} {notes : List String}
    (hnotes : sessionMetaNotes environment artifactPath items = .ok notes) :
    (∀ sessionMeta ∈ items, ∃ id, optionalNonEmpty (sessionMeta.get "id") = some id) ∧
      ∀ sessionMeta ∈ items, ∃ cwd,
        optionalResolvedPath environment (sessionMeta.get "cwd") artifactPath = .ok cwd := by
  unfold sessionMetaNotes at hnotes
  rcases bind_eq_ok.mp hnotes with ⟨ids, hids, hnotes⟩
  rcases bind_eq_ok.mp hnotes with ⟨cwds, hcwds, -⟩
  constructor
  · intro sessionMeta hmem
    rcases exists_output_of_mem hids hmem with ⟨id, -, hid⟩
    exact ⟨id, requiredNonEmpty_eq_ok.mp hid⟩
  · intro sessionMeta hmem
    rcases exists_output_of_mem hcwds hmem with ⟨cwd, -, hcwd⟩
    exact ⟨cwd, hcwd⟩

theorem selectEffectiveSessionMeta_of_ids {items : List RolloutMembers}
    {lastMeta : RolloutMembers} (hlast : items.getLast? = some lastMeta)
    (hids : ∀ sessionMeta ∈ items, ∃ id, optionalNonEmpty (sessionMeta.get "id") = some id) :
    selectEffectiveSessionMeta items = lastMeta := by
  rcases List.getLast?_eq_some_iff.mp hlast with ⟨before, rfl⟩
  rcases hids lastMeta (by simp) with ⟨id, hid⟩
  simp [selectEffectiveSessionMeta, hid]

theorem readFrom_of_sessionOf (hsession : sessionOf environment artifactPath state = .ok session) :
    ReadFrom environment artifactPath state session := by
  unfold sessionOf at hsession
  cases hmetas : state.sessionMetas with
  | nil => simp [hmetas] at hsession
  | cons firstMeta otherMetas =>
      simp only [hmetas] at hsession
      rcases bind_eq_ok.mp hsession with ⟨sessionId, hid, hsession⟩
      rcases bind_eq_ok.mp hsession with ⟨firstStarted, -, hsession⟩
      rcases bind_eq_ok.mp hsession with ⟨otherStarted, -, hsession⟩
      rcases bind_eq_ok.mp hsession with ⟨cwd, hcwd, hsession⟩
      rcases bind_eq_ok.mp hsession with ⟨suitcodeTools, -, hsession⟩
      rcases bind_eq_ok.mp hsession with ⟨artifact, hartifact, hsession⟩
      rcases bind_eq_ok.mp hsession with ⟨notes, hnotes, hsession⟩
      rcases sessionMetaNotes_ok hnotes with ⟨hids, hcwds⟩
      have hlast : (firstMeta :: otherMetas).getLast? =
          some ((firstMeta :: otherMetas).getLast (by simp)) :=
        List.getLast?_eq_getLast_of_ne_nil (by simp)
      rw [selectEffectiveSessionMeta_of_ids hlast hids] at hid hcwd
      unfold NativeSessionAnalytics.create at hsession
      by_cases hblank : isBlank sessionId = true
      · simp [hblank] at hsession
      · rw [dif_neg hblank] at hsession
        dsimp only at hsession
        rcases validated_eq_ok.mp hsession with ⟨rfl, -⟩
        constructor
        case path =>
          rcases validated_eq_ok.mp hartifact with ⟨-, hchecks⟩
          simp only [List.forall_mem_cons] at hchecks
          exact hchecks.2.1
        case ids => rw [hmetas]; exact hids
        case cwds => rw [hmetas]; exact hcwds
        case last =>
          exact ⟨_, sessionId, by rw [hmetas, hlast], requiredNonEmpty_eq_ok.mp hid, rfl, hcwd⟩
        case metrics => rfl
        case first => rfl
        case firstHighValue => rfl

end CodexSessionParser

/-! ## The session of the builder -/

namespace CodexTranscriptCapture

variable {environment : RolloutEnvironment} {artifactPath : String}

theorem collectMeta_eq {event : RolloutMembers} {lineNumber : ℕ} {found : List RolloutMembers}
    (hwell : rolloutItem event ≠ .malformed) :
    collectMeta artifactPath lineNumber event found =
      .ok (found ++ (rolloutItem event).sessionMeta?.toList) := by
  unfold collectMeta
  unfold rolloutItem at hwell ⊢
  by_cases hmeta : (event.get "type").isText "session_meta" = true
  · simp only [hmeta, if_true] at hwell ⊢
    cases hpayload : event.get "payload" with
    | obj payload => rfl
    | _ => simp [hpayload] at hwell
  · have hnone : (rolloutItem event).sessionMeta? = none := by
      unfold rolloutItem
      rw [if_neg hmeta]
      split_ifs
      · cases event.get "payload" with
        | obj payload =>
            unfold responseItem
            dsimp only
            split_ifs <;> rfl
        | _ => rfl
      · rfl
    unfold rolloutItem at hnone
    rw [hnone]
    simp [hmeta]

theorem collectMeta_run {events : List (ℕ × RolloutMembers)}
    (hwell : ∀ event ∈ events, rolloutItem event.2 ≠ .malformed) :
    events.foldlM (fun found event => collectMeta artifactPath event.1 event.2 found) [] =
      .ok (sessionMetas (events.map fun event => rolloutItem event.2)) := by
  induction events using List.reverseRecOn with
  | nil => rfl
  | append_singleton events event ih =>
      rw [foldlM_snoc_eq_ok]
      refine ⟨_, ih fun other hother => hwell other (List.mem_append_left _ hother), ?_⟩
      rw [collectMeta_eq (hwell event (by simp)), List.map_append, List.map_cons, List.map_nil,
        sessionMetas_snoc]

theorem optionalResolvedPath_eq_none_iff {value : RolloutValue} {cwd : Option String}
    (hcwd : optionalResolvedPath environment value artifactPath = .ok cwd) :
    cwd = none ↔ value = .null := by
  cases value with
  | null =>
      cases hcwd
      simp
  | str text =>
      simp only [optionalResolvedPath] at hcwd
      by_cases hblank : isBlank text = true
      · simp [hblank] at hcwd
      · rw [if_neg hblank] at hcwd
        rcases bind_eq_ok.mp hcwd with ⟨resolved, -, hresult⟩
        cases hresult
        simp
  | _ => simp [optionalResolvedPath] at hcwd

theorem firstCwd_eq {metas : List RolloutMembers}
    (hcwds : ∀ sessionMeta ∈ metas, ∃ cwd,
      optionalResolvedPath environment (sessionMeta.get "cwd") artifactPath = .ok cwd) :
    ∃ cwd, firstCwd environment artifactPath metas = .ok cwd ∧
      (cwd = none ↔ ∀ sessionMeta ∈ metas, sessionMeta.get "cwd" = .null) := by
  induction metas with
  | nil => exact ⟨none, rfl, by simp⟩
  | cons sessionMeta metas ih =>
      rcases hcwds sessionMeta List.mem_cons_self with ⟨cwd, hcwd⟩
      rcases ih fun other hother => hcwds other (List.mem_cons_of_mem _ hother) with
        ⟨later, hlater, hnone⟩
      have hnull := optionalResolvedPath_eq_none_iff hcwd
      unfold firstCwd
      rw [hcwd, ok_bind]
      cases cwd with
      | some cwd =>
          refine ⟨some cwd, rfl, ?_⟩
          have hhere : sessionMeta.get "cwd" ≠ .null := fun heq => by simpa using hnull.mpr heq
          simp [hhere]
      | none =>
          refine ⟨later, hlater, ?_⟩
          rw [hnone]
          simp [hnull.mp rfl]

theorem firstCwd_reverse {metas : List RolloutMembers} {lastMeta : RolloutMembers}
    {root : Option String} (hlast : metas.getLast? = some lastMeta)
    (hcwds : ∀ sessionMeta ∈ metas, ∃ cwd,
      optionalResolvedPath environment (sessionMeta.get "cwd") artifactPath = .ok cwd)
    (hroot : optionalResolvedPath environment (lastMeta.get "cwd") artifactPath = .ok root) :
    ∃ cwd, firstCwd environment artifactPath metas.reverse = .ok cwd ∧
      (cwd = root ↔ (lastMeta.get "cwd" = .null →
        ∀ sessionMeta ∈ metas, sessionMeta.get "cwd" = .null)) := by
  have hnull := optionalResolvedPath_eq_none_iff hroot
  cases root with
  | some found =>
      have hhere : lastMeta.get "cwd" ≠ .null := fun heq => by simpa using hnull.mpr heq
      rcases List.getLast?_eq_some_iff.mp hlast with ⟨before, rfl⟩
      refine ⟨some found, ?_, by simp [hhere]⟩
      rw [List.reverse_append, List.reverse_singleton, List.singleton_append, firstCwd, hroot,
        ok_bind]
      rfl
  | none =>
      have hreversed : ∀ sessionMeta ∈ metas.reverse, ∃ cwd,
          optionalResolvedPath environment (sessionMeta.get "cwd") artifactPath = .ok cwd :=
        fun sessionMeta hmem => hcwds sessionMeta (List.mem_reverse.mp hmem)
      rcases firstCwd_eq hreversed with ⟨cwd, hcwd, hnone⟩
      refine ⟨cwd, hcwd, ?_⟩
      rw [hnone]
      simp [hnull.mp rfl]

/-! ### The calls of a capture -/

def suitcodeSegments (capture : TranscriptCapture) : List TranscriptSegment :=
  capture.segments.filter fun segment => isCallSegment segment && segment.isSuitcode

def firstSuitcodeTool (capture : TranscriptCapture) : Option String :=
  (suitcodeSegments capture).head?.bind TranscriptSegment.canonicalToolName

def firstHighValueTool (capture : TranscriptCapture) : Option String :=
  ((suitcodeSegments capture).find? fun segment =>
    segment.canonicalToolName.any (· ∈ highValueTools)).bind TranscriptSegment.canonicalToolName

theorem find_named {segments : List TranscriptSegment} {names : List String}
    (hnames : segments.map TranscriptSegment.canonicalToolName = names.map some)
    (wanted : String → Bool) :
    (segments.find? fun segment => segment.canonicalToolName.any wanted).bind
      TranscriptSegment.canonicalToolName = names.find? wanted := by
  induction segments generalizing names with
  | nil =>
      rw [List.map_nil, eq_comm, List.map_eq_nil_iff] at hnames
      rw [hnames]
      rfl
  | cons segment segments ih =>
      cases names with
      | nil => simp at hnames
      | cons name names =>
          simp only [List.map_cons, List.cons.injEq] at hnames
          rcases hnames with ⟨hname, hrest⟩
          have htail := ih hrest
          by_cases hwanted : wanted name = true
          · simp [hname, hwanted]
          · simp only [List.find?_cons, hname, hwanted, Option.any_some]
            exact htail

theorem head_named {segments : List TranscriptSegment} {names : List String}
    (hnames : segments.map TranscriptSegment.canonicalToolName = names.map some) :
    segments.head?.bind TranscriptSegment.canonicalToolName = names.head? := by
  cases segments with
  | nil =>
      rw [List.map_nil, eq_comm, List.map_eq_nil_iff] at hnames
      rw [hnames]
      rfl
  | cons segment segments =>
      cases names with
      | nil => simp at hnames
      | cons name names =>
          simp only [List.map_cons, List.cons.injEq] at hnames
          exact hnames.1

variable {sessionId : String} {items : List RolloutItem} {state : State}

theorem Built.countP_mcp (hbuilt : Built sessionId items state) :
    (state.segments.filter fun segment => segment.kind = .mcpToolCall).length =
      (calledTools items).countP isMcpToolName := by
  have hfacts := congrArg (List.countP fun facts => decide (facts.1 = .mcpToolCall))
    hbuilt.calls_eq
  rw [List.countP_map, List.countP_map, List.countP_filter, List.countP_eq_length_filter] at hfacts
  calc
    (state.segments.filter fun segment => segment.kind = .mcpToolCall).length =
        (state.segments.filter fun segment =>
          ((fun facts => decide (facts.1 = TranscriptSegmentKind.mcpToolCall)) ∘ callFacts)
            segment && isCallSegment segment).length := by
      congr 2
      funext segment
      cases hkind : segment.kind <;> simp [callFacts, isCallSegment, hkind]
    _ = _ := hfacts
    _ = (calledTools items).countP isMcpToolName := by
      congr 1
      funext name
      cases hname : isMcpToolName name <;> simp [factsOf, hname]

theorem Built.names_eq (hbuilt : Built sessionId items state) :
    (state.segments.filter fun segment => isCallSegment segment && segment.isSuitcode).map
      TranscriptSegment.canonicalToolName = (suitcodeCalls items).map some := by
  have hfacts := congrArg (fun facts => (facts.filter (·.2.1)).map (·.2.2)) hbuilt.calls_eq
  rw [List.filter_map, List.filter_map, List.map_map, List.map_map, List.filter_filter] at hfacts
  calc
    (state.segments.filter fun segment => isCallSegment segment && segment.isSuitcode).map
        TranscriptSegment.canonicalToolName = _ := by
      congr 2
      funext segment
      rw [Bool.and_comm]
      rfl
    _ = _ := hfacts
    _ = (suitcodeCalls items).map some := by
      unfold suitcodeCalls
      induction calledTools items with
      | nil => simp
      | cons name names ih =>
          cases hname : suitcodeNameOf name with
          | none => simpa [factsOf, hname] using ih
          | some suitcodeName => simpa [factsOf, hname] using ih

end CodexTranscriptCapture

/-! ## Tool names -/

theorem startsWith_iff {text start : String} :
    startsWith text start = true ↔ start.toList <+: text.toList := by
  simp [startsWith]

theorem head_of_startsWith {text left right : String} {c d : Char} {cs ds : List Char}
    (hleft : startsWith text left = true) (hright : startsWith text right = true)
    (hc : left.toList = c :: cs) (hd : right.toList = d :: ds) : c = d := by
  rw [startsWith_iff, hc] at hleft
  rw [startsWith_iff, hd] at hright
  rcases hleft with ⟨rest, hrest⟩
  rcases hright with ⟨other, hother⟩
  rw [← hrest] at hother
  exact (List.cons.inj hother).1.symm

theorem suitcode_mcp_iff {toolName : String} (hstrip : strip toolName = toolName)
    (hcanonical : canonicalSuitcodeToolName toolName = .ok (suitcodeNameOf toolName)) :
    ((suitcodeNameOf toolName).isSome = true → isMcpToolName toolName = true) ↔
      startsWith toolName "suitcode__" = false ∧ startsWith toolName "suitcode." = false := by
  unfold canonicalSuitcodeToolName at hcanonical
  simp only [hstrip] at hcanonical
  have hmcp : isMcpToolName toolName = true → ∀ short ∈ ["suitcode__", "suitcode."],
      startsWith toolName short = false := by
    intro hmcp short hshort
    rcases List.any_eq_true.mp hmcp with ⟨start, hstart, hbegins⟩
    rw [Bool.eq_false_iff]
    intro hbegins'
    simp only [mcpPrefixes, List.mem_cons, List.not_mem_nil, or_false] at hstart hshort
    rcases hstart with rfl | rfl <;> rcases hshort with rfl | rfl <;>
      exact absurd (head_of_startsWith hbegins hbegins' rfl rfl) (by decide)
  cases hfind : suitcodePrefixes.find? (startsWith toolName) with
  | none =>
      rw [hfind] at hcanonical
      have hnone : suitcodeNameOf toolName = none := (Except.ok.inj hcanonical).symm
      have hall := List.find?_eq_none.mp hfind
      rw [hnone]
      refine ⟨fun _ => ⟨?_, ?_⟩, fun _ hsome => by simp at hsome⟩
      · simpa using hall "suitcode__" (by simp [suitcodePrefixes])
      · simpa using hall "suitcode." (by simp [suitcodePrefixes])
  | some start =>
      rw [hfind] at hcanonical
      have hsome : (suitcodeNameOf toolName).isSome = true := by
        dsimp only at hcanonical
        split_ifs at hcanonical with hempty
        · simp at hcanonical
        · rw [← Except.ok.inj hcanonical]
          rfl
      have hbegins := List.find?_some hfind
      have hstart := List.mem_of_find?_eq_some hfind
      constructor
      · intro himplies
        have hall := hmcp (himplies hsome)
        exact ⟨hall _ (by simp), hall _ (by simp)⟩
      · rintro ⟨hlong, hdot⟩ -
        apply List.any_eq_true.mpr
        simp only [suitcodePrefixes, List.mem_cons, List.not_mem_nil, or_false] at hstart
        rcases hstart with rfl | rfl | rfl | rfl
        · exact ⟨"mcp__", by simp [mcpPrefixes], startsWith_trans (by decide) hbegins⟩
        · exact ⟨"functions.mcp__", by simp [mcpPrefixes], startsWith_trans (by decide) hbegins⟩
        · rw [hlong] at hbegins
          simp at hbegins
        · rw [hdot] at hbegins
          simp at hbegins

/-! ## The agreement -/

/-- The capture is of the session, with the same tool calls. -/
structure ReadersAgree (session : NativeSessionAnalytics) (capture : TranscriptCapture) :
    Prop where
  sessionId : capture.sessionId = session.sessionId.val
  repositoryRoot : capture.repositoryRoot = session.repositoryRoot
  mcpCalls : (capture.segments.filter fun segment => segment.kind = .mcpToolCall).length =
    session.transcriptMetrics.mcpToolCallCount
  suitcodeCalls : (CodexTranscriptCapture.suitcodeSegments capture).length =
    session.transcriptMetrics.suitcodeToolCallCount
  first : CodexTranscriptCapture.firstSuitcodeTool capture = session.firstSuitcodeTool
  firstHighValue : CodexTranscriptCapture.firstHighValueTool capture =
    session.firstHighValueSuitcodeTool

/-- No tool has a short SuitCode name, no message is white space alone, stripping leaves
the call ids apart, and the last of the metas has a working directory if any has. -/
structure ReadAlike (items : List RolloutItem) : Prop where
  tools : ∀ toolName ∈ calledTools items,
    startsWith toolName "suitcode__" = false ∧ startsWith toolName "suitcode." = false
  messages : ∀ payload, .message payload ∈ items → CodexTranscriptCapture.MessageFits payload
  callIds : ∀ call ∈ toolCalls items, (callIdOf call).isSome = true
  callIds_nodup : ((toolCalls items).map callIdOf).Nodup
  cwd : ∀ lastMeta, (sessionMetas items).getLast? = some lastMeta →
    lastMeta.get "cwd" = .null →
      ∀ sessionMeta ∈ sessionMetas items, sessionMeta.get "cwd" = .null

theorem calledTools_mcp_iff {items : List RolloutItem}
    (hnamed : ∀ call ∈ toolCalls items, ∃ name, optionalNonEmpty (call.get "name") = some name ∧
      canonicalSuitcodeToolName name = .ok (suitcodeNameOf name)) :
    (∀ toolName ∈ calledTools items,
        (suitcodeNameOf toolName).isSome = true → isMcpToolName toolName = true) ↔
      ∀ toolName ∈ calledTools items,
        startsWith toolName "suitcode__" = false ∧ startsWith toolName "suitcode." = false := by
  apply forall₂_congr
  intro toolName hmem
  rcases List.mem_map.mp hmem with ⟨call, hcall, rfl⟩
  rcases hnamed call hcall with ⟨name, hname, hcanonical⟩
  have htool : calledTool call = name := by simp [calledTool, hname]
  rw [htool]
  exact suitcode_mcp_iff (strip_of_optionalNonEmpty hname) hcanonical

section Rollout

variable {environment : RolloutEnvironment} {artifactPath : String} {lines : List RolloutLine}
  {state : CodexSessionParser.State} {session : NativeSessionAnalytics}

theorem resolveSessionIdentity_eq (hreadable : ∀ line ∈ lines, line.isReadable = true)
    (hwell : ∀ event ∈ numberedEvents 1 lines, rolloutItem event.2 ≠ .malformed)
    (hmetas : state.sessionMetas =
      sessionMetas ((numberedEvents 1 lines).map fun event => rolloutItem event.2))
    (hread : CodexSessionParser.ReadFrom environment artifactPath state session) :
    ∃ sessionId root, CodexTranscriptCapture.resolveSessionIdentity environment artifactPath lines =
        .ok (sessionId, root) ∧
      isBlank sessionId = false ∧ session.sessionId.val = strip sessionId ∧
      (root = session.repositoryRoot ↔
        ∀ lastMeta, state.sessionMetas.getLast? = some lastMeta →
          lastMeta.get "cwd" = .null →
            ∀ sessionMeta ∈ state.sessionMetas, sessionMeta.get "cwd" = .null) := by
  rcases hread.last with ⟨lastMeta, sessionId, hlast, hid, hsame, hroot⟩
  rcases CodexTranscriptCapture.firstCwd_reverse hlast hread.cwds hroot with ⟨cwd, hcwd, hagree⟩
  refine ⟨sessionId, cwd, ?_, isBlank_of_optionalNonEmpty hid, hsame, ?_⟩
  · unfold CodexTranscriptCapture.resolveSessionIdentity
    rw [foldRolloutEvents_of_readable _ _ hreadable,
      CodexTranscriptCapture.collectMeta_run hwell, ok_bind, ← hmetas, hlast]
    dsimp only
    rw [requiredNonEmpty_eq_ok.mpr hid, ok_bind, hcwd, ok_bind]
    rfl
  · rw [hagree]
    constructor
    · intro hall other hother
      rw [hlast] at hother
      cases hother
      exact hall
    · intro hall
      exact hall lastMeta hlast

theorem build_eq {path sessionId : String} {root : Option String}
    (hopen : openRollout environment path = .ok (artifactPath, lines))
    (hreadable : ∀ line ∈ lines, line.isReadable = true)
    (hidentity : CodexTranscriptCapture.resolveSessionIdentity environment artifactPath lines =
      .ok (sessionId, root)) :
    CodexTranscriptCapture.build environment path = (do
      let last ← (numberedEvents 1 lines).foldlM (fun state event =>
        CodexTranscriptCapture.captureEvent environment artifactPath sessionId event.1 event.2
          state) {}
      if !last.sawSessionMeta then
        raiseValueError ("missing session_meta in `" ++ artifactPath ++ "`")
      else
        TranscriptCapture.create
          { sessionId := sessionId
            repositoryRoot := root
            artifactPath := artifactPath
            segments := last.segments }) := by
  unfold CodexTranscriptCapture.build
  rw [hopen, ok_bind]
  dsimp only
  rw [hidentity, ok_bind]
  dsimp only
  rw [foldRolloutEvents_of_readable _ _ hreadable]

theorem create_built {sessionId : String} {root : Option String} {items : List RolloutItem}
    {last : CodexTranscriptCapture.State} (hsession : isBlank sessionId = false)
    (hpath : isBlank artifactPath = false)
    (hbuilt : CodexTranscriptCapture.Built sessionId items last) :
    TranscriptCapture.create
        { sessionId := sessionId
          repositoryRoot := root
          artifactPath := artifactPath
          segments := last.segments } =
      .ok { sessionId := strip sessionId
            repositoryRoot := root
            artifactPath := strip artifactPath
            segments := last.segments } := by
  unfold TranscriptCapture.create
  rw [validated_eq_ok.mpr ⟨rfl, by simp [hsession, hpath]⟩, ok_bind]
  dsimp only
  rw [validateSegments_of_placed hsession (by simp) hbuilt.placed, ok_bind]
  rfl

end Rollout

/-- A rollout the session parser accepts, with its metadata first, calls with distinct ids
and outputs of earlier calls, is captured as the same session with the same tool calls
exactly when the two readers read it alike. -/
theorem readersAgree_iff_readAlike {environment : RolloutEnvironment} {path : String}
    {session : NativeSessionAnalytics}
    (hparse : CodexSessionParser.parse environment path = .ok session)
    (hlinked : Linked (rolloutItems environment path)) :
    (CodexTranscriptCapture.build environment path).Yields (ReadersAgree session) ↔
      ReadAlike (rolloutItems environment path) := by
  unfold CodexSessionParser.parse at hparse
  rcases bind_eq_ok.mp hparse with ⟨⟨artifactPath, lines⟩, hopen, hparse⟩
  rcases bind_eq_ok.mp hparse with ⟨state, hfold, hsession⟩
  have hreadable := isReadable_of_fold hfold
  rw [foldRolloutEvents_of_readable _ _ hreadable] at hfold
  have hitems : rolloutItems environment path =
      (numberedEvents 1 lines).map fun event => rolloutItem event.2 := by
    unfold rolloutItems
    rw [hopen]
  rw [hitems] at hlinked ⊢
  rcases CodexSessionParser.counted_run hfold with ⟨hcounted, haccepts⟩
  have hread := CodexSessionParser.readFrom_of_sessionOf hsession
  have hwell : ∀ event ∈ numberedEvents 1 lines, rolloutItem event.2 ≠ .malformed :=
    fun event hevent => (haccepts event hevent).wellFormed
  have hnamed : ∀ call ∈ toolCalls ((numberedEvents 1 lines).map fun event =>
      rolloutItem event.2), ∃ name, optionalNonEmpty (call.get "name") = some name ∧
        canonicalSuitcodeToolName name = .ok (suitcodeNameOf name) := by
    intro call hcall
    rcases List.mem_filterMap.mp hcall with ⟨item, hitem, hkind⟩
    rcases List.mem_map.mp hitem with ⟨event, hevent, rfl⟩
    apply (haccepts event hevent).named call
    cases hitem : rolloutItem event.2 <;> simp_all [RolloutItem.toolCall?]
  rcases resolveSessionIdentity_eq hreadable hwell hcounted.sessionMetas_eq hread with
    ⟨sessionId, root, hidentity, hblank, hsame, hroot⟩
  rw [hcounted.sessionMetas_eq] at hroot
  rcases CodexTranscriptCapture.built_run hblank haccepts hlinked.metaFirst hlinked.outputs with
    ⟨hend, hbuilt⟩
  rw [build_eq hopen hreadable hidentity]
  constructor
  · intro hyields
    rcases hyields.exists_ok with ⟨capture, hbuild, hagree⟩
    rcases bind_eq_ok.mp hbuild with ⟨last, hlast, hcreate⟩
    have hcapturable := hend.mp ⟨last, hlast⟩
    refine ⟨(calledTools_mcp_iff hnamed).mp hcapturable.suitcode, hcapturable.messages,
      hcapturable.callIds, hcapturable.callIds_nodup, hroot.mp ?_⟩
    by_cases hsaw : last.sawSessionMeta = true
    · simp only [hsaw, Bool.not_true, Bool.false_eq_true, if_false] at hcreate
      rw [create_built hblank hread.path (hbuilt last hlast)] at hcreate
      rw [← hagree.repositoryRoot, ← Except.ok.inj hcreate]
    · simp [hsaw] at hcreate
  · intro halike
    have hcapturable : CodexTranscriptCapture.Capturable
        ((numberedEvents 1 lines).map fun event => rolloutItem event.2) :=
      ⟨halike.messages, halike.callIds, halike.callIds_nodup,
        (calledTools_mcp_iff hnamed).mpr halike.tools⟩
    rcases hend.mpr hcapturable with ⟨last, hlast⟩
    have hkept := hbuilt last hlast
    have hsaw : last.sawSessionMeta = true := by
      rcases hread.last with ⟨lastMeta, -, hmeta, -⟩
      rw [hcounted.sessionMetas_eq] at hmeta
      rw [hkept.saw]
      cases hmetas : sessionMetas ((numberedEvents 1 lines).map fun event =>
        rolloutItem event.2) with
      | nil => simp [hmetas] at hmeta
      | cons first rest => rfl
    rw [hlast, ok_bind]
    simp only [hsaw, Bool.not_true, Bool.false_eq_true, if_false]
    rw [create_built hblank hread.path hkept]
    apply PyResult.Yields.ok
    constructor
    · exact hsame.symm
    · exact hroot.mpr halike.cwd
    · rw [hread.metrics, hcounted.mcpCalls_eq]
      exact hkept.countP_mcp
    · have hlength := congrArg List.length hkept.names_eq
      rw [List.length_map, List.length_map] at hlength
      rw [hread.metrics, hcounted.suitcodeCalls_eq]
      exact hlength
    · rw [hread.first, hcounted.first_eq]
      exact CodexTranscriptCapture.head_named hkept.names_eq
    · rw [hread.firstHighValue, hcounted.firstHighValue_eq]
      exact CodexTranscriptCapture.find_named hkept.names_eq _

/-! ## A rollout of one call -/

def oneCallEnvironment (toolName : String) : RolloutEnvironment where
  resolvePath path := .ok path
  rolloutLines _ := some
    [.event
        [("type", .str "session_meta"), ("timestamp", .str "2025-01-01T00:00:00Z"),
          ("payload", .obj [("id", .str "s"), ("timestamp", .str "2025-01-01T00:00:00Z")])],
      .event
        [("type", .str "response_item"), ("timestamp", .str "2025-01-01T00:00:01Z"),
          ("payload", .obj [("type", .str "function_call"), ("name", .str toolName),
            ("call_id", .str "c")])]]
  fromIsoFormat _ := .ok 0
  isoFormat _ := "1970-01-01T00:00:00Z"
  isoFormat_nonblank _ := CallSample.epoch_nonblank

def oneCallSession : NativeSessionAnalytics where
  agentKind := .codex
  sessionId := CallSample.sessionId
  artifact :=
    { sessionId := "s"
      artifactPath := "/rollout.jsonl"
      repositoryRoot := none
      startedAt := 0
      lastEventAt := 0
      cwd := none
      cliVersion := none
      modelProvider := none
      eventCount := 2 }
  repositoryRoot := none
  usedSuitcode := true
  suitcodeTools := [CallSample.toolUse]
  firstSuitcodeTool := some "repository_summary"
  firstSuitcodeToolIndex := some CallSample.toolIndex
  firstHighValueSuitcodeTool := some "repository_summary"
  firstHighValueSuitcodeToolIndex := some CallSample.toolIndex
  transcriptMetrics :=
    { eventCount := 2
      toolEventCount := 1
      mcpToolCallCount := 1
      suitcodeToolCallCount := 1 }

theorem linked_oneCall (toolName : String) :
    Linked (rolloutItems (oneCallEnvironment toolName) "/rollout.jsonl") := by
  have hitems : rolloutItems (oneCallEnvironment toolName) "/rollout.jsonl" =
      [.sessionMeta [("id", .str "s"), ("timestamp", .str "2025-01-01T00:00:00Z")],
        .toolCall [("type", .str "function_call"), ("name", .str toolName),
          ("call_id", .str "c")]] := rfl
  rw [hitems]
  constructor
  · intro before item after hsplit hresponse
    cases before with
    | nil =>
        rw [List.nil_append, List.cons.injEq] at hsplit
        rw [← hsplit.1] at hresponse
        simp [RolloutItem.isResponse] at hresponse
    | cons first rest =>
        rw [List.cons_append, List.cons.injEq] at hsplit
        rw [← hsplit.1]
        simp [sessionMetas, RolloutItem.sessionMeta?]
  · exact ⟨["c"], rfl, by simp, by simp⟩
  · intro before output after hsplit
    have hmem : RolloutItem.toolOutput output ∈ before ++ .toolOutput output :: after := by simp
    rw [← hsplit] at hmem
    simp at hmem

theorem readersAgree_iff_oneCall :
    (CodexTranscriptCapture.build (oneCallEnvironment "mcp__suitcode__repository_summary")
        "/rollout.jsonl").Yields (ReadersAgree oneCallSession) ↔
      ReadAlike (rolloutItems (oneCallEnvironment "mcp__suitcode__repository_summary")
        "/rollout.jsonl") :=
  readersAgree_iff_readAlike (by decide +kernel) (linked_oneCall _)

/-- The parser counts a call of `suitcode.repository_summary`; the builder refuses it. -/
theorem readers_disagree_on_short_name :
    ∃ session,
      CodexSessionParser.parse (oneCallEnvironment "suitcode.repository_summary")
        "/rollout.jsonl" = .ok session ∧
      Linked (rolloutItems (oneCallEnvironment "suitcode.repository_summary")
        "/rollout.jsonl") ∧
      ¬ (CodexTranscriptCapture.build (oneCallEnvironment "suitcode.repository_summary")
        "/rollout.jsonl").Yields (ReadersAgree session) := by
  refine ⟨{ oneCallSession with
    transcriptMetrics :=
      { eventCount := 2
        toolEventCount := 1
        suitcodeToolCallCount := 1 } }, by decide +kernel, linked_oneCall _, ?_⟩
  have hbuild : CodexTranscriptCapture.build (oneCallEnvironment "suitcode.repository_summary")
      "/rollout.jsonl" = raiseValueError "is_suitcode=True requires is_mcp=True" := by
    decide +kernel
  rw [hbuild]
  intro hyields
  rcases hyields.exists_ok with ⟨capture, hcapture, -⟩
  exact absurd hcapture raiseValueError_ne_ok

end SuitCode
