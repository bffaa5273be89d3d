import SuitCode.NativeAgentModels

/-!
# Token estimates of captures

The estimator counts the tokens of a transcript segment by segment, under the kind of each,
and keeps what was counted before the first tool calls.  Segments of system context have no
count of their own.
-/

namespace SuitCode

open ExceptList PosixText

structure TranscriptTokenizer where
  modelFamily : String
  supports : NativeAgentKind → Option String → Bool
  countSegment : TranscriptSegment → ℕ

structure TokenCounts where
  userMessage : ℕ := 0
  assistantMessage : ℕ := 0
  mcpToolCall : ℕ := 0
  mcpToolOutput : ℕ := 0
  customToolCall : ℕ := 0
  customToolOutput : ℕ := 0
  terminalOutput : ℕ := 0
  reasoningSummary : ℕ := 0

namespace TokenCounts

def count (counts : TokenCounts) (tokens : ℕ) : TranscriptSegmentKind → TokenCounts
  | .userMessage => { counts with userMessage := counts.userMessage + tokens }
  | .assistantMessage => { counts with assistantMessage := counts.assistantMessage + tokens }
  | .mcpToolCall => { counts with mcpToolCall := counts.mcpToolCall + tokens }
  | .mcpToolOutput => { counts with mcpToolOutput := counts.mcpToolOutput + tokens }
  | .customToolCall => { counts with customToolCall := counts.customToolCall + tokens }
  | .customToolOutput => { counts with customToolOutput := counts.customToolOutput + tokens }
  | .terminalOutput => { counts with terminalOutput := counts.terminalOutput + tokens }
  | .reasoningSummary => { counts with reasoningSummary := counts.reasoningSummary + tokens }
  | .systemContext => counts

def total (counts : TokenCounts) : ℕ :=
  counts.userMessage + counts.assistantMessage + counts.mcpToolCall + counts.mcpToolOutput +
    counts.customToolCall + counts.customToolOutput + counts.terminalOutput +
      counts.reasoningSummary

theorem total_count (counts : TokenCounts) (tokens : ℕ) (kind : TranscriptSegmentKind) :
    (counts.count tokens kind).total =
      counts.total + if kind = .systemContext then 0 else tokens := by
  cases kind <;> simp only [count, total, reduceCtorEq, if_true, if_false] <;> omega

end TokenCounts

structure TokenEstimate where
  counts : TokenCounts := {}
  runningTotal : ℕ := 0
  firstSuitcodeTool : Option String := none
  firstHighValueTool : Option String := none
  tokensBeforeFirstSuitcodeTool : Option ℕ := none
  tokensBeforeFirstHighValueTool : Option ℕ := none

def isSuitcodeCall (segment : TranscriptSegment) : Bool :=
  segment.isSuitcode && segment.kind = .mcpToolCall

def isHighValueCall (segment : TranscriptSegment) : Bool :=
  isSuitcodeCall segment && segment.canonicalToolName.any (· ∈ highValueTools)

namespace TokenEstimate

def noteFirstTool (estimate : TokenEstimate) (segment : TranscriptSegment) : TokenEstimate :=
  if estimate.firstSuitcodeTool.isNone then
    { estimate with
      firstSuitcodeTool := segment.canonicalToolName
      tokensBeforeFirstSuitcodeTool := some estimate.runningTotal }
  else
    estimate

def noteFirstHighValueTool (estimate : TokenEstimate) (segment : TranscriptSegment) :
    TokenEstimate :=
  if segment.canonicalToolName.any (· ∈ highValueTools) &&
      estimate.firstHighValueTool.isNone then
    { estimate with
      firstHighValueTool := segment.canonicalToolName
      tokensBeforeFirstHighValueTool := some estimate.runningTotal }
  else
    estimate

def noteCall (estimate : TokenEstimate) (segment : TranscriptSegment) : TokenEstimate :=
  if isSuitcodeCall segment then
    (estimate.noteFirstTool segment).noteFirstHighValueTool segment
  else
    estimate

def step (tokenizer : TranscriptTokenizer) (estimate : TokenEstimate)
    (segment : TranscriptSegment) : TokenEstimate :=
  let segmentTokens := tokenizer.countSegment segment
  let counted : TokenEstimate :=
    { estimate with counts := estimate.counts.count segmentTokens segment.kind }
  let noted := counted.noteCall segment
  { noted with runningTotal := noted.runningTotal + segmentTokens }

end TokenEstimate

/-- `TranscriptTokenBreakdown(...)`; counts cannot be negative here. -/
def TranscriptTokenBreakdown.create (breakdown : TranscriptTokenBreakdown) :
    PyResult TranscriptTokenBreakdown :=
  validated
    [(isBlank breakdown.modelFamily, "value must not be empty"),
      (isBlank breakdown.sessionId, "value must not be empty"),
      (breakdown.userMessageTokens + breakdown.assistantMessageTokens +
          breakdown.mcpToolCallTokens + breakdown.mcpToolOutputTokens +
          breakdown.customToolCallTokens + breakdown.customToolOutputTokens +
          breakdown.terminalOutputTokens + breakdown.reasoningSummaryTokens ≠
            breakdown.totalTokens,
        "token category counts must sum to total_tokens"),
      (breakdown.firstSuitcodeTool.isNone && breakdown.tokensBeforeFirstSuitcodeTool.isSome,
        "tokens_before_first_suitcode_tool requires first_suitcode_tool"),
      (breakdown.firstHighValueSuitcodeTool.isNone &&
          breakdown.tokensBeforeFirstHighValueSuitcodeTool.isSome,
        "tokens_before_first_high_value_suitcode_tool requires first_high_value_suitcode_tool")]
    { breakdown with
      modelFamily := strip breakdown.modelFamily
      sessionId := strip breakdown.sessionId }

def NativeAgentKind.value : NativeAgentKind → String
  | .codex => "codex"
  | .claude => "claude"
  | .cursor => "cursor"

def selectTokenizer (tokenizers : List TranscriptTokenizer) (agentKind : NativeAgentKind)
    (modelProvider : Option String) : PyResult TranscriptTokenizer :=
  match tokenizers.find? fun tokenizer => tokenizer.supports agentKind modelProvider with
  | some tokenizer => .ok tokenizer
  | none =>
      let provider :=
        match modelProvider with
        | some provider => if provider = "" then "unknown" else provider
        | none => "unknown"
      raiseValueError
        ("no transcript tokenizer available for agent `" ++ agentKind.value ++
          "` and model provider `" ++ provider ++ "`")

def estimateCapture (tokenizers : List TranscriptTokenizer) (agentKind : NativeAgentKind)
    (modelProvider : Option String) (capture : TranscriptCapture) :
    PyResult TranscriptTokenBreakdown := do
  let tokenizer ← selectTokenizer tokenizers agentKind modelProvider
  let estimate := capture.segments.foldl (TokenEstimate.step tokenizer) {}
  TranscriptTokenBreakdown.create
    { modelFamily := tokenizer.modelFamily
      sessionId := capture.sessionId
      totalTokens := estimate.runningTotal
      userMessageTokens := estimate.counts.userMessage
      assistantMessageTokens := estimate.counts.assistantMessage
      mcpToolCallTokens := estimate.counts.mcpToolCall
      mcpToolOutputTokens := estimate.counts.mcpToolOutput
      customToolCallTokens := estimate.counts.customToolCall
      customToolOutputTokens := estimate.counts.customToolOutput
      terminalOutputTokens := estimate.counts.terminalOutput
      reasoningSummaryTokens := estimate.counts.reasoningSummary
      tokensBeforeFirstSuitcodeTool := estimate.tokensBeforeFirstSuitcodeTool
      tokensBeforeFirstHighValueSuitcodeTool := estimate.tokensBeforeFirstHighValueTool
      firstSuitcodeTool := estimate.firstSuitcodeTool
      firstHighValueSuitcodeTool := estimate.firstHighValueTool }

/-! ## The loop -/

namespace TranscriptTokenizer

def tokensOf (tokenizer : TranscriptTokenizer) (segments : List TranscriptSegment) : ℕ :=
  (segments.map tokenizer.countSegment).sum

def tokensBefore (tokenizer : TranscriptTokenizer) (property : TranscriptSegment → Bool)
    (segments : List TranscriptSegment) : ℕ :=
  tokenizer.tokensOf (segments.takeWhile fun segment => !property segment)

variable (tokenizer : TranscriptTokenizer) {property : TranscriptSegment → Bool}
  {segments : List TranscriptSegment}

@[simp] theorem tokensOf_concat (segment : TranscriptSegment) :
    tokenizer.tokensOf (segments ++ [segment]) =
      tokenizer.tokensOf segments + tokenizer.countSegment segment := by
  simp [tokensOf]

theorem tokensOf_append (later : List TranscriptSegment) :
    tokenizer.tokensOf (segments ++ later) =
      tokenizer.tokensOf segments + tokenizer.tokensOf later := by
  simp [tokensOf]

theorem tokensBefore_concat_of_any (hany : segments.any property = true)
    (segment : TranscriptSegment) :
    tokenizer.tokensBefore property (segments ++ [segment]) =
      tokenizer.tokensBefore property segments := by
  have hnot : ¬ ∀ other ∈ segments, (!property other) = true := by
    intro hall
    obtain ⟨other, hmem, hproperty⟩ := List.any_eq_true.mp hany
    have hother := hall other hmem
    rw [hproperty] at hother
    cases hother
  unfold tokensBefore
  rw [List.takeWhile_append]
  have hlength : (segments.takeWhile fun other => !property other).length ≠
      segments.length := by
    intro hsame
    apply hnot
    apply List.takeWhile_eq_self_iff.mp
    exact (List.takeWhile_prefix _).eq_of_length hsame
  rw [if_neg hlength]

theorem tokensBefore_concat_of_first (hnone : segments.any property = false)
    {segment : TranscriptSegment} (hproperty : property segment = true) :
    tokenizer.tokensBefore property (segments ++ [segment]) = tokenizer.tokensOf segments := by
  have hall : ∀ other ∈ segments, (!property other) = true := by
    simpa using hnone
  unfold tokensBefore
  rw [List.takeWhile_append_of_pos hall, List.takeWhile_cons_of_neg (by simp [hproperty]),
    List.append_nil]

theorem tokensBefore_le : tokenizer.tokensBefore property segments ≤
    tokenizer.tokensOf segments := by
  have hsplit : tokenizer.tokensOf (segments.takeWhile (fun other => !property other) ++
      segments.dropWhile fun other => !property other) =
        tokenizer.tokensOf segments := by
    rw [List.takeWhile_append_dropWhile]
  rw [tokensOf_append] at hsplit
  unfold tokensBefore
  omega

end TranscriptTokenizer

namespace TokenEstimate

variable (tokenizer : TranscriptTokenizer) (estimate : TokenEstimate)
  (segment : TranscriptSegment)

theorem noteFirstTool_eq : estimate.noteFirstTool segment =
    { estimate with
      firstSuitcodeTool :=
        if estimate.firstSuitcodeTool.isNone then segment.canonicalToolName
        else estimate.firstSuitcodeTool
      tokensBeforeFirstSuitcodeTool :=
        if estimate.firstSuitcodeTool.isNone then some estimate.runningTotal
        else estimate.tokensBeforeFirstSuitcodeTool } := by
  unfold noteFirstTool
  by_cases hnone : estimate.firstSuitcodeTool.isNone = true
  · rw [if_pos hnone, if_pos hnone, if_pos hnone]
  · rw [if_neg hnone, if_neg hnone, if_neg hnone]

theorem noteFirstHighValueTool_eq : estimate.noteFirstHighValueTool segment =
    { estimate with
      firstHighValueTool :=
        if segment.canonicalToolName.any (· ∈ highValueTools) &&
            estimate.firstHighValueTool.isNone then segment.canonicalToolName
        else estimate.firstHighValueTool
      tokensBeforeFirstHighValueTool :=
        if segment.canonicalToolName.any (· ∈ highValueTools) &&
            estimate.firstHighValueTool.isNone then some estimate.runningTotal
        else estimate.tokensBeforeFirstHighValueTool } := by
  unfold noteFirstHighValueTool
  by_cases hfirst : (segment.canonicalToolName.any (· ∈ highValueTools) &&
      estimate.firstHighValueTool.isNone) = true
  · rw [if_pos hfirst, if_pos hfirst, if_pos hfirst]
  · rw [if_neg hfirst, if_neg hfirst, if_neg hfirst]

theorem step_eq : estimate.step tokenizer segment =
    { counts := estimate.counts.count (tokenizer.countSegment segment) segment.kind
      runningTotal := estimate.runningTotal + tokenizer.countSegment segment
      firstSuitcodeTool :=
        if isSuitcodeCall segment && estimate.firstSuitcodeTool.isNone then
          segment.canonicalToolName
        else
          estimate.firstSuitcodeTool
      firstHighValueTool :=
        if isHighValueCall segment && estimate.firstHighValueTool.isNone then
          segment.canonicalToolName
        else
          estimate.firstHighValueTool
      tokensBeforeFirstSuitcodeTool :=
        if isSuitcodeCall segment && estimate.firstSuitcodeTool.isNone then
          some estimate.runningTotal
        else
          estimate.tokensBeforeFirstSuitcodeTool
      tokensBeforeFirstHighValueTool :=
        if isHighValueCall segment && estimate.firstHighValueTool.isNone then
          some estimate.runningTotal
        else
          estimate.tokensBeforeFirstHighValueTool } := by
  unfold step noteCall isHighValueCall
  cases hcall : isSuitcodeCall segment with
  | false => rfl
  | true => simp only [if_true, noteFirstHighValueTool_eq, noteFirstTool_eq, Bool.true_and]

end TokenEstimate

def isNamedCall (segment : TranscriptSegment) : Bool :=
  isSuitcodeCall segment && segment.canonicalToolName.isSome

def TranscriptTokenizer.systemTokens (tokenizer : TranscriptTokenizer)
    (segments : List TranscriptSegment) : ℕ :=
  tokenizer.tokensOf (segments.filter fun segment => segment.kind = .systemContext)

structure Estimated (tokenizer : TranscriptTokenizer) (taken : List TranscriptSegment)
    (estimate : TokenEstimate) : Prop where
  running : estimate.runningTotal = tokenizer.tokensOf taken
  counted : estimate.counts.total + tokenizer.systemTokens taken = tokenizer.tokensOf taken
  named : estimate.firstSuitcodeTool.isSome = taken.any isNamedCall
  called : estimate.tokensBeforeFirstSuitcodeTool.isSome = taken.any isSuitcodeCall
  before : taken.any isNamedCall = true → estimate.tokensBeforeFirstSuitcodeTool =
    some (tokenizer.tokensBefore isNamedCall taken)
  highValue : estimate.firstHighValueTool.isSome = taken.any isHighValueCall
  highValueBefore : estimate.tokensBeforeFirstHighValueTool =
    if taken.any isHighValueCall then some (tokenizer.tokensBefore isHighValueCall taken)
    else none

theorem isNamedCall_of_isHighValueCall {segment : TranscriptSegment}
    (hhigh : isHighValueCall segment = true) : isNamedCall segment = true := by
  unfold isHighValueCall at hhigh
  unfold isNamedCall
  cases hname : segment.canonicalToolName with
  | none => simp [hname] at hhigh
  | some name =>
      rw [hname, Bool.and_eq_true] at hhigh
      rw [hhigh.1]
      rfl

theorem Estimated.start (tokenizer : TranscriptTokenizer) : Estimated tokenizer [] {} where
  running := rfl
  counted := rfl
  named := rfl
  called := rfl
  before := by simp
  highValue := rfl
  highValueBefore := rfl

variable {tokenizer : TranscriptTokenizer} {taken : List TranscriptSegment}
  {estimate : TokenEstimate}

theorem Estimated.step (hestimated : Estimated tokenizer taken estimate)
    (segment : TranscriptSegment) :
    Estimated tokenizer (taken ++ [segment]) (estimate.step tokenizer segment) := by
  have hany : ∀ property : TranscriptSegment → Bool,
      (taken ++ [segment]).any property = (taken.any property || property segment) := by
    intro property
    simp
  have hnone : estimate.firstSuitcodeTool.isNone = !taken.any isNamedCall := by
    rw [← hestimated.named, Option.not_isSome]
  have hhighNone : estimate.firstHighValueTool.isNone = !taken.any isHighValueCall := by
    rw [← hestimated.highValue, Option.not_isSome]
  rw [TokenEstimate.step_eq]
  constructor
  case running => simp [hestimated.running]
  case counted =>
    have hsystem : tokenizer.systemTokens (taken ++ [segment]) =
        tokenizer.systemTokens taken +
          if segment.kind = .systemContext then tokenizer.countSegment segment else 0 := by
      unfold TranscriptTokenizer.systemTokens
      rw [List.filter_append, TranscriptTokenizer.tokensOf_append]
      by_cases hkind : segment.kind = .systemContext
      · simp [hkind, TranscriptTokenizer.tokensOf]
      · simp [hkind, TranscriptTokenizer.tokensOf]
    have hcounted := hestimated.counted
    simp only [TokenCounts.total_count, hsystem, TranscriptTokenizer.tokensOf_concat]
    split_ifs <;> omega
  case named =>
    rw [hany, hnone]
    have hnamed := hestimated.named
    unfold isNamedCall at hnamed ⊢
    cases hcall : isSuitcodeCall segment with
    | false => simpa using hnamed
    | true =>
        cases hbefore : taken.any isNamedCall with
        | false =>
            unfold isNamedCall at hbefore
            simp [hbefore]
        | true =>
            unfold isNamedCall at hbefore
            simpa [hbefore] using hnamed
  case called =>
    rw [hany, hnone]
    have hcalled := hestimated.called
    cases hcall : isSuitcodeCall segment with
    | false => simpa using hcalled
    | true =>
        cases hbefore : taken.any isNamedCall with
        | false => simp
        | true => simp [hestimated.before hbefore]
  case before =>
    intro hsome
    rw [hany] at hsome
    rw [hnone]
    cases hbefore : taken.any isNamedCall with
    | true =>
        rw [tokenizer.tokensBefore_concat_of_any hbefore]
        simpa using hestimated.before hbefore
    | false =>
        rw [hbefore, Bool.false_or] at hsome
        have hcall : isSuitcodeCall segment = true := by
          unfold isNamedCall at hsome
          exact (Bool.and_eq_true_iff.mp hsome).1
        rw [tokenizer.tokensBefore_concat_of_first hbefore hsome, ← hestimated.running]
        simp [hcall]
  case highValue =>
    rw [hany, hhighNone]
    have hhigh := hestimated.highValue
    cases hcall : isHighValueCall segment with
    | false => simpa using hhigh
    | true =>
        have hnamed := isNamedCall_of_isHighValueCall hcall
        unfold isNamedCall at hnamed
        rw [Bool.and_eq_true] at hnamed
        cases hbefore : taken.any isHighValueCall with
        | false => simp [hnamed.2]
        | true => simpa [hbefore] using hhigh
  case highValueBefore =>
    rw [hany, hhighNone]
    have hhigh := hestimated.highValueBefore
    cases hbefore : taken.any isHighValueCall with
    | true =>
        rw [tokenizer.tokensBefore_concat_of_any hbefore]
        simpa [hbefore] using hhigh
    | false =>
        cases hcall : isHighValueCall segment with
        | false => simpa [hbefore] using hhigh
        | true =>
            rw [tokenizer.tokensBefore_concat_of_first hbefore hcall, ← hestimated.running]
            simp

theorem Estimated.run (tokenizer : TranscriptTokenizer) (segments : List TranscriptSegment) :
    Estimated tokenizer segments (segments.foldl (TokenEstimate.step tokenizer) {}) := by
  induction segments using List.reverseRecOn with
  | nil => exact .start tokenizer
  | append_singleton segments segment ih =>
      rw [List.foldl_concat]
      exact ih.step segment

/-! ## Estimates of captures -/

/-- The estimate of a capture counts every segment once, and the segments before the first
calls where there are calls of both sorts. -/
structure ConservesTokens (tokenizer : TranscriptTokenizer) (capture : TranscriptCapture)
    (breakdown : TranscriptTokenBreakdown) : Prop where
  total : breakdown.totalTokens = tokenizer.tokensOf capture.segments
  categories : breakdown.userMessageTokens + breakdown.assistantMessageTokens +
    breakdown.mcpToolCallTokens + breakdown.mcpToolOutputTokens +
    breakdown.customToolCallTokens + breakdown.customToolOutputTokens +
    breakdown.terminalOutputTokens + breakdown.reasoningSummaryTokens = breakdown.totalTokens
  ordered : ∀ before highBefore, breakdown.tokensBeforeFirstSuitcodeTool = some before →
    breakdown.tokensBeforeFirstHighValueSuitcodeTool = some highBefore →
      before ≤ highBefore ∧ highBefore ≤ breakdown.totalTokens ∧
        before = tokenizer.tokensBefore isSuitcodeCall capture.segments ∧
          highBefore = tokenizer.tokensBefore isHighValueCall capture.segments

def unnamedStart (segments : List TranscriptSegment) : List TranscriptSegment :=
  (segments.takeWhile fun segment => !isNamedCall segment).dropWhile fun segment =>
    !isSuitcodeCall segment

/-- System context counts nothing, a call without a name does not come alone, and where a tool
of high value is called no tokens lie between the first call and the first named one. -/
structure CountsEverySegment (tokenizer : TranscriptTokenizer) (segments : List TranscriptSegment) :
    Prop where
  system : ∀ segment ∈ segments, segment.kind = .systemContext →
    tokenizer.countSegment segment = 0
  named : segments.any isSuitcodeCall = true → segments.any isNamedCall = true
  unnamed : segments.any isHighValueCall = true →
    ∀ segment ∈ unnamedStart segments, tokenizer.countSegment segment = 0

theorem isSuitcodeCall_of_isNamedCall {segment : TranscriptSegment}
    (hnamed : isNamedCall segment = true) : isSuitcodeCall segment = true := by
  unfold isNamedCall at hnamed
  exact (Bool.and_eq_true_iff.mp hnamed).1

namespace TranscriptTokenizer

variable {segments : List TranscriptSegment}

theorem tokensOf_eq_zero_iff : tokenizer.tokensOf segments = 0 ↔
    ∀ segment ∈ segments, tokenizer.countSegment segment = 0 := by
  unfold tokensOf
  rw [List.sum_eq_zero_iff_forall_eq_nat, List.forall_mem_map]

theorem systemTokens_eq_zero_iff : tokenizer.systemTokens segments = 0 ↔
    ∀ segment ∈ segments, segment.kind = .systemContext →
      tokenizer.countSegment segment = 0 := by
  unfold systemTokens
  rw [tokensOf_eq_zero_iff]
  simp

theorem tokensBefore_isNamedCall : tokenizer.tokensBefore isNamedCall segments =
    tokenizer.tokensBefore isSuitcodeCall segments +
      tokenizer.tokensOf (unnamedStart segments) := by
  have hstart : (segments.takeWhile fun segment => !isSuitcodeCall segment) =
      (segments.takeWhile fun segment => !isNamedCall segment).takeWhile fun segment =>
        !isSuitcodeCall segment := by
    rw [List.takeWhile_takeWhile]
    congr 1
    funext segment
    cases hnamed : isNamedCall segment with
    | false => simp
    | true => simp [isSuitcodeCall_of_isNamedCall hnamed]
  unfold tokensBefore unnamedStart
  rw [hstart, ← tokensOf_append, List.takeWhile_append_dropWhile]

theorem tokensBefore_mono {property weaker : TranscriptSegment → Bool}
    (hweaker : ∀ segment, property segment = true → weaker segment = true) :
    tokenizer.tokensBefore weaker segments ≤ tokenizer.tokensBefore property segments := by
  have hstart : (segments.takeWhile fun segment => !weaker segment) =
      (segments.takeWhile fun segment => !property segment).takeWhile fun segment =>
        !weaker segment := by
    rw [List.takeWhile_takeWhile]
    congr 1
    funext segment
    cases hproperty : property segment with
    | false => simp
    | true => simp [hweaker segment hproperty]
  unfold tokensBefore
  rw [hstart]
  exact tokenizer.tokensBefore_le

end TranscriptTokenizer

variable {tokenizers : List TranscriptTokenizer} {agentKind : NativeAgentKind}
  {modelProvider : Option String} {capture raw : TranscriptCapture}

theorem sessionId_of_created (hcapture : raw.create = .ok capture) :
    isBlank capture.sessionId = false := by
  obtain ⟨checked, hchecked, hrest⟩ := bind_eq_ok.mp hcapture
  obtain ⟨-, -, hsame⟩ := bind_eq_ok.mp hrest
  obtain ⟨hresult, hchecks⟩ := validated_eq_ok.mp hchecked
  rw [pure_eq_ok] at hsame
  rw [← hsame, ← hresult, isBlank_strip]
  exact hchecks _ List.mem_cons_self

/-- A capture is estimated, with its tokens conserved, exactly where its segments can be
counted. -/
theorem estimateCapture_conserves_iff (hcapture : raw.create = .ok capture)
    (hselect : selectTokenizer tokenizers agentKind modelProvider = .ok tokenizer)
    (hfamily : isBlank tokenizer.modelFamily = false) :
    (∃ breakdown, estimateCapture tokenizers agentKind modelProvider capture = .ok breakdown ∧
        ConservesTokens tokenizer capture breakdown) ↔
      CountsEverySegment tokenizer capture.segments := by
  have hestimated := Estimated.run tokenizer capture.segments
  have hsession := sessionId_of_created hcapture
  have hcounted := hestimated.counted
  have hrunning := hestimated.running
  have hnamed := hestimated.named
  have hcalled := hestimated.called
  have hhigh := hestimated.highValue
  have hbefore := hestimated.before
  have hhighBefore := hestimated.highValueBefore
  unfold estimateCapture
  rw [hselect, ok_bind]
  unfold TranscriptTokenBreakdown.create
  generalize capture.segments.foldl (TokenEstimate.step tokenizer) {} = estimate at *
  unfold TokenCounts.total at hcounted
  constructor
  · intro hresult
    obtain ⟨breakdown, hok, hconserves⟩ := hresult
    obtain ⟨hbreakdown, hchecks⟩ := validated_eq_ok.mp hok
    simp only [List.forall_mem_cons, decide_eq_false_iff_not, not_not] at hchecks
    obtain ⟨-, -, hsum, hfirst, -, -⟩ := hchecks
    subst hbreakdown
    have hname : capture.segments.any isSuitcodeCall = true →
        capture.segments.any isNamedCall = true := by
      intro hcall
      rw [← hcalled] at hcall
      rw [← hnamed]
      rw [hcall, Bool.and_true] at hfirst
      simpa using hfirst
    constructor
    case system =>
      apply TranscriptTokenizer.systemTokens_eq_zero_iff.mp
      omega
    case named => exact hname
    case unnamed =>
      intro hany
      have hcalls : capture.segments.any isNamedCall = true := by
        obtain ⟨segment, hmem, hsegment⟩ := List.any_eq_true.mp hany
        exact List.any_eq_true.mpr ⟨segment, hmem, isNamedCall_of_isHighValueCall hsegment⟩
      rw [if_pos hany] at hhighBefore
      obtain ⟨-, -, hsame, -⟩ := hconserves.ordered _ _ (hbefore hcalls) hhighBefore
      rw [tokenizer.tokensBefore_isNamedCall] at hsame
      apply TranscriptTokenizer.tokensOf_eq_zero_iff.mp
      omega
  · intro hcountable
    have hsystem := TranscriptTokenizer.systemTokens_eq_zero_iff.mpr hcountable.system
    refine ⟨_, validated_eq_ok.mpr ⟨rfl, ?_⟩, ?_⟩
    · simp only [List.forall_mem_cons, decide_eq_false_iff_not, not_not]
      refine ⟨hfamily, hsession, by omega, ?_, ?_, by simp⟩
      · cases hcall : capture.segments.any isSuitcodeCall with
        | false =>
            rw [hcalled, hcall, Bool.and_false]
        | true =>
            have hsome := hnamed.trans (hcountable.named hcall)
            rw [← Option.not_isSome, hsome]
            rfl
      · rw [← Option.not_isSome, hhigh, hhighBefore]
        cases capture.segments.any isHighValueCall with
        | false => rfl
        | true => rfl
    · constructor
      case total => exact hrunning
      case categories =>
        dsimp only
        omega
      case ordered =>
        dsimp only
        intro before highBefore hsome hsomeHigh
        rw [hsomeHigh] at hhighBefore
        cases hany : capture.segments.any isHighValueCall with
        | false => simp [hany] at hhighBefore
        | true =>
            have hcalls : capture.segments.any isNamedCall = true := by
              obtain ⟨segment, hmem, hsegment⟩ := List.any_eq_true.mp hany
              exact List.any_eq_true.mpr
                ⟨segment, hmem, isNamedCall_of_isHighValueCall hsegment⟩
            have hgap := TranscriptTokenizer.tokensOf_eq_zero_iff.mpr
              (hcountable.unnamed hany)
            have hsplit : tokenizer.tokensBefore isNamedCall capture.segments =
                tokenizer.tokensBefore isSuitcodeCall capture.segments +
                  tokenizer.tokensOf (unnamedStart capture.segments) :=
              tokenizer.tokensBefore_isNamedCall
            have hfirst := hbefore hcalls
            rw [hsome, Option.some.injEq] at hfirst
            rw [hany, if_pos rfl, Option.some.injEq] at hhighBefore
            have hle : tokenizer.tokensBefore isNamedCall capture.segments ≤
                tokenizer.tokensBefore isHighValueCall capture.segments :=
              tokenizer.tokensBefore_mono fun _ hhigh => isNamedCall_of_isHighValueCall hhigh
            have htotal : tokenizer.tokensBefore isHighValueCall capture.segments ≤
                tokenizer.tokensOf capture.segments :=
              tokenizer.tokensBefore_le
            omega

/-! ## A capture with system context -/

namespace EstimateSample

def characters : TranscriptTokenizer :=
  ⟨"sample", fun _ _ => true, fun segment => segment.contentText.toList.length⟩

def oneSegment (kind : TranscriptSegmentKind) : TranscriptCapture :=
  { sessionId := "s"
    repositoryRoot := none
    artifactPath := "s.jsonl"
    segments :=
      [{ segmentId := "s:1"
         sessionId := "s"
         sequenceIndex := 1
         timestampUtc := "2026-01-01T00:00:00Z"
         kind := kind
         contentText := "text"
         contentBytes := 4 }] }

end EstimateSample

/-- The characterization at a capture of one message. -/
theorem estimateCapture_conserves_iff_oneMessage :
    (∃ breakdown, estimateCapture [EstimateSample.characters] .codex none
          (EstimateSample.oneSegment .userMessage) = .ok breakdown ∧
        ConservesTokens EstimateSample.characters (EstimateSample.oneSegment .userMessage)
          breakdown) ↔
      CountsEverySegment EstimateSample.characters (EstimateSample.oneSegment .userMessage).segments := by
  have hcapture : (EstimateSample.oneSegment .userMessage).create =
      .ok (EstimateSample.oneSegment .userMessage) := by
    decide
  exact estimateCapture_conserves_iff hcapture rfl (by decide)

/-- A capture of system context is not estimated. -/
theorem estimateCapture_not_always_conserves :
    ¬ ∀ (tokenizers : List TranscriptTokenizer) (agentKind : NativeAgentKind)
      (modelProvider : Option String) (tokenizer : TranscriptTokenizer)
      (raw capture : TranscriptCapture), raw.create = .ok capture →
        (∀ segment ∈ capture.segments, segment.Valid) →
          selectTokenizer tokenizers agentKind modelProvider = .ok tokenizer →
            isBlank tokenizer.modelFamily = false →
              ∃ breakdown, estimateCapture tokenizers agentKind modelProvider capture =
                  .ok breakdown ∧ ConservesTokens tokenizer capture breakdown := by
  intro halways
  have hcapture : (EstimateSample.oneSegment .systemContext).create =
      .ok (EstimateSample.oneSegment .systemContext) := by
    decide
  have hvalid : ∀ segment ∈ (EstimateSample.oneSegment .systemContext).segments,
      segment.Valid := by
    intro segment hmem
    rw [List.mem_singleton.mp hmem]
    constructor <;> decide
  obtain ⟨breakdown, hok, -⟩ := halways [EstimateSample.characters] .codex none
    EstimateSample.characters _ _ hcapture hvalid rfl (by decide)
  have hrefused : (estimateCapture [EstimateSample.characters] .codex none
      (EstimateSample.oneSegment .systemContext)).isOk = false := by
    decide
  rw [hok] at hrefused
  cases hrefused

end SuitCode
