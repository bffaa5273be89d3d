import SuitCode.CursorReaders

/-!
# The calls which results answer

A result is put under the tool which the table of calls has for its id.  The table has
calls under the ids they were given and calls under ids made of their places; a result
gets the tool of the call which was given its id unless a made id is in the way.
-/

namespace SuitCode

open PosixText KeyedList

/-! ## The table of calls -/

theorem leader?_upsertRows {ρ κ : Type} [DecidableEq κ] (key : ρ → κ) (row : ρ)
    (rows : List ρ) (wanted : κ) :
    leader? key (KeyedTable.upsertRows key row rows) wanted =
      if key row = wanted then some row else leader? key rows wanted := by
  induction rows with
  | nil =>
      by_cases hwanted : key row = wanted <;> simp [KeyedTable.upsertRows, leader?, hwanted]
  | cons head rows ih =>
      rw [KeyedTable.upsertRows]
      by_cases hkey : key head = key row
      · by_cases hwanted : key row = wanted <;> simp [leader?, hwanted, hkey]
      · rw [if_neg hkey]
        by_cases hhead : key head = wanted
        · have hrow : key row ≠ wanted := fun hrow => hkey (hhead.trans hrow.symm)
          simp [leader?, hhead, hrow]
        · have hskip : ∀ rest, leader? key (head :: rest) wanted = leader? key rest wanted := by
            intro rest
            simp [leader?, hhead]
          rw [hskip, hskip, ih]

def explicitTool (callId : String) : AgentBlock → Option String
  | .toolUse members =>
      if explicitCallId members = some callId then usedToolName members else none
  | _ => none

def latestExplicitTool (blocks : List AgentBlock) (callId : String) : Option String :=
  (blocks.filterMap (explicitTool callId)).getLast?

variable {blocks : List AgentBlock}

section Calls

variable {rules : CaptureRules} {sessionId callId : String}

def tableTool (rules : CaptureRules) (sessionId : String) (blocks : List AgentBlock)
    (callId : String) : Option String :=
  (leader? CallEntry.callId (readBlocks rules sessionId blocks).calls callId).map
    CallEntry.toolName

theorem latestExplicitTool_append (before after : List AgentBlock) (callId : String) :
    latestExplicitTool (before ++ after) callId =
      (latestExplicitTool after callId).or (latestExplicitTool before callId) := by
  unfold latestExplicitTool
  rw [List.filterMap_append, List.getLast?_append]

def tableId (rules : CaptureRules) (sessionId : String) (blocks : List AgentBlock)
    (members : RolloutMembers) : String :=
  callIdAt sessionId (readBlocks rules sessionId blocks).count members

/-- The tool which the table has for an id changes with a tool use under this id alone. -/
theorem tableTool_snoc (rules : CaptureRules) (sessionId : String) (blocks : List AgentBlock)
    (block : AgentBlock) (callId : String) :
    tableTool rules sessionId (blocks ++ [block]) callId =
      match block with
      | .toolUse members =>
          match usedToolName members with
          | none => tableTool rules sessionId blocks callId
          | some toolName =>
              if tableId rules sessionId blocks members = callId then some toolName
              else tableTool rules sessionId blocks callId
      | _ => tableTool rules sessionId blocks callId := by
  unfold tableTool tableId
  rw [readBlocks_snoc]
  cases block with
  | text text =>
      simp only [readBlock]
      split_ifs <;> rfl
  | toolUse members =>
      cases hname : usedToolName members with
      | none => simp only [readBlock, hname]
      | some toolName =>
          simp only [readBlock, hname]
          rw [leader?_upsertRows, apply_ite (Option.map CallEntry.toolName)]
          rfl
  | toolResult members =>
      simp only [readBlock]
      cases resultEntry (readBlocks rules sessionId blocks).calls members with
      | none => rfl
      | some entry =>
          dsimp only
          split_ifs <;> rfl
  | other => rfl

/-! ## Ids made of places -/

theorem count_readBlock (reading : CaptureReading) (block : AgentBlock) :
    reading.count ≤ (readBlock rules sessionId reading block).count := by
  cases block with
  | text text =>
      simp only [readBlock]
      split_ifs <;> simp
  | toolUse members =>
      cases hname : usedToolName members <;> simp [readBlock, hname]
  | toolResult members =>
      simp only [readBlock]
      cases resultEntry reading.calls members with
      | none => exact le_refl _
      | some entry =>
          dsimp only
          split_ifs <;> simp
  | other => exact le_refl _

theorem count_readBlocks_append (before after : List AgentBlock) :
    (readBlocks rules sessionId before).count ≤
      (readBlocks rules sessionId (before ++ after)).count := by
  induction after using List.reverseRecOn with
  | nil => simp
  | append_singleton after block ih =>
      rw [← List.append_assoc, readBlocks_snoc]
      exact ih.trans (count_readBlock _ _)

theorem count_lt_of_call (rules : CaptureRules) (sessionId : String)
    (before after : List AgentBlock) {members : RolloutMembers}
    {toolName : String} (hname : usedToolName members = some toolName) :
    (readBlocks rules sessionId before).count <
      (readBlocks rules sessionId (before ++ .toolUse members :: after)).count := by
  have hsplit : before ++ .toolUse members :: after =
      before ++ [.toolUse members] ++ after := by simp
  rw [hsplit]
  apply lt_of_lt_of_le _ (count_readBlocks_append _ _)
  rw [readBlocks_snoc]
  simp [readBlock, hname]

theorem callIdAt_injective {left right : ℕ} {first second : RolloutMembers}
    (hfirst : explicitCallId first = none) (hsecond : explicitCallId second = none)
    (hsame : callIdAt sessionId left first = callIdAt sessionId right second) :
    left = right := by
  unfold callIdAt at hsame
  rw [hfirst, hsecond, Option.getD_none, Option.getD_none] at hsame
  have hlist := congrArg String.toList hsame
  simp only [String.toList_append, List.append_cancel_left_eq] at hlist
  have hnumber := congrArg (Nat.ofDigitChars 10 · 0) hlist
  simpa [Nat.toString_eq_ofList_toDigits, Nat.ofDigitChars_ten_toDigits] using hnumber

/-! ## Results of calls which were given ids -/

/-- Where a call without an id is in the table under an id, a later call was given the id,
or the latest earlier one is of the same tool. -/
def NoneInTheWay (rules : CaptureRules) (sessionId : String) (blocks : List AgentBlock)
    (callId : String) : Prop :=
  ∀ earlier members later toolName, blocks = earlier ++ .toolUse members :: later →
    usedToolName members = some toolName → explicitCallId members = none →
    tableId rules sessionId earlier members = callId →
    (latestExplicitTool later callId).isSome = true ∨
      latestExplicitTool earlier callId = some toolName

theorem latestExplicitTool_snoc (blocks : List AgentBlock) (block : AgentBlock)
    (callId : String) :
    latestExplicitTool (blocks ++ [block]) callId =
      (explicitTool callId block).or (latestExplicitTool blocks callId) := by
  rw [latestExplicitTool_append]
  congr 1
  cases hblock : explicitTool callId block <;> simp [latestExplicitTool, hblock]

theorem noneInTheWay_snoc {block : AgentBlock} :
    NoneInTheWay rules sessionId (blocks ++ [block]) callId ↔
      (∀ earlier members later toolName, blocks = earlier ++ .toolUse members :: later →
        usedToolName members = some toolName → explicitCallId members = none →
        tableId rules sessionId earlier members = callId →
        (latestExplicitTool (later ++ [block]) callId).isSome = true ∨
          latestExplicitTool earlier callId = some toolName) ∧
      ∀ members toolName, block = .toolUse members → usedToolName members = some toolName →
        explicitCallId members = none → tableId rules sessionId blocks members = callId →
        latestExplicitTool blocks callId = some toolName := by
  constructor
  · intro hnone
    constructor
    · intro earlier members later toolName hsplit
      apply hnone
      rw [hsplit]
      simp
    · intro members toolName hblock hname hmade htable
      have hlast := hnone blocks members [] toolName (by rw [hblock]) hname hmade htable
      simpa [latestExplicitTool] using hlast
  · rintro ⟨hearlier, hlast⟩ earlier members later toolName hsplit hname hmade htable
    induction later using List.reverseRecOn with
    | nil =>
        obtain ⟨hblocks, hblock⟩ := List.append_inj' hsplit rfl
        rw [List.singleton_inj] at hblock
        rw [← hblocks] at htable ⊢
        exact .inr (hlast members toolName hblock hname hmade htable)
    | append_singleton later last _ =>
        rw [← List.cons_append, ← List.append_assoc] at hsplit
        obtain ⟨hblocks, hblock⟩ := List.append_inj' hsplit rfl
        rw [List.singleton_inj] at hblock
        rw [← hblock]
        exact hearlier earlier members later toolName hblocks hname hmade htable

theorem noneInTheWay_pass {block : AgentBlock} (hexplicit : explicitTool callId block = none)
    (hother : ∀ members toolName, block = .toolUse members →
      usedToolName members = some toolName → explicitCallId members = none →
      tableId rules sessionId blocks members ≠ callId) :
    NoneInTheWay rules sessionId (blocks ++ [block]) callId ↔
      NoneInTheWay rules sessionId blocks callId := by
  have hlatest : ∀ later, latestExplicitTool (later ++ [block]) callId =
      latestExplicitTool later callId := by
    intro later
    rw [latestExplicitTool_snoc, hexplicit, Option.none_or]
  rw [noneInTheWay_snoc]
  simp only [hlatest]
  constructor
  · intro hboth
    exact hboth.1
  · intro hnone
    refine ⟨hnone, ?_⟩
    intro members toolName hblock hname hmade htable
    exact absurd htable (hother members toolName hblock hname hmade)

theorem tableTool_eq_iff (blocks : List AgentBlock) (callId : String) :
    tableTool rules sessionId blocks callId = latestExplicitTool blocks callId ↔
      NoneInTheWay rules sessionId blocks callId := by
  induction blocks using List.reverseRecOn with
  | nil =>
      constructor
      · intro _ earlier members later toolName hsplit
        simp at hsplit
      · intro _
        rfl
  | append_singleton blocks block ih =>
      have hpass : tableTool rules sessionId (blocks ++ [block]) callId =
            tableTool rules sessionId blocks callId →
          explicitTool callId block = none →
          (∀ members toolName, block = .toolUse members →
            usedToolName members = some toolName → explicitCallId members = none →
            tableId rules sessionId blocks members ≠ callId) →
          (tableTool rules sessionId (blocks ++ [block]) callId =
              latestExplicitTool (blocks ++ [block]) callId ↔
            NoneInTheWay rules sessionId (blocks ++ [block]) callId) := by
        intro htable hexplicit hother
        rw [noneInTheWay_pass hexplicit hother, htable, latestExplicitTool_snoc, hexplicit,
          Option.none_or]
        exact ih
      cases block with
      | text text => exact hpass (tableTool_snoc _ _ _ _ _) rfl (by simp)
      | toolResult members => exact hpass (tableTool_snoc _ _ _ _ _) rfl (by simp)
      | other => exact hpass (tableTool_snoc _ _ _ _ _) rfl (by simp)
      | toolUse members =>
          have htable := tableTool_snoc rules sessionId blocks (.toolUse members) callId
          cases hname : usedToolName members with
          | none =>
              simp only [hname] at htable
              apply hpass htable
              · simp [explicitTool, hname]
              · intro last lastTool hblock hlast
                cases hblock
                rw [hname] at hlast
                cases hlast
          | some toolName =>
              simp only [hname] at htable
              by_cases hid : tableId rules sessionId blocks members = callId
              · rw [if_pos hid] at htable
                cases hexplicit : explicitCallId members with
                | some given =>
                    have hgiven : given = callId := by
                      simpa [tableId, callIdAt, hexplicit] using hid
                    have hlatest : ∀ later, latestExplicitTool (later ++ [.toolUse members])
                        callId = some toolName := by
                      intro later
                      rw [latestExplicitTool_snoc]
                      simp [explicitTool, hexplicit, hgiven, hname]
                    rw [htable, hlatest, noneInTheWay_snoc]
                    refine iff_of_true rfl ⟨?_, ?_⟩
                    · intro _ _ later _ _ _ _ _
                      rw [hlatest later]
                      exact .inl rfl
                    · intro last lastTool hblock _ hmade
                      cases hblock
                      rw [hexplicit] at hmade
                      cases hmade
                | none =>
                    have hnone : explicitTool callId (.toolUse members) = none := by
                      simp [explicitTool, hexplicit]
                    rw [htable, latestExplicitTool_snoc, hnone, Option.none_or,
                      noneInTheWay_snoc]
                    constructor
                    · intro hsame
                      constructor
                      · intro earlier first later other hsplit hother hmade hearlier
                        -- the id of the last call is made of a place behind the first's
                        have hplace := callIdAt_injective hmade hexplicit
                          (hearlier.trans hid.symm)
                        have hlt := count_lt_of_call rules sessionId earlier later hother
                        rw [← hsplit, hplace] at hlt
                        exact absurd hlt (lt_irrefl _)
                      · intro last lastTool hblock hlast _ _
                        cases hblock
                        rw [hname, Option.some.injEq] at hlast
                        rw [← hsame, hlast]
                    · rintro ⟨-, hlast⟩
                      exact (hlast members toolName rfl hname hexplicit hid).symm
              · rw [if_neg hid] at htable
                apply hpass htable
                · rw [explicitTool, if_neg]
                  intro hgiven
                  exact hid (by simp [tableId, callIdAt, hgiven])
                · intro last lastTool hblock _ _
                  cases hblock
                  exact hid

theorem isSome_tableTool (rules : CaptureRules) (sessionId : String) {callId : String}
    (hlatest : (latestExplicitTool blocks callId).isSome = true) :
    (tableTool rules sessionId blocks callId).isSome = true := by
  induction blocks using List.reverseRecOn with
  | nil => simp [latestExplicitTool] at hlatest
  | append_singleton blocks block ih =>
      rw [latestExplicitTool_snoc] at hlatest
      rw [tableTool_snoc]
      cases block with
      | toolUse members =>
          cases hname : usedToolName members with
          | none =>
              simp only [hname]
              apply ih
              simpa [explicitTool, hname] using hlatest
          | some toolName =>
              simp only [hname]
              by_cases hid : tableId rules sessionId blocks members = callId
              · rw [if_pos hid]
                rfl
              · rw [if_neg hid]
                apply ih
                have hother : explicitCallId members ≠ some callId := by
                  intro hgiven
                  exact hid (by simp [tableId, callIdAt, hgiven])
                simpa [explicitTool, hother] using hlatest
      | text text => exact ih hlatest
      | toolResult members => exact ih hlatest
      | other => exact ih hlatest

end Calls

/-! ## Outputs -/

def namedOutput (toolOf : String → Option String) : AgentBlock → Option (String × String)
  | .toolResult members =>
      (resultCallId members).bind fun callId =>
        (toolOf callId).map fun toolName => (callId, toolName)
  | _ => none

def outputsBy (toolOf : List AgentBlock → String → Option String) :
    List AgentBlock → List AgentBlock → List (String × String)
  | _, [] => []
  | before, block :: after =>
      (namedOutput (toolOf before) block).toList ++
        outputsBy toolOf (before ++ [block]) after

def explicitOutputs (blocks : List AgentBlock) : List (String × String) :=
  outputsBy latestExplicitTool [] blocks

theorem outputsBy_snoc (toolOf : List AgentBlock → String → Option String)
    (before blocks : List AgentBlock) (block : AgentBlock) :
    outputsBy toolOf before (blocks ++ [block]) =
      outputsBy toolOf before blocks ++
        (namedOutput (toolOf (before ++ blocks)) block).toList := by
  induction blocks generalizing before with
  | nil => simp [outputsBy]
  | cons first rest ih =>
      rw [List.cons_append, outputsBy, ih, outputsBy, List.append_assoc]
      simp

section Outputs

variable {rules : CaptureRules} {sessionId : String}

theorem outputs_readBlocks (hkeeps : ∀ output, rules.keepsOutput output = true)
    (blocks : List AgentBlock) :
    (readBlocks rules sessionId blocks).outputs =
      outputsBy (tableTool rules sessionId) [] blocks := by
  induction blocks using List.reverseRecOn with
  | nil => rfl
  | append_singleton blocks block ih =>
      rw [readBlocks_snoc, outputsBy_snoc, ← ih, List.nil_append]
      cases block with
      | text text =>
          simp only [readBlock, namedOutput]
          split_ifs <;> simp
      | toolUse members =>
          simp only [readBlock, namedOutput]
          cases usedToolName members <;> simp
      | toolResult members =>
          simp only [readBlock, namedOutput, tableTool, resultEntry, hkeeps, if_true]
          cases hid : resultCallId members with
          | none => simp
          | some callId =>
              rw [Option.bind_some, Option.bind_some]
              cases hentry : leader? CallEntry.callId (readBlocks rules sessionId blocks).calls
                  callId with
              | none => simp
              | some entry =>
                  have hkey := leader?_key hentry
                  simp [hkey]
      | other => simp [readBlock, namedOutput]

theorem length_namedOutput (rules : CaptureRules) (sessionId : String)
    (blocks : List AgentBlock) (block : AgentBlock) :
    (namedOutput (latestExplicitTool blocks) block).toList.length ≤
      (namedOutput (tableTool rules sessionId blocks) block).toList.length := by
  cases block with
  | toolResult members =>
      simp only [namedOutput]
      cases resultCallId members with
      | none => simp
      | some callId =>
          rw [Option.bind_some, Option.bind_some]
          cases hlatest : latestExplicitTool blocks callId with
          | none => simp
          | some toolName =>
              have htable : (tableTool rules sessionId blocks callId).isSome = true :=
                isSome_tableTool rules sessionId (by rw [hlatest]; rfl)
              obtain ⟨other, hother⟩ := Option.isSome_iff_exists.mp htable
              rw [hother]
              simp
  | text text => exact le_refl _
  | toolUse members => exact le_refl _
  | other => exact le_refl _

theorem length_explicitOutputs (rules : CaptureRules) (sessionId : String)
    (blocks : List AgentBlock) :
    (explicitOutputs blocks).length ≤
      (outputsBy (tableTool rules sessionId) [] blocks).length := by
  unfold explicitOutputs
  induction blocks using List.reverseRecOn with
  | nil => exact le_refl _
  | append_singleton blocks block ih =>
      rw [outputsBy_snoc, outputsBy_snoc, List.length_append, List.length_append,
        List.nil_append]
      exact Nat.add_le_add ih (length_namedOutput rules sessionId blocks block)

theorem namedOutput_eq_iff (rules : CaptureRules) (sessionId : String)
    (blocks : List AgentBlock) (block : AgentBlock) :
    namedOutput (tableTool rules sessionId blocks) block =
        namedOutput (latestExplicitTool blocks) block ↔
      ∀ members callId, block = .toolResult members → resultCallId members = some callId →
        NoneInTheWay rules sessionId blocks callId := by
  cases block with
  | toolResult members =>
      simp only [namedOutput]
      cases hid : resultCallId members with
      | none =>
          refine iff_of_true rfl ?_
          intro other callId hsame hother
          cases hsame
          rw [hid] at hother
          cases hother
      | some callId =>
          have hpair : Function.Injective fun toolName : String => (callId, toolName) :=
            fun first second hsame => (Prod.mk.inj hsame).2
          rw [Option.bind_some, Option.bind_some, (Option.map_injective hpair).eq_iff,
            tableTool_eq_iff]
          constructor
          · intro hnone other otherId hsame hother
            cases hsame
            rw [hid, Option.some.injEq] at hother
            rw [← hother]
            exact hnone
          · intro hall
            exact hall members callId rfl hid
  | text text => exact iff_of_true rfl (by simp)
  | toolUse members => exact iff_of_true rfl (by simp)
  | other => exact iff_of_true rfl (by simp)

theorem outputsBy_table_eq_iff (blocks : List AgentBlock) :
    outputsBy (tableTool rules sessionId) [] blocks = explicitOutputs blocks ↔
      ∀ before members after callId, blocks = before ++ .toolResult members :: after →
        resultCallId members = some callId → NoneInTheWay rules sessionId before callId := by
  induction blocks using List.reverseRecOn with
  | nil => exact iff_of_true rfl (by simp)
  | append_singleton blocks block ih =>
      have hlength := length_explicitOutputs rules sessionId blocks
      have hlast := length_namedOutput rules sessionId blocks block
      have hone := namedOutput_eq_iff rules sessionId blocks block
      unfold explicitOutputs at ih hlength ⊢
      rw [outputsBy_snoc, outputsBy_snoc, List.nil_append]
      constructor
      · intro hsame before members after callId hsplit hid
        have hboth := congrArg List.length hsame
        rw [List.length_append, List.length_append] at hboth
        obtain ⟨hearlier, hnow⟩ := List.append_inj hsame (by omega)
        induction after using List.reverseRecOn with
        | nil =>
            obtain ⟨hblocks, hblock⟩ := List.append_inj' hsplit rfl
            rw [List.singleton_inj] at hblock
            rw [← hblocks]
            have hhead := congrArg List.head? hnow
            rw [Option.head?_toList, Option.head?_toList] at hhead
            exact hone.mp hhead members callId hblock hid
        | append_singleton after last _ =>
            rw [← List.cons_append, ← List.append_assoc] at hsplit
            obtain ⟨hblocks, -⟩ := List.append_inj' hsplit rfl
            exact ih.mp hearlier before members after callId hblocks hid
      · intro hall
        have hearlier : outputsBy (tableTool rules sessionId) [] blocks =
            outputsBy latestExplicitTool [] blocks := by
          apply ih.mpr
          intro before members after callId hsplit
          apply hall before members (after ++ [block])
          rw [hsplit]
          simp
        have hnow := hone.mpr fun members callId hblock hid =>
          hall blocks members [] callId (by rw [hblock]) hid
        rw [hearlier, hnow]

end Outputs

end SuitCode
