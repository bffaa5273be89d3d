import SuitCode.Provenance
import SuitCode.Library.FirstOccurrences
import SuitCode.Library.KeyedTable
import Mathlib.Data.Finset.Card

/-!
# Previews of implementation flows

The steps of a flow are ranked, and a preview shows the first step of each kind before the
others, up to the limit of a detail level.
-/

namespace SuitCode

open KeyedList KeyedTable

inductive FlowStepKind where
  | symbolAnchor
  | externalReferenceAnchor
  | testSeam
  | stateSite
  | propEdge
  | renderEdge
  | localFlowEdge
  | eventSubscribe
  | eventPublish
  | apiCall
  | contractUse
  | implementationAnchor
  | relatedTestAnchor
  deriving DecidableEq, Repr

def FlowStepKind.value : FlowStepKind → String
  | .symbolAnchor => "symbol_anchor"
  | .externalReferenceAnchor => "external_reference_anchor"
  | .testSeam => "test_seam"
  | .stateSite => "state_site"
  | .propEdge => "prop_edge"
  | .renderEdge => "render_edge"
  | .localFlowEdge => "local_flow_edge"
  | .eventSubscribe => "event_subscribe"
  | .eventPublish => "event_publish"
  | .apiCall => "api_call"
  | .contractUse => "contract_use"
  | .implementationAnchor => "implementation_anchor"
  | .relatedTestAnchor => "related_test_anchor"

/-- `_step_kind_priority`. -/
def FlowStepKind.priority : FlowStepKind → ℕ
  | .symbolAnchor => 0
  | .externalReferenceAnchor => 1
  | .testSeam => 2
  | .stateSite => 3
  | .eventSubscribe => 4
  | .eventPublish => 5
  | .apiCall => 6
  | .contractUse => 7
  | .propEdge => 8
  | .renderEdge => 9
  | .localFlowEdge => 10
  | .implementationAnchor => 11
  | .relatedTestAnchor => 12

structure FlowStep where
  repositoryRelPath : String
  lineStart : ℕ
  columnStart : ℕ
  stepKind : FlowStepKind
  sourceLabel : String
  targetLabel : Option String
  detailLabel : Option String
  provenance : List ProvenanceEntry
  deriving DecidableEq, Repr

structure FlowStepKey where
  repositoryRelPath : String
  lineStart : ℕ
  columnStart : ℕ
  stepKind : FlowStepKind
  sourceLabel : String
  targetLabel : Option String
  detailLabel : Option String
  deriving DecidableEq, Repr

def stepKey (step : FlowStep) : FlowStepKey :=
  ⟨step.repositoryRelPath, step.lineStart, step.columnStart, step.stepKind, step.sourceLabel,
    step.targetLabel, step.detailLabel⟩

/-- One step of `_dedupe_steps`: the entries of an equal step before it come first. -/
def mergeStep (merged : List FlowStep) (item : FlowStep) : List FlowStep :=
  match leader? stepKey merged (stepKey item) with
  | none => upsertRows stepKey item merged
  | some existing =>
      upsertRows stepKey
        { item with provenance := mergedProvenance [existing.provenance, item.provenance] } merged

def dedupeSteps (steps : List FlowStep) : List FlowStep :=
  steps.foldl mergeStep []

def stepRankKey (step : FlowStep) :
    ℕ ×ₗ String ×ₗ ℕ ×ₗ ℕ ×ₗ String ×ₗ String ×ₗ String :=
  toLex (step.stepKind.priority, toLex (step.repositoryRelPath, toLex (step.lineStart,
    toLex (step.columnStart, toLex (step.sourceLabel,
      toLex (step.targetLabel.getD "", step.detailLabel.getD ""))))))

def rankSteps (steps : List FlowStep) : List FlowStep := sortedBy stepRankKey steps

def previewLimit (detailLevel : String) : ℕ :=
  if detailLevel = "compact" then 4
  else if detailLevel = "standard" then 6
  else 10

/-- The loop of `_kind_diverse_preview`, with the steps and the kinds it has taken. -/
def kindDiverseFrom (limit : ℕ) : List FlowStep → List FlowStepKind → List FlowStep →
    List FlowStep
  | preview, _, [] => preview
  | preview, seenKinds, step :: steps =>
      if step.stepKind ∈ seenKinds then
        kindDiverseFrom limit preview seenKinds steps
      else if limit ≤ (preview ++ [step]).length then
        preview ++ [step]
      else
        kindDiverseFrom limit (preview ++ [step]) (step.stepKind :: seenKinds) steps

def kindDiversePreview (limit : ℕ) (steps : List FlowStep) : List FlowStep :=
  kindDiverseFrom limit [] [] steps

/-- The loop of `_remaining_preview_steps`. -/
def remainingFrom (limit : ℕ) (previewKeys : List FlowStepKey) : List FlowStep →
    List FlowStep → List FlowStep
  | remaining, [] => remaining
  | remaining, step :: steps =>
      if stepKey step ∈ previewKeys then
        remainingFrom limit previewKeys remaining steps
      else if limit ≤ (remaining ++ [step]).length then
        remaining ++ [step]
      else
        remainingFrom limit previewKeys (remaining ++ [step]) steps

def remainingPreviewSteps (limit : ℕ) (steps preview : List FlowStep) : List FlowStep :=
  remainingFrom limit (preview.map stepKey) [] steps

def capSteps (detailLevel : String) (steps : List FlowStep) : List FlowStep :=
  let limit := previewLimit detailLevel
  if steps.length ≤ limit then steps
  else
    let preview := kindDiversePreview limit steps
    if limit ≤ preview.length then preview
    else preview ++ remainingPreviewSteps (limit - preview.length) steps preview

/-- A preview of some steps: as many as fit, and of as many kinds, each of which it shows by
its highest-ranked step. -/
structure DiversePreview (limit : ℕ) (steps preview : List FlowStep) : Prop where
  count : preview.length = min limit steps.length
  distinct : (preview.map stepKey).Nodup
  taken : preview ⊆ steps
  kinds : (preview.map FlowStep.stepKind).toFinset.card =
    min limit (steps.map FlowStep.stepKind).toFinset.card
  highest : ∀ step ∈ preview, ∃ best ∈ preview, best.stepKind = step.stepKind ∧
    ∀ other ∈ steps, other.stepKind = step.stepKind → stepRankKey best ≤ stepRankKey other

/-! ## Distinct steps -/

section Distinct

variable {merged steps : List FlowStep}

theorem map_stepKey_mergeStep (merged : List FlowStep) (item : FlowStep) :
    (mergeStep merged item).map stepKey =
      if stepKey item ∈ merged.map stepKey then merged.map stepKey
      else merged.map stepKey ++ [stepKey item] := by
  unfold mergeStep
  cases leader? stepKey merged (stepKey item) with
  | none => exact map_key_upsertRows stepKey item merged
  | some existing =>
      exact map_key_upsertRows stepKey
        { item with provenance := mergedProvenance [existing.provenance, item.provenance] } merged

theorem nodup_mergeStep (hdistinct : (merged.map stepKey).Nodup) (item : FlowStep) :
    ((mergeStep merged item).map stepKey).Nodup := by
  rw [map_stepKey_mergeStep]
  by_cases hmem : stepKey item ∈ merged.map stepKey
  · rw [if_pos hmem]
    exact hdistinct
  · rw [if_neg hmem, ← List.concat_eq_append]
    exact hdistinct.concat hmem

theorem mem_map_mergeStep {item : FlowStep} {wanted : FlowStepKey} :
    wanted ∈ (mergeStep merged item).map stepKey ↔
      wanted ∈ merged.map stepKey ∨ wanted = stepKey item := by
  rw [map_stepKey_mergeStep]
  by_cases hmem : stepKey item ∈ merged.map stepKey
  · rw [if_pos hmem]
    constructor
    · exact Or.inl
    · intro hwanted
      cases hwanted with
      | inl hold => exact hold
      | inr heq =>
          rw [heq]
          exact hmem
  · rw [if_neg hmem, List.mem_append, List.mem_singleton]

theorem foldl_mergeStep (hdistinct : (merged.map stepKey).Nodup) :
    ((steps.foldl mergeStep merged).map stepKey).Nodup ∧
      ∀ wanted, wanted ∈ (steps.foldl mergeStep merged).map stepKey ↔
        wanted ∈ merged.map stepKey ∨ wanted ∈ steps.map stepKey := by
  induction steps generalizing merged with
  | nil => exact ⟨hdistinct, fun wanted => by simp⟩
  | cons item steps ih =>
      obtain ⟨hnodup, hkeys⟩ := ih (nodup_mergeStep hdistinct item)
      refine ⟨hnodup, ?_⟩
      intro wanted
      rw [List.foldl_cons, hkeys, mem_map_mergeStep, List.map_cons, List.mem_cons, or_assoc]

theorem nodup_dedupeSteps (steps : List FlowStep) :
    ((dedupeSteps steps).map stepKey).Nodup :=
  (foldl_mergeStep (by simp)).1

/-- Steps are merged with steps of their own key, and no key is lost. -/
theorem mem_map_dedupeSteps {wanted : FlowStepKey} :
    wanted ∈ (dedupeSteps steps).map stepKey ↔ wanted ∈ steps.map stepKey := by
  unfold dedupeSteps
  rw [(foldl_mergeStep (by simp)).2 wanted]
  simp

end Distinct

/-! ## The loops -/

theorem previewLimit_pos (detailLevel : String) : 0 < previewLimit detailLevel := by
  unfold previewLimit
  split
  · omega
  · split
    · omega
    · omega

theorem kindDiverseFrom_eq {limit : ℕ} {preview : List FlowStep} {seenKinds : List FlowStepKind}
    {steps : List FlowStep} (hfew : preview.length < limit) :
    kindDiverseFrom limit preview seenKinds steps =
      preview ++ (dedupeFrom FlowStep.stepKind seenKinds steps).take (limit - preview.length) := by
  induction steps generalizing preview seenKinds with
  | nil => simp [kindDiverseFrom, dedupeFrom]
  | cons step steps ih =>
      unfold kindDiverseFrom dedupeFrom
      by_cases hseen : step.stepKind ∈ seenKinds
      · rw [if_pos hseen, if_pos hseen]
        exact ih hfew
      · rw [if_neg hseen, if_neg hseen]
        have hcount : limit - preview.length = limit - (preview ++ [step]).length + 1 := by
          rw [List.length_append, List.length_singleton]
          omega
        rw [hcount, List.take_succ_cons]
        by_cases hcap : limit ≤ (preview ++ [step]).length
        · rw [if_pos hcap, Nat.sub_eq_zero_of_le hcap, List.take_zero]
        · rw [if_neg hcap, ih (Nat.lt_of_not_le hcap), List.append_assoc]
          rfl

theorem kindDiversePreview_eq {limit : ℕ} (hlimit : 0 < limit) (steps : List FlowStep) :
    kindDiversePreview limit steps = (dedupeBy FlowStep.stepKind steps).take limit := by
  unfold kindDiversePreview dedupeBy
  rw [kindDiverseFrom_eq hlimit, List.nil_append]
  rfl

theorem remainingFrom_eq {limit : ℕ} {previewKeys : List FlowStepKey}
    {remaining steps : List FlowStep} (hfew : remaining.length < limit) :
    remainingFrom limit previewKeys remaining steps =
      remaining ++ (steps.filter fun step => stepKey step ∉ previewKeys).take
        (limit - remaining.length) := by
  induction steps generalizing remaining with
  | nil => simp [remainingFrom]
  | cons step steps ih =>
      unfold remainingFrom
      by_cases hkept : stepKey step ∈ previewKeys
      · rw [if_pos hkept, ih hfew, List.filter_cons_of_neg (by simpa using hkept)]
      · rw [if_neg hkept, List.filter_cons_of_pos (by simpa using hkept)]
        have hcount : limit - remaining.length = limit - (remaining ++ [step]).length + 1 := by
          rw [List.length_append, List.length_singleton]
          omega
        rw [hcount, List.take_succ_cons]
        by_cases hcap : limit ≤ (remaining ++ [step]).length
        · rw [if_pos hcap, Nat.sub_eq_zero_of_le hcap, List.take_zero]
        · rw [if_neg hcap, ih (Nat.lt_of_not_le hcap), List.append_assoc]
          rfl

def firstSteps (limit : ℕ) (steps : List FlowStep) : List FlowStep :=
  (dedupeBy FlowStep.stepKind steps).take limit

theorem capSteps_eq (detailLevel : String) {steps : List FlowStep}
    (hmany : previewLimit detailLevel < steps.length) :
    capSteps detailLevel steps =
      (placedFirst stepKey (firstSteps (previewLimit detailLevel) steps) steps).take
        (previewLimit detailLevel) := by
  have hlimit := previewLimit_pos detailLevel
  have hlength : (firstSteps (previewLimit detailLevel) steps).length ≤
      previewLimit detailLevel := by
    exact List.length_take_le _ _
  have hdiverse : kindDiversePreview (previewLimit detailLevel) steps =
      firstSteps (previewLimit detailLevel) steps := kindDiversePreview_eq hlimit steps
  unfold capSteps
  simp only [if_neg (Nat.not_le.mpr hmany), hdiverse]
  unfold placedFirst
  rw [List.take_append, List.take_of_length_le hlength]
  by_cases hcap : previewLimit detailLevel ≤
      (firstSteps (previewLimit detailLevel) steps).length
  · rw [if_pos hcap, Nat.sub_eq_zero_of_le hcap, List.take_zero, List.append_nil]
  · rw [if_neg hcap]
    have hless : 0 < previewLimit detailLevel -
        (firstSteps (previewLimit detailLevel) steps).length := by
      omega
    unfold remainingPreviewSteps
    rw [remainingFrom_eq hless, List.nil_append]
    rfl

/-! ## The preview -/

section Preview

variable {limit : ℕ} {steps : List FlowStep}

theorem mem_of_mem_firstSteps {step : FlowStep} (hstep : step ∈ firstSteps limit steps) :
    step ∈ steps :=
  mem_of_mem_dedupeBy (List.mem_of_mem_take hstep)

theorem nodup_stepKind_firstSteps (limit : ℕ) (steps : List FlowStep) :
    ((firstSteps limit steps).map FlowStep.stepKind).Nodup :=
  (nodup_map_dedupeBy FlowStep.stepKind steps).sublist ((List.take_sublist _ _).map _)

theorem nodup_stepKey_firstSteps (limit : ℕ) (hkeys : (steps.map stepKey).Nodup) :
    ((firstSteps limit steps).map stepKey).Nodup := by
  have hsublist : (firstSteps limit steps).Sublist steps :=
    (List.take_sublist _ _).trans (dedupeFrom_sublist FlowStep.stepKind [] steps)
  exact hkeys.sublist (hsublist.map stepKey)

theorem card_stepKind (steps : List FlowStep) :
    (steps.map FlowStep.stepKind).toFinset.card = (dedupeBy FlowStep.stepKind steps).length := by
  have hsame : (steps.map FlowStep.stepKind).toFinset =
      ((dedupeBy FlowStep.stepKind steps).map FlowStep.stepKind).toFinset := by
    ext kind
    rw [List.mem_toFinset, List.mem_toFinset, mem_map_dedupeBy_iff]
  rw [hsame, List.toFinset_card_of_nodup (nodup_map_dedupeBy FlowStep.stepKind steps),
    List.length_map]

theorem length_placed (hkeys : (steps.map stepKey).Nodup) :
    (placedFirst stepKey (firstSteps limit steps) steps).length = steps.length := by
  rw [length_placedFirst_eq_iff (nodup_stepKey_firstSteps limit hkeys) hkeys]
  intro wanted hwanted
  obtain ⟨step, hstep, rfl⟩ := List.mem_map.mp hwanted
  exact List.mem_map_of_mem (mem_of_mem_firstSteps hstep)

theorem mem_of_mem_placed {step : FlowStep}
    (hstep : step ∈ placedFirst stepKey (firstSteps limit steps) steps) : step ∈ steps := by
  unfold placedFirst at hstep
  rw [List.mem_append] at hstep
  cases hstep with
  | inl hfirst => exact mem_of_mem_firstSteps hfirst
  | inr hother => exact (List.mem_filter.mp hother).1

theorem take_placed (limit : ℕ) (steps : List FlowStep) :
    (limit ≤ (dedupeBy FlowStep.stepKind steps).length ∧
        (placedFirst stepKey (firstSteps limit steps) steps).take limit =
          firstSteps limit steps) ∨
      ((dedupeBy FlowStep.stepKind steps).length < limit ∧
        ∀ step ∈ dedupeBy FlowStep.stepKind steps,
          step ∈ (placedFirst stepKey (firstSteps limit steps) steps).take limit) := by
  unfold placedFirst
  by_cases hfull : limit ≤ (dedupeBy FlowStep.stepKind steps).length
  · left
    have hlength : (firstSteps limit steps).length = limit := by
      rw [firstSteps, List.length_take, Nat.min_eq_left hfull]
    refine ⟨hfull, ?_⟩
    exact List.take_left' hlength
  · right
    have hless : (dedupeBy FlowStep.stepKind steps).length < limit := Nat.lt_of_not_le hfull
    have hall : firstSteps limit steps = dedupeBy FlowStep.stepKind steps :=
      List.take_of_length_le hless.le
    refine ⟨hless, ?_⟩
    intro step hstep
    rw [hall, List.take_append, List.take_of_length_le hless.le]
    exact List.mem_append_left _ hstep

theorem card_stepKind_take (limit : ℕ) (steps : List FlowStep) :
    (((placedFirst stepKey (firstSteps limit steps) steps).take limit).map
        FlowStep.stepKind).toFinset.card =
      min limit (steps.map FlowStep.stepKind).toFinset.card := by
  cases take_placed limit steps with
  | inl hfull =>
      rw [hfull.2, List.toFinset_card_of_nodup (nodup_stepKind_firstSteps limit steps),
        List.length_map, firstSteps, List.length_take, card_stepKind]
  | inr hall =>
      have hsame : (((placedFirst stepKey (firstSteps limit steps) steps).take limit).map
          FlowStep.stepKind).toFinset = (steps.map FlowStep.stepKind).toFinset := by
        ext kind
        rw [List.mem_toFinset, List.mem_toFinset]
        constructor
        · intro hkind
          obtain ⟨step, hstep, rfl⟩ := List.mem_map.mp hkind
          exact List.mem_map_of_mem (mem_of_mem_placed (List.mem_of_mem_take hstep))
        · intro hkind
          rw [← mem_map_dedupeBy_iff] at hkind
          obtain ⟨step, hstep, rfl⟩ := List.mem_map.mp hkind
          exact List.mem_map_of_mem (hall.2 step hstep)
      rw [hsame, card_stepKind, Nat.min_eq_right hall.1.le]

theorem exists_leader_take {step : FlowStep}
    (hstep : step ∈ (placedFirst stepKey (firstSteps limit steps) steps).take limit) :
    ∃ best ∈ (placedFirst stepKey (firstSteps limit steps) steps).take limit,
      leader? FlowStep.stepKind steps step.stepKind = some best := by
  cases take_placed limit steps with
  | inl hfull =>
      rw [hfull.2] at hstep
      refine ⟨step, ?_, ?_⟩
      · rw [hfull.2]
        exact hstep
      · exact mem_dedupeBy_iff.mp (List.mem_of_mem_take hstep)
  | inr hall =>
      obtain ⟨best, hbest⟩ := exists_leader FlowStep.stepKind
        (mem_of_mem_placed (List.mem_of_mem_take hstep))
      exact ⟨best, hall.2 best (leader_mem_dedupeBy hbest), hbest⟩

theorem rank_leader_le {kind : FlowStepKind} {best other : FlowStep}
    (hbest : leader? FlowStep.stepKind (rankSteps steps) kind = some best)
    (hother : other ∈ steps) (hkind : other.stepKind = kind) :
    stepRankKey best ≤ stepRankKey other := by
  have hsorted := pairwise_sortedBy stepRankKey steps
  have hmem : other ∈ rankSteps steps := mem_sortedBy.mpr hother
  unfold leader? at hbest
  obtain ⟨-, front, back, hsplit, hfront⟩ := List.find?_eq_some_iff_append.mp hbest
  unfold rankSteps at hmem hsplit
  rw [hsplit] at hmem hsorted
  rw [List.mem_append, List.mem_cons] at hmem
  rcases hmem with hbefore | rfl | hafter
  · have hne := hfront other hbefore
    simp [hkind] at hne
  · exact le_refl _
  · exact (List.pairwise_cons.mp (List.pairwise_append.mp hsorted).2.1).1 other hafter

theorem diversePreview_of_fits {detailLevel : String} (hkeys : (steps.map stepKey).Nodup)
    (hfits : steps.length ≤ previewLimit detailLevel) :
    DiversePreview (previewLimit detailLevel) steps
      (capSteps detailLevel (rankSteps steps)) := by
  have hperm : (rankSteps steps).Perm steps := sortedBy_perm stepRankKey steps
  have hall : capSteps detailLevel (rankSteps steps) = rankSteps steps := by
    unfold capSteps
    simp only [hperm.length_eq, if_pos hfits]
  have hkinds : ((rankSteps steps).map FlowStep.stepKind).toFinset =
      (steps.map FlowStep.stepKind).toFinset :=
    List.toFinset_eq_of_perm _ _ (hperm.map FlowStep.stepKind)
  have hcard : (steps.map FlowStep.stepKind).toFinset.card ≤ previewLimit detailLevel :=
    (List.toFinset_card_le _).trans (by rwa [List.length_map])
  rw [hall]
  constructor
  case count => rw [hperm.length_eq, Nat.min_eq_right hfits]
  case distinct => exact (hperm.map stepKey).nodup_iff.mpr hkeys
  case taken => exact hperm.subset
  case kinds => rw [hkinds, Nat.min_eq_right hcard]
  case highest =>
    intro step hstep
    obtain ⟨best, hbest⟩ := exists_leader FlowStep.stepKind hstep
    refine ⟨best, leader?_mem hbest, leader?_key hbest, ?_⟩
    intro other hother hkind
    exact rank_leader_le hbest hother hkind

theorem diversePreview_of_many {detailLevel : String} (hkeys : (steps.map stepKey).Nodup)
    (hmany : previewLimit detailLevel < steps.length) :
    DiversePreview (previewLimit detailLevel) steps
      (capSteps detailLevel (rankSteps steps)) := by
  have hperm : (rankSteps steps).Perm steps := sortedBy_perm stepRankKey steps
  have hranked : ((rankSteps steps).map stepKey).Nodup := (hperm.map stepKey).nodup_iff.mpr hkeys
  have hkinds : ((rankSteps steps).map FlowStep.stepKind).toFinset =
      (steps.map FlowStep.stepKind).toFinset :=
    List.toFinset_eq_of_perm _ _ (hperm.map FlowStep.stepKind)
  rw [← hperm.length_eq] at hmany
  rw [capSteps_eq detailLevel hmany]
  constructor
  case count => rw [List.length_take, length_placed hranked, hperm.length_eq]
  case distinct =>
    have hplaced := nodup_map_placedFirst
      (nodup_stepKey_firstSteps (previewLimit detailLevel) hranked) hranked
    exact hplaced.sublist ((List.take_sublist _ _).map stepKey)
  case taken =>
    intro step hstep
    exact hperm.subset (mem_of_mem_placed (List.mem_of_mem_take hstep))
  case kinds => rw [card_stepKind_take, hkinds]
  case highest =>
    intro step hstep
    obtain ⟨best, hmem, hbest⟩ := exists_leader_take hstep
    refine ⟨best, hmem, leader?_key hbest, ?_⟩
    intro other hother hkind
    exact rank_leader_le hbest hother hkind

end Preview

/-- The preview of ranked steps with distinct keys shows as many steps as fit, of as many
kinds, each kind by its highest-ranked step. -/
theorem capSteps_diverse (detailLevel : String) {steps : List FlowStep}
    (hkeys : (steps.map stepKey).Nodup) :
    DiversePreview (previewLimit detailLevel) steps
      (capSteps detailLevel (rankSteps steps)) := by
  cases le_or_gt steps.length (previewLimit detailLevel) with
  | inl hfits => exact diversePreview_of_fits hkeys hfits
  | inr hmany => exact diversePreview_of_many hkeys hmany

/-- Whatever steps are collected for a file, the preview of its flow is diverse. -/
theorem capSteps_dedupeSteps_diverse (detailLevel : String) (collected : List FlowStep) :
    DiversePreview (previewLimit detailLevel) (dedupeSteps collected)
      (capSteps detailLevel (rankSteps (dedupeSteps collected))) := by
  have hkeys := nodup_dedupeSteps collected
  cases le_or_gt (dedupeSteps collected).length (previewLimit detailLevel) with
  | inl hfits => exact diversePreview_of_fits hkeys hfits
  | inr hmany => exact diversePreview_of_many hkeys hmany

/-- Steps of two kinds in the file `src/app.ts`. -/
def appSteps : List FlowStep :=
  [⟨"src/app.ts", 9, 1, .localFlowEdge, "main", some "run", none, []⟩,
    ⟨"src/app.ts", 4, 1, .localFlowEdge, "main", some "load", none, []⟩,
    ⟨"src/app.ts", 2, 7, .stateSite, "count", none, some "useState", []⟩]

theorem appSteps_diverse :
    DiversePreview 4 appSteps (capSteps "compact" (rankSteps appSteps)) :=
  capSteps_diverse "compact" (by decide)

end SuitCode
