import SuitCode.MinimumVerifiedMinimizer

/-!
# What the minimizer computes

For every pass of the minimizer one description of its result by its inputs:
which test ids remain and why, which ids the exclusions name as replacements,
and which build targets are chosen.
-/

namespace SuitCode

open PosixText KeyedList ExceptList

variable {excluded : ExcludedMinimumVerifiedItem} {provenance : List ProvenanceEntry}
  {testId : String} {included : List MinimumVerifiedTestTarget}

/-! ## Items carry what they were built from -/

theorem exclusion_eq {itemKind : MinimumVerifiedItemKind} {itemId reason : String}
    {reasonCode : MinimumVerifiedExclusionReason} {replacedByIds : List String}
    (hok : exclusion itemKind itemId reasonCode reason replacedByIds provenance =
      .ok excluded) :
    excluded = ⟨itemKind, itemId, reasonCode, reason, replacedByIds, provenance⟩ := by
  unfold exclusion ExcludedMinimumVerifiedItem.create at hok
  exact eq_of_validated hok

theorem testTargetItem_eq {targetAnchorId inclusionReason : String}
    {description : TestTargetDescription} {edgeProvenance : List ProvenanceEntry}
    {item : MinimumVerifiedTestTarget}
    (hok : testTargetItem targetAnchorId description inclusionReason edgeProvenance
      provenance = .ok item) :
    item.target = description ∧ item.inclusionReason = inclusionReason := by
  unfold testTargetItem at hok
  obtain ⟨edge, -, hok⟩ := bind_eq_ok.mp hok
  obtain ⟨mode, -, hok⟩ := bind_eq_ok.mp hok
  unfold MinimumVerifiedTestTarget.create at hok
  have hitem := eq_of_validated hok
  subst hitem
  exact ⟨rfl, rfl⟩

theorem buildTargetItem_eq {sourceNodeKind sourceNodeId inclusionReason : String}
    {target : BuildTargetDescription} {edgeKind : MinimumVerifiedEvidenceEdgeKind}
    {item : MinimumVerifiedBuildTarget}
    (hok : buildTargetItem sourceNodeKind sourceNodeId target inclusionReason edgeKind
      provenance = .ok item) :
    item.target = target ∧ item.inclusionReason = inclusionReason := by
  unfold buildTargetItem at hok
  obtain ⟨edge, -, hok⟩ := bind_eq_ok.mp hok
  obtain ⟨mode, -, hok⟩ := bind_eq_ok.mp hok
  unfold MinimumVerifiedBuildTarget.create at hok
  have hitem := eq_of_validated hok
  subst hitem
  exact ⟨rfl, rfl⟩

theorem Repository.describeTestTarget_testId {repository : Repository}
    {description : TestTargetDescription}
    (hok : repository.describeTestTarget testId = .ok description) :
    description.testDefinition.id = testId := by
  unfold Repository.describeTestTarget at hok
  obtain ⟨index, -, hok⟩ := bind_eq_ok.mp hok
  cases hfind : index.find? fun entry => entry.1.testDefinition.id = testId with
  | none => simp [hfind] at hok
  | some entry =>
      simp only [hfind] at hok
      obtain ⟨answer, -, hok⟩ := bind_eq_ok.mp hok
      by_cases hid : answer.testDefinition.id = testId
      · simp only [hid, ne_eq, not_true_eq_false, if_false, pure_eq_ok] at hok
        subst hok
        exact hid
      · simp [hid] at hok

/-! ## One test id -/

def selectedMatch (related : List ResolvedRelatedTest) (testId : String) :
    Option ResolvedRelatedTest :=
  (rankedCandidates (candidatesFor related testId)).head?.map Prod.fst

/-- The selected match is one of the matches of its test. -/
theorem selectedMatch_mem {related : List ResolvedRelatedTest} {selected : ResolvedRelatedTest}
    (hselected : selectedMatch related testId = some selected) :
    selected ∈ related ∧ selected.testId = testId := by
  unfold selectedMatch at hselected
  obtain ⟨entry, hhead, rfl⟩ := Option.map_eq_some_iff.mp hselected
  have hmem : entry ∈ rankedCandidates (candidatesFor related testId) :=
    List.mem_of_head? hhead
  unfold rankedCandidates at hmem
  have hcandidate : entry.1 ∈ candidatesFor related testId :=
    List.fst_mem_of_mem_zipIdx (mem_sortedBy.mp hmem)
  simpa [candidatesFor] using hcandidate

structure IsDuplicateExclusion (excluded : ExcludedMinimumVerifiedItem)
    (testId : String) : Prop where
  itemKind_eq : excluded.itemKind = .testTarget
  itemId_eq : excluded.itemId = testId
  reasonCode_eq : excluded.reasonCode = .duplicateReplacedByStrongerMatch
  replacedByIds_eq : excluded.replacedByIds = [testId]

structure TestGroupFacts (related : List ResolvedRelatedTest) (testId : String)
    (item : MinimumVerifiedTestTarget)
    (exclusions : List ExcludedMinimumVerifiedItem) : Prop where
  testId_eq : item.testId = testId
  reason_eq : ∃ selected, selectedMatch related testId = some selected ∧
    item.inclusionReason = humanTestReason selected
  exclusions_duplicate : ∀ excluded ∈ exclusions, IsDuplicateExclusion excluded testId
  exclusions_nil_iff : exclusions = [] ↔ (candidatesFor related testId).length ≤ 1

theorem filter_zipIdx_ne_eq_nil_iff
    {α : Type} {items : List α} {item : α} {position : ℕ}
    (hmem : (item, position) ∈ items.zipIdx) :
    (items.zipIdx.filter fun entry => entry.2 ≠ position) = [] ↔ items.length ≤ 1 := by
  have hposition : position < items.length := by
    have hbound := List.snd_lt_of_mem_zipIdx hmem
    simpa using hbound
  rw [List.filter_eq_nil_iff]
  constructor
  · intro hall
    by_contra hlength
    have hzero : (items.get ⟨0, by omega⟩, 0) ∈ items.zipIdx := by
      rw [List.mem_zipIdx_iff_getElem?]
      simp
    have hone : (items.get ⟨1, by omega⟩, 1) ∈ items.zipIdx := by
      rw [List.mem_zipIdx_iff_getElem?]
      simp
    have hposition_zero := hall _ hzero
    have hposition_one := hall _ hone
    simp only [ne_eq, decide_not, Bool.not_eq_eq_eq_not, Bool.not_true,
      decide_eq_false_iff_not, not_not] at hposition_zero hposition_one
    omega
  · intro hlength entry hentry
    have hbound : entry.2 < items.length := by
      have hlt := List.snd_lt_of_mem_zipIdx hentry
      simpa using hlt
    have heq : entry.2 = position := by omega
    simp [heq]

theorem minimizeTestGroup_facts {repository : Repository} {targetAnchorId : String}
    {related : List ResolvedRelatedTest} {item : MinimumVerifiedTestTarget}
    {exclusions : List ExcludedMinimumVerifiedItem}
    (hok : minimizeTestGroup repository targetAnchorId related testId =
      .ok (item, exclusions)) :
    TestGroupFacts related testId item exclusions := by
  unfold minimizeTestGroup at hok
  cases hranked : rankedCandidates (candidatesFor related testId) with
  | nil => simp [hranked] at hok
  | cons first rest =>
      obtain ⟨selected, position⟩ := first
      simp only [hranked] at hok
      obtain ⟨outputs, houtputs, hok⟩ := bind_eq_ok.mp hok
      obtain ⟨description, hdescription, hok⟩ := bind_eq_ok.mp hok
      obtain ⟨built, hbuilt, hok⟩ := bind_eq_ok.mp hok
      simp only [pure_eq_ok, Prod.mk.injEq] at hok
      obtain ⟨rfl, rfl⟩ := hok
      have hbuilt' := testTargetItem_eq hbuilt
      have hposition : (selected, position) ∈ (candidatesFor related testId).zipIdx := by
        have hmem : (selected, position) ∈
            rankedCandidates (candidatesFor related testId) := by
          rw [hranked]
          exact List.mem_cons_self
        exact mem_sortedBy.mp hmem
      refine ⟨?_, ⟨selected, ?_, hbuilt'.2⟩, ?_, ?_⟩
      · unfold MinimumVerifiedTestTarget.testId
        rw [hbuilt'.1]
        exact Repository.describeTestTarget_testId hdescription
      · simp [selectedMatch, hranked]
      · intro excluded hexcluded
        obtain ⟨candidate, -, hcandidate⟩ := exists_input_of_mem houtputs hexcluded
        have hexclusion := exclusion_eq hcandidate
        subst hexclusion
        exact ⟨rfl, rfl, rfl, rfl⟩
      · rw [outputs_eq_nil_iff houtputs]
        exact filter_zipIdx_ne_eq_nil_iff hposition

/-! ## Broad tests -/

def hasSpecificMatch (related : List ResolvedRelatedTest) : Bool :=
  related.any fun candidate => candidate.testId ≠ "" && !isBroad candidate

def droppedAsBroad (related : List ResolvedRelatedTest) (testId : String) : Bool :=
  hasSpecificMatch related &&
    (selectedMatch related testId).any fun selected =>
      (related.find? fun candidate =>
        candidate.testId = testId &&
          humanTestReason candidate = humanTestReason selected).any isBroad

def droppedTestIds (related : List ResolvedRelatedTest) : List String :=
  (relatedTestIds related).filter (droppedAsBroad related)

def keptTestIds (related : List ResolvedRelatedTest) : List String :=
  (relatedTestIds related).filter fun testId => !droppedAsBroad related testId

theorem mem_relatedTestIds {related : List ResolvedRelatedTest} :
    testId ∈ relatedTestIds related ↔ ∃ candidate ∈ related, candidate.testId = testId := by
  have hmem : testId ∈ dedupeBy id (related.map ResolvedRelatedTest.testId) ↔
      testId ∈ related.map ResolvedRelatedTest.testId := by
    have hkeys : testId ∈ (dedupeBy id (related.map ResolvedRelatedTest.testId)).map id ↔
        testId ∈ (related.map ResolvedRelatedTest.testId).map id :=
      mem_map_dedupeBy_iff
    simpa using hkeys
  rw [relatedTestIds, mem_sortedBy, hmem, List.mem_map]

theorem nodup_relatedTestIds (related : List ResolvedRelatedTest) :
    (relatedTestIds related).Nodup := by
  have hnodup := nodup_map_dedupeBy id (related.map ResolvedRelatedTest.testId)
  rw [List.map_id] at hnodup
  exact (sortedBy_perm id _).nodup_iff.mpr hnodup

theorem hasSpecificTest_eq {related : List ResolvedRelatedTest}
    (hids : included.map MinimumVerifiedTestTarget.testId = relatedTestIds related) :
    hasSpecificTest related included = hasSpecificMatch related := by
  rw [Bool.eq_iff_iff]
  simp only [hasSpecificTest, hasSpecificMatch, List.any_eq_true, Bool.and_eq_true,
    decide_eq_true_eq, Bool.not_eq_true', ne_eq]
  constructor
  · intro hspecific
    obtain ⟨item, -, hid, candidate, hcandidate, heq, hbroad⟩ := hspecific
    exact ⟨candidate, hcandidate, by rw [heq]; exact hid, hbroad⟩
  · intro hspecific
    obtain ⟨candidate, hcandidate, hid, hbroad⟩ := hspecific
    have hmem : candidate.testId ∈ included.map MinimumVerifiedTestTarget.testId := by
      rw [hids, mem_relatedTestIds]
      exact ⟨candidate, hcandidate, rfl⟩
    obtain ⟨item, hitem, heq⟩ := List.mem_map.mp hmem
    exact ⟨item, hitem, by rw [heq]; exact hid, candidate, hcandidate, heq.symm, hbroad⟩

structure IsBroadExclusion (related : List ResolvedRelatedTest)
    (excluded : ExcludedMinimumVerifiedItem) (testId : String) : Prop where
  itemKind_eq : excluded.itemKind = .testTarget
  itemId_eq : excluded.itemId = testId
  reasonCode_eq : excluded.reasonCode = .broadTestReplacedBySpecificTests
  mem_replacedByIds_iff : ∀ replacement, replacement ∈ excluded.replacedByIds ↔
    replacement ∈ relatedTestIds related ∧ replacement ≠ testId

theorem mem_map_eraseIdx_iff
    {α : Type} {key : α → String} {items : List α} {item : α} {position : ℕ}
    {wanted : String} (hnodup : (items.map key).Nodup)
    (hmem : (item, position) ∈ items.zipIdx) :
    wanted ∈ (items.eraseIdx position).map key ↔
      wanted ∈ items.map key ∧ wanted ≠ key item := by
  rw [List.mem_zipIdx_iff_getElem?] at hmem
  obtain ⟨hposition, hget⟩ := List.getElem?_eq_some_iff.mp hmem
  have herase : (items.eraseIdx position).map key =
      (items.map key).erase (key item) := by
    have hposition' : position < (items.map key).length := by simpa using hposition
    have hkey : (items.map key)[position] = key item := by
      simp only [List.getElem_map, hget]
    rw [← hkey, hnodup.erase_getElem, List.eraseIdx_map]
  rw [herase, hnodup.mem_erase_iff]
  exact and_comm

theorem broadExclusion?_isNone {related : List ResolvedRelatedTest}
    {entry : MinimumVerifiedTestTarget × ℕ} {verdict : Option ExcludedMinimumVerifiedItem}
    {selected : ResolvedRelatedTest} (hspecific : hasSpecificMatch related = true)
    (hselected : selectedMatch related entry.1.testId = some selected)
    (hreason : entry.1.inclusionReason = humanTestReason selected)
    (hok : broadExclusion? related included entry = .ok verdict) :
    verdict.isNone = !droppedAsBroad related entry.1.testId := by
  unfold broadExclusion? at hok
  obtain ⟨judged, hjudged, hok⟩ := bind_eq_ok.mp hok
  unfold judgedMatch at hjudged
  cases hfind : related.find? fun candidate =>
      candidate.testId = entry.1.testId &&
        humanTestReason candidate = entry.1.inclusionReason with
  | none => simp [hfind] at hjudged
  | some first =>
      simp only [hfind, Except.ok.injEq] at hjudged
      subst hjudged
      rw [hreason] at hfind
      have hdropped : droppedAsBroad related entry.1.testId = isBroad first := by
        simp only [droppedAsBroad, hspecific, hselected, Option.any_some, hfind,
          Bool.true_and]
      rw [hdropped]
      cases hbroad : isBroad first with
      | false =>
          simp only [hbroad, Bool.false_eq_true, if_false, pure_eq_ok] at hok
          subst hok
          rfl
      | true =>
          simp only [hbroad, if_true] at hok
          obtain ⟨excluded, -, hok⟩ := bind_eq_ok.mp hok
          rw [pure_eq_ok] at hok
          subst hok
          rfl

theorem broadExclusion?_some {related : List ResolvedRelatedTest}
    {entry : MinimumVerifiedTestTarget × ℕ}
    (hids : included.map MinimumVerifiedTestTarget.testId = relatedTestIds related)
    (hentry : entry ∈ included.zipIdx)
    (hok : broadExclusion? related included entry = .ok (some excluded)) :
    IsBroadExclusion related excluded entry.1.testId := by
  unfold broadExclusion? at hok
  obtain ⟨judged, -, hok⟩ := bind_eq_ok.mp hok
  by_cases hbroad : isBroad judged = true
  · simp only [hbroad, if_true] at hok
    obtain ⟨built, hbuilt, hok⟩ := bind_eq_ok.mp hok
    simp only [pure_eq_ok, Option.some.injEq] at hok
    subst hok
    have hexclusion := exclusion_eq hbuilt
    subst hexclusion
    refine ⟨rfl, rfl, rfl, ?_⟩
    intro replacement
    have hnodup : (included.map MinimumVerifiedTestTarget.testId).Nodup := by
      rw [hids]
      exact nodup_relatedTestIds related
    rw [mem_sortedBy, mem_map_eraseIdx_iff hnodup hentry, hids]
  · simp [hbroad] at hok

/-! ## All tests of a target -/

structure MinimizedTestsFacts (related : List ResolvedRelatedTest)
    (minimized : MinimizedTests) : Prop where
  testIds_eq :
    minimized.tests.map MinimumVerifiedTestTarget.testId = keptTestIds related
  reason_eq : ∀ item ∈ minimized.tests, ∃ selected,
    selectedMatch related item.testId = some selected ∧
      item.inclusionReason = humanTestReason selected
  exclusion_cases : ∀ excluded ∈ minimized.exclusions,
    (∃ testId ∈ relatedTestIds related, 2 ≤ (candidatesFor related testId).length ∧
      IsDuplicateExclusion excluded testId) ∨
    ∃ testId ∈ droppedTestIds related, IsBroadExclusion related excluded testId
  exists_duplicate : ∀ testId ∈ relatedTestIds related,
    2 ≤ (candidatesFor related testId).length →
      ∃ excluded ∈ minimized.exclusions, IsDuplicateExclusion excluded testId
  exists_broad : ∀ testId ∈ droppedTestIds related,
    ∃ excluded ∈ minimized.exclusions, IsBroadExclusion related excluded testId

section Groups

variable {repository : Repository} {targetAnchorId : String}
  {related : List ResolvedRelatedTest}
  {groups : List (MinimumVerifiedTestTarget × List ExcludedMinimumVerifiedItem)}

theorem groups_testIds
    (hgroups : (relatedTestIds related).mapM
      (minimizeTestGroup repository targetAnchorId related) = .ok groups) :
    (groups.map Prod.fst).map MinimumVerifiedTestTarget.testId =
      relatedTestIds related := by
  have hmap := map_outputs_eq
    (MinimumVerifiedTestTarget.testId ∘ Prod.fst) id hgroups
    fun testId _ group hgroup => (minimizeTestGroup_facts hgroup).testId_eq
  rw [List.map_map, hmap, List.map_id]

theorem groups_duplicates
    (hgroups : (relatedTestIds related).mapM
      (minimizeTestGroup repository targetAnchorId related) = .ok groups)
    (hexcluded : excluded ∈ groups.flatMap Prod.snd) :
    ∃ testId ∈ relatedTestIds related, 2 ≤ (candidatesFor related testId).length ∧
      IsDuplicateExclusion excluded testId := by
  obtain ⟨group, hgroup, hmem⟩ := List.mem_flatMap.mp hexcluded
  obtain ⟨testId, htestId, hok⟩ := exists_input_of_mem hgroups hgroup
  have hfacts := minimizeTestGroup_facts hok
  have hlength : 2 ≤ (candidatesFor related testId).length := by
    by_contra hshort
    have hnil := hfacts.exclusions_nil_iff.mpr (by omega)
    rw [hnil] at hmem
    simp at hmem
  exact ⟨testId, htestId, hlength, hfacts.exclusions_duplicate excluded hmem⟩

theorem groups_exists_duplicate
    (hgroups : (relatedTestIds related).mapM
      (minimizeTestGroup repository targetAnchorId related) = .ok groups)
    (htestId : testId ∈ relatedTestIds related)
    (hlength : 2 ≤ (candidatesFor related testId).length) :
    ∃ excluded ∈ groups.flatMap Prod.snd, IsDuplicateExclusion excluded testId := by
  obtain ⟨group, hgroup, hok⟩ := exists_output_of_mem hgroups htestId
  have hfacts := minimizeTestGroup_facts hok
  have hne : group.2 ≠ [] := by
    intro hnil
    have hshort := hfacts.exclusions_nil_iff.mp hnil
    omega
  obtain ⟨excluded, hexcluded⟩ := List.exists_mem_of_ne_nil _ hne
  exact ⟨excluded, List.mem_flatMap.mpr ⟨group, hgroup, hexcluded⟩,
    hfacts.exclusions_duplicate excluded hexcluded⟩

theorem groups_reason
    (hgroups : (relatedTestIds related).mapM
      (minimizeTestGroup repository targetAnchorId related) = .ok groups)
    {item : MinimumVerifiedTestTarget} (hitem : item ∈ groups.map Prod.fst) :
    ∃ selected, selectedMatch related item.testId = some selected ∧
      item.inclusionReason = humanTestReason selected := by
  obtain ⟨group, hgroup, hfst⟩ := List.mem_map.mp hitem
  obtain ⟨testId, -, hok⟩ := exists_input_of_mem hgroups hgroup
  have hfacts := minimizeTestGroup_facts hok
  rw [← hfst, hfacts.testId_eq]
  exact hfacts.reason_eq

end Groups

theorem droppedTestIds_eq_nil
    {related : List ResolvedRelatedTest} (hspecific : hasSpecificMatch related = false) :
    droppedTestIds related = [] ∧ keptTestIds related = relatedTestIds related := by
  simp [droppedTestIds, keptTestIds, droppedAsBroad, hspecific]

theorem minimizeTests_facts
    {repository : Repository} {targetAnchorId : String}
    {related : List ResolvedRelatedTest} {minimized : MinimizedTests}
    (hok : minimizeTests repository targetAnchorId related = .ok minimized) :
    MinimizedTestsFacts related minimized := by
  unfold minimizeTests at hok
  obtain ⟨groups, hgroups, hok⟩ := bind_eq_ok.mp hok
  have hids := groups_testIds hgroups
  simp only [hasSpecificTest_eq hids] at hok
  cases hspecific : hasSpecificMatch related with
  | false =>
      simp only [hspecific, Bool.not_false, if_true, pure_eq_ok] at hok
      subst hok
      obtain ⟨hdropped, hkept⟩ := droppedTestIds_eq_nil hspecific
      refine ⟨?_, ?_, ?_, ?_, ?_⟩
      · rw [hkept]
        exact hids
      · intro item hitem
        exact groups_reason hgroups hitem
      · intro excluded hexcluded
        exact Or.inl (groups_duplicates hgroups hexcluded)
      · intro testId htestId hlength
        exact groups_exists_duplicate hgroups htestId hlength
      · intro testId htestId
        simp [hdropped] at htestId
  | true =>
      simp only [hspecific, Bool.not_true, Bool.false_eq_true, if_false] at hok
      obtain ⟨verdicts, hverdicts, hok⟩ := bind_eq_ok.mp hok
      rw [pure_eq_ok] at hok
      subst hok
      have hisNone : ∀ entry ∈ (groups.map Prod.fst).zipIdx, ∀ verdict,
          broadExclusion? related (groups.map Prod.fst) entry = .ok verdict →
            verdict.isNone = !droppedAsBroad related entry.1.testId := by
        intro entry hentry verdict hverdict
        have hitem : entry.1 ∈ groups.map Prod.fst :=
          List.fst_mem_of_mem_zipIdx hentry
        obtain ⟨selected, hselected, hreason⟩ := groups_reason hgroups hitem
        exact broadExclusion?_isNone hspecific hselected hreason hverdict
      have hkept : (((groups.map Prod.fst).zip verdicts).filter fun entry =>
          entry.2.isNone).map Prod.fst =
            (groups.map Prod.fst).filter fun item => !droppedAsBroad related item.testId := by
        apply map_fst_filter_zip_outputs _ hverdicts
        exact hisNone
      refine ⟨?_, ?_, ?_, ?_, ?_⟩
      · dsimp only
        rw [hkept, keptTestIds, ← hids]
        simp only [List.filter_map, Function.comp_def]
      · intro item hitem
        dsimp only at hitem
        rw [hkept] at hitem
        exact groups_reason hgroups (List.mem_filter.mp hitem).1
      · intro excluded hexcluded
        rcases List.mem_append.mp hexcluded with hduplicate | hbroad
        · exact Or.inl (groups_duplicates hgroups hduplicate)
        · obtain ⟨verdict, hverdict, hsome⟩ := List.mem_filterMap.mp hbroad
          change verdict = some excluded at hsome
          subst hsome
          obtain ⟨entry, hentry, hentryOk⟩ := exists_input_of_mem hverdicts hverdict
          have hnone := hisNone entry hentry _ hentryOk
          have hmem : entry.1.testId ∈ relatedTestIds related := by
            rw [← hids]
            exact List.mem_map_of_mem (List.fst_mem_of_mem_zipIdx hentry)
          have hdropped : entry.1.testId ∈ droppedTestIds related := by
            rw [droppedTestIds, List.mem_filter]
            exact ⟨hmem, by simpa using hnone⟩
          exact Or.inr ⟨entry.1.testId, hdropped,
            broadExclusion?_some hids hentry hentryOk⟩
      · intro testId htestId hlength
        obtain ⟨excluded, hexcluded, hduplicate⟩ :=
          groups_exists_duplicate hgroups htestId hlength
        exact ⟨excluded, List.mem_append_left _ hexcluded, hduplicate⟩
      · intro testId htestId
        obtain ⟨hmem, hdropped⟩ := List.mem_filter.mp htestId
        rw [← hids] at hmem
        obtain ⟨item, hitem, hid⟩ := List.mem_map.mp hmem
        obtain ⟨position, hget⟩ := List.mem_iff_getElem?.mp hitem
        have hposition : (item, position) ∈ (groups.map Prod.fst).zipIdx :=
          List.mem_zipIdx_iff_getElem?.mpr hget
        obtain ⟨verdict, hverdict, hok⟩ := exists_output_of_mem hverdicts hposition
        have hnone := hisNone _ hposition verdict hok
        simp only [hid, hdropped, Bool.not_true] at hnone
        cases verdict with
        | none => simp at hnone
        | some excluded =>
            have hbroad := broadExclusion?_some hids hposition hok
            rw [hid] at hbroad
            have hmemVerdicts : excluded ∈ verdicts.filterMap id :=
              List.mem_filterMap.mpr ⟨some excluded, hverdict, rfl⟩
            exact ⟨excluded, List.mem_append.mpr (Or.inr hmemVerdicts), hbroad⟩

end SuitCode
