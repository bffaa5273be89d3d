import SuitCode.TestAccounts
import SuitCode.ChangeSetCoherence

/-!
# Conservation of related tests

A call of the minimizer succeeds when the repository describes every related
test, and its account is exact when the match read back from the reason of an
item is as specific as the selected one.
-/

namespace SuitCode

open PosixText KeyedList ExceptList

/-! ## When a call succeeds -/

theorem isBlank_eq_false_of_tagged {text : String} (htag : startsWith text "test:" = true) :
    isBlank text = false := by
  have hstart : "test:".toList <+: text.toList := by simpa [startsWith] using htag
  obtain ⟨rest, hrest⟩ := hstart
  unfold isBlank
  rw [← hrest, List.all_append]
  rfl

variable {testId : String}

theorem Repository.describeTestTarget_tagged {repository : Repository}
    {description : TestTargetDescription}
    (hok : repository.describeTestTarget testId = .ok description) :
    startsWith testId "test:" = true := by
  unfold Repository.describeTestTarget at hok
  obtain ⟨index, hindex, hok⟩ := bind_eq_ok.mp hok
  cases hfind : index.find? fun entry => entry.1.testDefinition.id = testId with
  | none => simp [hfind] at hok
  | some entry =>
      have hid : entry.1.testDefinition.id = testId := by simpa using List.find?_some hfind
      have htests : repository.getDiscoveredTests =
          .ok (sortedBy (fun test => test.testDefinition.id) (index.map Prod.fst)) := by
        unfold Repository.getDiscoveredTests
        rw [hindex]
        rfl
      have hmem : entry.1 ∈
          sortedBy (fun test : DiscoveredTestDefinition => test.testDefinition.id)
            (index.map Prod.fst) :=
        mem_sortedBy.mpr (List.mem_map_of_mem (List.mem_of_find?_eq_some hfind))
      rw [← hid]
      exact Repository.getDiscoveredTests_tagged htests hmem

theorem mem_foldl_merged (entries merged : List ProvenanceEntry) (entry : ProvenanceEntry) :
    entry ∈ entries.foldl
        (fun merged entry => if entry ∈ merged then merged else merged ++ [entry]) merged ↔
      entry ∈ merged ∨ entry ∈ entries := by
  induction entries generalizing merged with
  | nil => simp
  | cons head entries ih =>
      rw [List.foldl_cons, ih]
      by_cases hin : head ∈ merged
      · rw [if_pos hin, List.mem_cons]
        constructor
        · rintro (hmerged | hentries)
          · exact .inl hmerged
          · exact .inr (.inr hentries)
        · rintro (hmerged | rfl | hentries)
          · exact .inl hmerged
          · exact .inl hin
          · exact .inr hentries
      · rw [if_neg hin]
        simp [or_assoc]

theorem mergedProvenance_ne_nil {first : List ProvenanceEntry}
    (rest : List (List ProvenanceEntry)) (hfirst : first ≠ []) :
    mergedProvenance (first :: rest) ≠ [] := by
  obtain ⟨entry, hentry⟩ := List.exists_mem_of_ne_nil _ hfirst
  have hmem : entry ∈ mergedProvenance (first :: rest) := by
    unfold mergedProvenance
    rw [mem_foldl_merged]
    exact .inr (by simp [hentry])
  exact List.ne_nil_of_mem hmem

theorem preferredConfidenceMode_ok {entries : List ProvenanceEntry} (hne : entries ≠ []) :
    ∃ mode, preferredConfidenceMode entries = .ok mode := by
  unfold preferredConfidenceMode
  rw [if_neg hne]
  split
  · exact ⟨_, rfl⟩
  · split
    · exact ⟨_, rfl⟩
    · exact ⟨_, rfl⟩

theorem isBlank_humanTestReason (related : ResolvedRelatedTest) :
    isBlank (humanTestReason related) = false := by
  unfold humanTestReason
  split
  · rfl
  · split
    · rfl
    · split
      · rfl
      · rfl

theorem testTargetItem_ok {targetAnchorId inclusionReason : String}
    {description : TestTargetDescription} {edgeProvenance provenance : List ProvenanceEntry}
    (hanchor : isBlank targetAnchorId = false)
    (hid : isBlank description.testDefinition.id = false)
    (hreason : isBlank inclusionReason = false) (hedge : edgeProvenance ≠ [])
    (hprovenance : provenance ≠ []) :
    ∃ item, testTargetItem targetAnchorId description inclusionReason edgeProvenance
      provenance = .ok item ∧ item.provenance = provenance := by
  obtain ⟨mode, hmode⟩ := preferredConfidenceMode_ok hprovenance
  have hchange : isBlank "change_target" = false := rfl
  have htarget : isBlank "test_target" = false := rfl
  unfold testTargetItem MinimumVerifiedEvidenceEdge.create MinimumVerifiedTestTarget.create
  refine ⟨_, bind_eq_ok.mpr ⟨_, validated_eq_ok.mpr ⟨rfl, ?_⟩,
    bind_eq_ok.mpr ⟨mode, hmode, validated_eq_ok.mpr ⟨rfl, ?_⟩⟩⟩, rfl⟩
  · simp [hchange, htarget, hanchor, hid, hreason, hedge]
  · simp [includedItemChecks, hreason, hprovenance]

section Success

variable {repository : Repository} {targetAnchorId : String}
  {related : List ResolvedRelatedTest}

theorem minimizeTestGroup_ok (hanchor : isBlank targetAnchorId = false)
    (hprovenance : ∀ candidate ∈ related, candidate.provenance ≠ [])
    (hdescribes : DescribesTests repository related) (htestId : testId ∈ relatedTestIds related) :
    ∃ group, minimizeTestGroup repository targetAnchorId related testId = .ok group ∧
      group.1.provenance ≠ [] := by
  obtain ⟨selected, hselected⟩ := exists_selectedMatch htestId
  obtain ⟨hmem, hid⟩ := selectedMatch_mem hselected
  obtain ⟨description, hdescription⟩ := hdescribes selected hmem
  rw [hid] at hdescription
  have hblank : isBlank testId = false :=
    isBlank_eq_false_of_tagged (Repository.describeTestTarget_tagged hdescription)
  have hdescribed := Repository.describeTestTarget_testId hdescription
  cases hranked : rankedCandidates (candidatesFor related testId) with
  | nil => simp [selectedMatch, hranked] at hselected
  | cons first rest =>
      obtain ⟨strongest, position⟩ := first
      have hstrongest : strongest = selected := by
        simpa [selectedMatch, hranked] using hselected
      subst hstrongest
      have hduplicates : ∀ entry ∈ (candidatesFor related testId).zipIdx.filter
          (fun entry => entry.2 ≠ position), ∃ excluded,
            duplicateExclusion testId entry.1 = .ok excluded ∧ True := by
        intro entry hentry
        have hcandidate : entry.1 ∈ candidatesFor related testId :=
          List.fst_mem_of_mem_zipIdx (List.mem_filter.mp hentry).1
        have hentryProvenance := hprovenance entry.1 (mem_candidatesFor.mp hcandidate).1
        unfold duplicateExclusion exclusion ExcludedMinimumVerifiedItem.create
        refine ⟨_, validated_eq_ok.mpr ⟨rfl, ?_⟩, trivial⟩
        have hreason : isBlank
            "weaker duplicate test match replaced by stronger deterministic match" = false :=
          rfl
        simp [hblank, hreason, hentryProvenance]
      obtain ⟨duplicates, hrun, -⟩ := exists_outputs hduplicates
      have hmerged := mergedProvenance_ne_nil [description.provenance]
        (hprovenance strongest hmem)
      obtain ⟨item, hitem, hitemProvenance⟩ := testTargetItem_ok hanchor
        (by rw [hdescribed]; exact hblank) (isBlank_humanTestReason strongest)
        (hprovenance strongest hmem) hmerged
      refine ⟨(item, duplicates), ?_, ?_⟩
      · unfold minimizeTestGroup
        simp only [hranked]
        rw [bind_eq_ok]
        refine ⟨duplicates, hrun, ?_⟩
        rw [bind_eq_ok]
        refine ⟨description, hdescription, ?_⟩
        rw [bind_eq_ok]
        exact ⟨item, hitem, rfl⟩
      · rw [hitemProvenance]
        exact hmerged

theorem broadExclusion?_ok
    {groups : List (MinimumVerifiedTestTarget × List ExcludedMinimumVerifiedItem)}
    (hdescribes : DescribesTests repository related)
    (hgroups : (relatedTestIds related).mapM
      (minimizeTestGroup repository targetAnchorId related) = .ok groups)
    (hprovenance : ∀ group ∈ groups, group.1.provenance ≠ [])
    {entry : MinimumVerifiedTestTarget × ℕ}
    (hentry : entry ∈ (groups.map Prod.fst).zipIdx) :
    ∃ verdict, broadExclusion? related (groups.map Prod.fst) entry = .ok verdict := by
  have hitem := List.fst_mem_of_mem_zipIdx hentry
  have hids := groups_testIds hgroups
  obtain ⟨selected, hselected, hreason⟩ := groups_reason hgroups hitem
  obtain ⟨judged, -, hfind, -⟩ := droppedAsBroad_eq hselected
  have hjudged : judgedMatch related entry.1.testId entry.1.inclusionReason = .ok judged := by
    unfold judgedMatch
    rw [candidatesFor, List.find?_filter] at hfind
    simp only [Bool.decide_and, Bool.decide_eq_true] at hfind
    rw [hreason, hfind]
  have hnonblank : ∀ testId ∈ relatedTestIds related, isBlank testId = false := by
    intro testId htestId
    obtain ⟨candidate, hcandidate, hid⟩ := mem_relatedTestIds.mp htestId
    obtain ⟨description, hdescription⟩ := hdescribes candidate hcandidate
    rw [← hid]
    exact isBlank_eq_false_of_tagged (Repository.describeTestTarget_tagged hdescription)
  have hmem : entry.1.testId ∈ relatedTestIds related := by
    rw [← hids]
    exact List.mem_map_of_mem hitem
  obtain ⟨group, hgroup, hfst⟩ := List.mem_map.mp hitem
  unfold broadExclusion?
  rw [hjudged, ok_bind]
  by_cases hbroad : isBroad judged = true
  · rw [if_pos hbroad]
    have hothers : ((groups.map Prod.fst).eraseIdx entry.2).map
        MinimumVerifiedTestTarget.testId = (relatedTestIds related).eraseIdx entry.2 := by
      rw [← List.eraseIdx_map, hids]
    have hsublist := List.eraseIdx_sublist (relatedTestIds related) entry.2
    have hnodup : (sortedBy id (((groups.map Prod.fst).eraseIdx entry.2).map
        MinimumVerifiedTestTarget.testId)).Nodup := by
      rw [(sortedBy_perm id _).nodup_iff, hothers]
      exact (nodup_relatedTestIds related).sublist hsublist
    have hreplaced : ∀ replacement ∈ sortedBy id
        (((groups.map Prod.fst).eraseIdx entry.2).map MinimumVerifiedTestTarget.testId),
          isBlank replacement = false := by
      intro replacement hreplacement
      rw [mem_sortedBy, hothers] at hreplacement
      exact hnonblank replacement (hsublist.subset hreplacement)
    have hentryProvenance : entry.1.provenance ≠ [] := by
      rw [← hfst]
      exact hprovenance group hgroup
    have htext : isBlank "broad fallback suite replaced by more specific related tests" =
        false := rfl
    unfold exclusion ExcludedMinimumVerifiedItem.create
    refine ⟨_, bind_eq_ok.mpr ⟨_, validated_eq_ok.mpr ⟨rfl, ?_⟩, rfl⟩⟩
    have hany : (sortedBy id (((groups.map Prod.fst).eraseIdx entry.2).map
        MinimumVerifiedTestTarget.testId)).any isBlank = false := by
      rw [List.any_eq_false]
      intro replacement hreplacement
      simp [hreplaced replacement hreplacement]
    simp [hnonblank _ hmem, htext, hany, hnodup, hentryProvenance]
  · rw [if_neg hbroad]
    exact ⟨none, rfl⟩

theorem minimizeTests_ok (hanchor : isBlank targetAnchorId = false)
    (hprovenance : ∀ candidate ∈ related, candidate.provenance ≠ [])
    (hdescribes : DescribesTests repository related) :
    ∃ minimized, minimizeTests repository targetAnchorId related = .ok minimized := by
  obtain ⟨groups, hgroups, -⟩ := exists_outputs fun testId htestId =>
    minimizeTestGroup_ok hanchor hprovenance hdescribes htestId
  have hgroupProvenance : ∀ group ∈ groups, group.1.provenance ≠ [] := by
    intro group hgroup
    obtain ⟨testId, htestId, hok⟩ := exists_input_of_mem hgroups hgroup
    obtain ⟨other, hother, hne⟩ :=
      minimizeTestGroup_ok hanchor hprovenance hdescribes htestId
    rw [hok, Except.ok.injEq] at hother
    rw [hother]
    exact hne
  have hverdicts : ∀ entry ∈ (groups.map Prod.fst).zipIdx, ∃ verdict,
      broadExclusion? related (groups.map Prod.fst) entry = .ok verdict ∧ True := by
    intro entry hentry
    obtain ⟨verdict, hverdict⟩ :=
      broadExclusion?_ok hdescribes hgroups hgroupProvenance hentry
    exact ⟨verdict, hverdict, trivial⟩
  obtain ⟨verdicts, hrun, -⟩ := exists_outputs hverdicts
  unfold minimizeTests
  rw [hgroups, ok_bind]
  by_cases hspecific : hasSpecificTest related (groups.map Prod.fst) = true
  · simp only [hspecific, Bool.not_true, Bool.false_eq_true, if_false]
    rw [hrun, ok_bind]
    exact ⟨_, rfl⟩
  · simp only [hspecific, Bool.not_false, if_true]
    exact ⟨_, rfl⟩

theorem describesTests_of_ok {minimized : MinimizedTests}
    (hok : minimizeTests repository targetAnchorId related = .ok minimized) :
    DescribesTests repository related := by
  intro candidate hcandidate
  have htestId : candidate.testId ∈ relatedTestIds related :=
    mem_relatedTestIds.mpr ⟨candidate, hcandidate, rfl⟩
  obtain ⟨groups, broads, hgroups, -⟩ := minimizeTests_split hok
  obtain ⟨group, -, hgroup⟩ := exists_output_of_mem hgroups htestId
  obtain ⟨position, strongest, hselected, -, hcarried, -⟩ := minimizeTestGroup_account hgroup
  obtain ⟨description, hdescription, -⟩ := hcarried
  rw [(selectedMatch_mem hselected).2] at hdescription
  exact ⟨description, hdescription⟩

end Success

/-! ## Exactness -/

section Exactness

variable {repository : Repository} {targetAnchorId : String}
  {related : List ResolvedRelatedTest} {minimized : MinimizedTests}

theorem DescribesTests.testId_ne (hdescribes : DescribesTests repository related)
    {candidate : ResolvedRelatedTest} (hmem : candidate ∈ related) :
    candidate.testId ≠ "" := by
  obtain ⟨description, hdescription⟩ := hdescribes candidate hmem
  have htag := Repository.describeTestTarget_tagged hdescription
  intro hempty
  rw [hempty] at htag
  simp [startsWith] at htag

theorem hasSpecificMatch_iff (hids : ∀ candidate ∈ related, candidate.testId ≠ "") :
    hasSpecificMatch related = true ↔ ∃ specific ∈ related, isBroad specific = false := by
  constructor
  · intro hspecific
    unfold hasSpecificMatch at hspecific
    rw [List.any_eq_true] at hspecific
    obtain ⟨specific, hmem, hboth⟩ := hspecific
    exact ⟨specific, hmem, by simpa using (Bool.and_eq_true_iff.mp hboth).2⟩
  · intro hexists
    obtain ⟨specific, hmem, hbroad⟩ := hexists
    exact hasSpecificMatch_of_mem hmem (hids specific hmem) hbroad

theorem isBroad_selected_iff {selected : ResolvedRelatedTest}
    (hselected : selectedMatch related testId = some selected) :
    isBroad selected = true ↔
      ∀ candidate ∈ candidatesFor related testId, isBroad candidate = true := by
  constructor
  · intro hbroad candidate hcandidate
    exact isBroad_of_key_le (selectedMatch_least hselected hcandidate) hbroad
  · intro hall
    exact hall selected (mem_candidatesFor.mpr (selectedMatch_mem hselected))

theorem mem_broadTestIds_iff (hok : minimizeTests repository targetAnchorId related = .ok minimized)
    (htestId : testId ∈ relatedTestIds related) :
    testId ∈ minimized.broadTestIds ↔ droppedAsBroad related testId = true := by
  rw [exclusionsWith_broad hok, droppedTestIds, List.mem_filter]
  constructor
  · intro hboth
    exact hboth.2
  · intro hdropped
    exact ⟨htestId, hdropped⟩

theorem keptTestIds_ne_nil (hdrops : DropsBroad related) (hne : related ≠ []) :
    keptTestIds related ≠ [] := by
  by_cases hspecific : hasSpecificMatch related = true
  · have hexists := hspecific
    unfold hasSpecificMatch at hexists
    rw [List.any_eq_true] at hexists
    obtain ⟨specific, hmem, hboth⟩ := hexists
    have hbroad : isBroad specific = false := by
      simpa using (Bool.and_eq_true_iff.mp hboth).2
    have htestId : specific.testId ∈ relatedTestIds related :=
      mem_relatedTestIds.mpr ⟨specific, hmem, rfl⟩
    obtain ⟨selected, hselected⟩ := exists_selectedMatch htestId
    have hselectedBroad : isBroad selected = false := by
      by_contra hnot
      have hall := (isBroad_selected_iff hselected).mp (by simpa using hnot)
      have hcandidate := hall specific (mem_candidatesFor.mpr ⟨hmem, rfl⟩)
      rw [hbroad] at hcandidate
      exact Bool.false_ne_true hcandidate
    have hkept : specific.testId ∈ keptTestIds related := by
      rw [keptTestIds, List.mem_filter]
      refine ⟨htestId, ?_⟩
      rw [hdrops _ htestId selected hselected, hselectedBroad, Bool.and_false]
      rfl
    exact List.ne_nil_of_mem hkept
  · rw [(droppedTestIds_eq_nil (by simpa using hspecific)).2]
    obtain ⟨candidate, hcandidate⟩ := List.exists_mem_of_ne_nil _ hne
    exact List.ne_nil_of_mem (mem_relatedTestIds.mpr ⟨candidate, hcandidate, rfl⟩)

theorem conservesTests_of_dropsBroad
    (hok : minimizeTests repository targetAnchorId related = .ok minimized)
    (hdrops : DropsBroad related) :
    ConservesTests repository targetAnchorId related minimized := by
  have hdescribes := describesTests_of_ok hok
  constructor
  case testIds_perm => exact minimizeTests_testIds_perm hok
  case accounts =>
    intro testId htestId
    obtain ⟨position, strongest, -, haccount⟩ := minimizeTests_accounts hok htestId
    exact ⟨position, strongest, haccount⟩
  case kept_of_related =>
    intro hne hnil
    have hids := (minimizeTests_facts hok).testIds_eq
    rw [hnil] at hids
    exact keptTestIds_ne_nil hdrops hne hids.symm
  case broad_iff =>
    intro testId htestId
    obtain ⟨selected, hselected⟩ := exists_selectedMatch htestId
    rw [mem_broadTestIds_iff hok htestId, hdrops testId htestId selected hselected,
      Bool.and_eq_true, isBroad_selected_iff hselected,
      hasSpecificMatch_iff fun candidate hmem => hdescribes.testId_ne hmem]
    exact and_comm

theorem dropsBroad_of_conservesTests
    (hok : minimizeTests repository targetAnchorId related = .ok minimized)
    (hconserves : ConservesTests repository targetAnchorId related minimized) :
    DropsBroad related := by
  have hdescribes := describesTests_of_ok hok
  intro testId htestId selected hselected
  have hiff := hconserves.broad_iff testId htestId
  rw [mem_broadTestIds_iff hok htestId, ← isBroad_selected_iff hselected,
    ← hasSpecificMatch_iff fun candidate hmem => hdescribes.testId_ne hmem] at hiff
  rw [Bool.eq_iff_iff, Bool.and_eq_true, hiff]
  exact and_comm

end Exactness

/-- The matches of a target are conserved exactly when the repository describes every
related test, and no broad match stands before the dependent owners of a test which is
selected for such an owner. -/
theorem minimizeTests_conserves_iff
    {repository : Repository} {targetAnchorId : String}
    {related : List ResolvedRelatedTest}
    (hanchor : isBlank targetAnchorId = false)
    (hprovenance : ∀ candidate ∈ related, candidate.provenance ≠ []) :
    (∃ minimized, minimizeTests repository targetAnchorId related = .ok minimized ∧
      ConservesTests repository targetAnchorId related minimized) ↔
      DescribesTests repository related ∧ DependentsFirst related := by
  constructor
  · intro hmeets
    obtain ⟨minimized, hok, hconserves⟩ := hmeets
    have hdescribes := describesTests_of_ok hok
    refine ⟨hdescribes, dependentsFirst_of_dropsBroad ?_ ?_⟩
    · intro candidate hmem
      exact hdescribes.testId_ne hmem
    · exact dropsBroad_of_conservesTests hok hconserves
  · intro hcondition
    obtain ⟨hdescribes, hfirst⟩ := hcondition
    obtain ⟨minimized, hok⟩ := minimizeTests_ok hanchor hprovenance hdescribes
    exact ⟨minimized, hok,
      conservesTests_of_dropsBroad hok (dropsBroad_of_dependentsFirst hfirst)⟩

namespace Sample

def relatedTest (id : String) (reason : RelationReason) (ownerId path : Option String) :
    ResolvedRelatedTest :=
  { relatedMatch := relatedMatch id reason ownerId path
    discoveredTest := discovered id
    sameTest := rfl }

def oneTest : Repository :=
  repository
    [{ providerId := "python"
       discoveredTests := [discovered "test:python:app"]
       testTargets := describe }]
    [.test]

def dependentMatches : List ResolvedRelatedTest :=
  [relatedTest "test:python:app" .dependentComponent none none,
    relatedTest "test:python:app" .dependentComponent (some "component:python:app") none]

end Sample

theorem dependentMatches_provenance :
    ∀ candidate ∈ Sample.dependentMatches, candidate.provenance ≠ [] := by
  decide

theorem minimizeTests_conserves_iff_dependentMatches :
    (∃ minimized,
      minimizeTests Sample.oneTest "change_target:file:src/app.py" Sample.dependentMatches =
          .ok minimized ∧
        ConservesTests Sample.oneTest "change_target:file:src/app.py"
          Sample.dependentMatches minimized) ↔
      DescribesTests Sample.oneTest Sample.dependentMatches ∧
        DependentsFirst Sample.dependentMatches :=
  minimizeTests_conserves_iff (by decide) dependentMatches_provenance

theorem dependentMatches_dropped :
    (minimizeTests Sample.oneTest "change_target:file:src/app.py"
      Sample.dependentMatches).Yields fun minimized => minimized.tests = [] := by
  decide +kernel

/-- The test of a dependent owner is dropped as a broad one, and nothing is kept. -/
theorem minimizeTests_not_always_conserves :
    ¬ ∀ (repository : Repository) (targetAnchorId : String)
      (related : List ResolvedRelatedTest), isBlank targetAnchorId = false →
        (∀ candidate ∈ related, candidate.provenance ≠ []) →
          ∃ minimized, minimizeTests repository targetAnchorId related = .ok minimized ∧
            ConservesTests repository targetAnchorId related minimized := by
  intro hall
  obtain ⟨minimized, hok, hconserves⟩ := hall Sample.oneTest "change_target:file:src/app.py"
    Sample.dependentMatches (by decide) dependentMatches_provenance
  obtain ⟨other, hother, hnil⟩ := dependentMatches_dropped.exists_ok
  rw [hok, Except.ok.injEq] at hother
  subst hother
  exact hconserves.kept_of_related (by simp [Sample.dependentMatches]) hnil

end SuitCode
