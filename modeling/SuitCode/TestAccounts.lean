import SuitCode.CandidateIds

/-!
# The account of a call of the minimizer

The minimizer groups the matches of one test, keeps the strongest, records the
others as duplicates and afterwards drops the broad tests.  The account of a
call says where every match and every test id went.
-/

namespace SuitCode

open PosixText KeyedList ExceptList

/-! ## The account of one call -/

namespace MinimizedTests

def exclusionsWith (minimized : MinimizedTests)
    (reasonCode : MinimumVerifiedExclusionReason) : List ExcludedMinimumVerifiedItem :=
  minimized.exclusions.filter fun excluded => excluded.reasonCode = reasonCode

def duplicatesOf (minimized : MinimizedTests) (testId : String) :
    List ExcludedMinimumVerifiedItem :=
  (minimized.exclusionsWith .duplicateReplacedByStrongerMatch).filter
    fun excluded => excluded.itemId = testId

def broadTestIds (minimized : MinimizedTests) : List String :=
  (minimized.exclusionsWith .broadTestReplacedBySpecificTests).map
    ExcludedMinimumVerifiedItem.itemId

end MinimizedTests

def CarriesMatch (repository : Repository) (targetAnchorId : String)
    (strongest : ResolvedRelatedTest) (item : MinimumVerifiedTestTarget) : Prop :=
  ∃ description, repository.describeTestTarget strongest.testId = .ok description ∧
    testItem targetAnchorId strongest description (humanTestReason strongest) = .ok item

def weakerMatch (testId : String) (candidate : ResolvedRelatedTest) :
    ExcludedMinimumVerifiedItem :=
  ⟨.testTarget, testId, .duplicateReplacedByStrongerMatch,
    "weaker duplicate test match replaced by stronger deterministic match", [testId],
    candidate.provenance⟩

/-- One match of the test is selected, of the least sort key; every other one has
its exclusion, and an item of the test is built from the selected one. -/
structure AccountsFor (repository : Repository) (targetAnchorId : String)
    (related : List ResolvedRelatedTest) (minimized : MinimizedTests) (testId : String)
    (position : ℕ) (strongest : ResolvedRelatedTest) : Prop where
  selected : (candidatesFor related testId)[position]? = some strongest
  least : ∀ other ∈ candidatesFor related testId,
    testMatchSortKey strongest ≤ testMatchSortKey other
  duplicates : minimized.duplicatesOf testId =
    ((candidatesFor related testId).eraseIdx position).map (weakerMatch testId)
  carried : ∀ item ∈ minimized.tests, item.testId = testId →
    CarriesMatch repository targetAnchorId strongest item

/-- What is promised for the matches of a target: every test is either kept or
excluded as broad, every match is accounted for, and a test is excluded as broad
when all its matches are, and some match is not. -/
structure ConservesTests (repository : Repository) (targetAnchorId : String)
    (related : List ResolvedRelatedTest) (minimized : MinimizedTests) : Prop where
  testIds_perm :
    (minimized.tests.map MinimumVerifiedTestTarget.testId ++ minimized.broadTestIds).Perm
      (relatedTestIds related)
  accounts : ∀ testId ∈ relatedTestIds related, ∃ position strongest,
    AccountsFor repository targetAnchorId related minimized testId position strongest
  kept_of_related : related ≠ [] → minimized.tests ≠ []
  broad_iff : ∀ testId ∈ relatedTestIds related, testId ∈ minimized.broadTestIds ↔
    (∀ candidate ∈ candidatesFor related testId, isBroad candidate = true) ∧
      ∃ specific ∈ related, isBroad specific = false

/-! ## The condition -/

/-- The repository describes every related test. -/
def DescribesTests (repository : Repository) (related : List ResolvedRelatedTest) : Prop :=
  ∀ candidate ∈ related, ∃ description,
    repository.describeTestTarget candidate.testId = .ok description

def isDependentMatch (candidate : ResolvedRelatedTest) : Bool :=
  candidate.relationReason = .dependentComponent &&
    candidate.matchedRepositoryRelPath.isNone

/-- Where the strongest match of a test is by a dependent owner, the first match
of the test which is called the same is by an owner as well. -/
def DependentsFirst (related : List ResolvedRelatedTest) : Prop :=
  ∀ strongest ∈ related,
    (∀ other ∈ candidatesFor related strongest.testId,
      testMatchSortKey strongest ≤ testMatchSortKey other) →
    isDependentMatch strongest = true → strongest.matchedOwnerId.isSome = true →
      ∀ first, (candidatesFor related strongest.testId).find? isDependentMatch =
        some first → first.matchedOwnerId.isSome = true

variable {candidate left right selected : ResolvedRelatedTest} {testId : String} {α : Type}

/-! ## Sort keys -/

theorem mem_candidatesFor {related : List ResolvedRelatedTest} :
    candidate ∈ candidatesFor related testId ↔
      candidate ∈ related ∧ candidate.testId = testId := by
  simp [candidatesFor]

theorem isBroad_eq_true_iff :
    isBroad candidate = true ↔ specificityRank candidate = 2 := by
  unfold isBroad specificityRank
  cases candidate.matchedRepositoryRelPath with
  | some path => simp
  | none =>
      cases candidate.matchedOwnerId with
      | some ownerId => simp
      | none => simp

theorem specificityRank_le_two (candidate : ResolvedRelatedTest) :
    specificityRank candidate ≤ 2 := by
  unfold specificityRank
  by_cases hpath : candidate.matchedRepositoryRelPath.isSome = true
  · simp [hpath]
  · by_cases howner : candidate.matchedOwnerId.isSome = true
    · simp [hpath, howner]
    · simp [hpath, howner]

theorem specificityRank_le_of_key_le (hle : testMatchSortKey left ≤ testMatchSortKey right) :
    specificityRank left ≤ specificityRank right := by
  unfold testMatchSortKey at hle
  rw [Prod.Lex.toLex_le_toLex] at hle
  cases hle with
  | inl hlt => exact hlt.le
  | inr heq => exact heq.1.le

theorem isBroad_of_key_le (hle : testMatchSortKey left ≤ testMatchSortKey right)
    (hbroad : isBroad left = true) :
    isBroad right = true := by
  rw [isBroad_eq_true_iff] at hbroad ⊢
  have hrank := specificityRank_le_of_key_le hle
  have hbound := specificityRank_le_two right
  omega

theorem RelationReason.value_injective : Function.Injective RelationReason.value := by
  intro left right heq
  cases left <;> cases right <;> simp_all [RelationReason.value]

theorem eq_of_sortKey_eq (heq : testMatchSortKey left = testMatchSortKey right) :
    specificityRank left = specificityRank right ∧
      left.relationReason = right.relationReason := by
  unfold testMatchSortKey at heq
  simp only [EmbeddingLike.apply_eq_iff_eq, Prod.mk.injEq] at heq
  exact ⟨heq.1, RelationReason.value_injective heq.2.2.1⟩

theorem selectedMatch_least {related : List ResolvedRelatedTest} {other : ResolvedRelatedTest}
    (hselected : selectedMatch related testId = some selected)
    (hother : other ∈ candidatesFor related testId) :
    testMatchSortKey selected ≤ testMatchSortKey other := by
  unfold selectedMatch at hselected
  cases hranked : rankedCandidates (candidatesFor related testId) with
  | nil => simp [hranked] at hselected
  | cons first rest =>
      simp only [hranked, List.head?_cons, Option.map_some, Option.some.injEq] at hselected
      obtain ⟨position, hget⟩ := List.mem_iff_getElem?.mp hother
      have hentry : (other, position) ∈ (candidatesFor related testId).zipIdx :=
        List.mem_zipIdx_iff_getElem?.mpr hget
      unfold rankedCandidates at hranked
      have hle := key_head_le hranked hentry
      rw [← hselected]
      exact hle

theorem exists_selectedMatch {related : List ResolvedRelatedTest}
    (hmem : testId ∈ relatedTestIds related) :
    ∃ selected, selectedMatch related testId = some selected := by
  obtain ⟨candidate, hcandidate, hid⟩ := mem_relatedTestIds.mp hmem
  have hin : candidate ∈ candidatesFor related testId :=
    mem_candidatesFor.mpr ⟨hcandidate, hid⟩
  cases hranked : rankedCandidates (candidatesFor related testId) with
  | nil =>
      unfold rankedCandidates at hranked
      rw [sortedBy_eq_nil, List.zipIdx_eq_nil_iff] at hranked
      rw [hranked] at hin
      simp at hin
  | cons first rest => exact ⟨first.1, by simp [selectedMatch, hranked]⟩

/-! ## The match an item is judged by -/

theorem humanTestReason_eq_iff_of_dependent (hdependent : isDependentMatch selected = true) :
    humanTestReason candidate = humanTestReason selected ↔
      isDependentMatch candidate = true := by
  have hreason : humanTestReason selected = dependentTestReason := by
    unfold isDependentMatch at hdependent
    rw [Bool.and_eq_true, decide_eq_true_eq, Option.isNone_iff_eq_none] at hdependent
    simp [humanTestReason, hdependent.1, hdependent.2]
  rw [hreason]
  unfold humanTestReason isDependentMatch
  cases candidate.matchedRepositoryRelPath with
  | some path => simp [exactFileReason, dependentTestReason]
  | none =>
      by_cases hkind : candidate.relationReason = .dependentComponent
      · simp [hkind]
      · cases candidate.matchedOwnerId with
        | some ownerId => simp [hkind, sameOwnerReason, dependentTestReason]
        | none => simp [hkind, broadFallbackReason, dependentTestReason]

theorem isBroad_eq_of_humanTestReason (hdependent : isDependentMatch selected = false)
    (heq : humanTestReason candidate = humanTestReason selected) :
    isBroad candidate = isBroad selected := by
  unfold isDependentMatch at hdependent
  unfold humanTestReason at heq
  unfold isBroad
  cases hselectedPath : selected.matchedRepositoryRelPath with
  | some path =>
      cases hpath : candidate.matchedRepositoryRelPath with
      | some other => simp
      | none =>
          by_cases hkind : candidate.relationReason = .dependentComponent
          · simp [hselectedPath, hpath, hkind, exactFileReason, dependentTestReason] at heq
          · cases howner : candidate.matchedOwnerId with
            | some ownerId =>
                simp [hselectedPath, hpath, hkind, howner, exactFileReason,
                  sameOwnerReason] at heq
            | none =>
                simp [hselectedPath, hpath, hkind, howner, exactFileReason,
                  broadFallbackReason] at heq
  | none =>
      have hselectedKind : selected.relationReason ≠ .dependentComponent := by
        simpa [hselectedPath] using hdependent
      cases hpath : candidate.matchedRepositoryRelPath with
      | some other =>
          cases howner : selected.matchedOwnerId with
          | some ownerId =>
              simp [hselectedPath, hpath, hselectedKind, howner, exactFileReason,
                sameOwnerReason] at heq
          | none =>
              simp [hselectedPath, hpath, hselectedKind, howner, exactFileReason,
                broadFallbackReason] at heq
      | none =>
          by_cases hkind : candidate.relationReason = .dependentComponent
          · cases howner : selected.matchedOwnerId with
            | some ownerId =>
                simp [hselectedPath, hpath, hselectedKind, hkind, howner,
                  dependentTestReason, sameOwnerReason] at heq
            | none =>
                simp [hselectedPath, hpath, hselectedKind, hkind, howner,
                  dependentTestReason, broadFallbackReason] at heq
          · cases howner : candidate.matchedOwnerId <;>
              cases hselectedOwner : selected.matchedOwnerId <;>
              simp_all [sameOwnerReason, broadFallbackReason]

theorem droppedAsBroad_eq {related : List ResolvedRelatedTest}
    (hselected : selectedMatch related testId = some selected) :
    ∃ judged ∈ candidatesFor related testId,
      (candidatesFor related testId).find? (fun candidate =>
        humanTestReason candidate = humanTestReason selected) = some judged ∧
      droppedAsBroad related testId = (hasSpecificMatch related && isBroad judged) := by
  obtain ⟨hmem, hid⟩ := selectedMatch_mem hselected
  cases hfind : (candidatesFor related testId).find? fun candidate =>
      humanTestReason candidate = humanTestReason selected with
  | none =>
      rw [List.find?_eq_none] at hfind
      have hnot := hfind selected (mem_candidatesFor.mpr ⟨hmem, hid⟩)
      simp at hnot
  | some judged =>
      refine ⟨judged, List.mem_of_find?_eq_some hfind, rfl, ?_⟩
      have hjudged : related.find? (fun candidate => candidate.testId = testId &&
          humanTestReason candidate = humanTestReason selected) = some judged := by
        rw [← hfind, candidatesFor, List.find?_filter]
        simp only [Bool.decide_and, Bool.decide_eq_true]
      simp only [droppedAsBroad, hselected, Option.any_some, hjudged]

def DropsBroad (related : List ResolvedRelatedTest) : Prop :=
  ∀ testId ∈ relatedTestIds related, ∀ selected, selectedMatch related testId = some selected →
    droppedAsBroad related testId = (hasSpecificMatch related && isBroad selected)

theorem dropsBroad_of_dependentsFirst {related : List ResolvedRelatedTest}
    (hfirst : DependentsFirst related) : DropsBroad related := by
  intro testId htestId selected hselected
  obtain ⟨judged, hjudgedMem, hjudged, hdropped⟩ := droppedAsBroad_eq hselected
  obtain ⟨hmem, hid⟩ := selectedMatch_mem hselected
  have hleast : ∀ other ∈ candidatesFor related testId,
      testMatchSortKey selected ≤ testMatchSortKey other := by
    intro other hother
    exact selectedMatch_least hselected hother
  rw [hdropped]
  congr 1
  have hreason : humanTestReason judged = humanTestReason selected := by
    simpa using List.find?_some hjudged
  by_cases hdependent : isDependentMatch selected = true
  · cases howner : selected.matchedOwnerId with
    | some ownerId =>
        have hfind : (candidatesFor related testId).find? isDependentMatch = some judged := by
          rw [← hjudged]
          congr 1
          funext candidate
          rw [Bool.eq_iff_iff, decide_eq_true_eq]
          exact (humanTestReason_eq_iff_of_dependent hdependent).symm
        rw [← hid] at hfind hleast
        have hsome := hfirst selected hmem hleast hdependent (by simp [howner]) judged hfind
        have hnone : judged.matchedOwnerId.isNone = false := by
          cases hjudgedOwner : judged.matchedOwnerId with
          | none => simp [hjudgedOwner] at hsome
          | some other => rfl
        simp [isBroad, howner, hnone]
    | none =>
        have hpath : selected.matchedRepositoryRelPath.isNone = true := by
          unfold isDependentMatch at hdependent
          exact (Bool.and_eq_true_iff.mp hdependent).2
        have hbroad : isBroad selected = true := by
          simp only [isBroad, hpath, howner, Option.isNone_none, Bool.and_self]
        rw [hbroad]
        exact isBroad_of_key_le (hleast judged hjudgedMem) hbroad
  · have hfalse : isDependentMatch selected = false := by simpa using hdependent
    exact isBroad_eq_of_humanTestReason hfalse hreason

theorem hasSpecificMatch_of_mem {related : List ResolvedRelatedTest}
    {specific : ResolvedRelatedTest} (hmem : specific ∈ related)
    (hid : specific.testId ≠ "") (hbroad : isBroad specific = false) :
    hasSpecificMatch related = true := by
  unfold hasSpecificMatch
  rw [List.any_eq_true]
  exact ⟨specific, hmem, by simp [hid, hbroad]⟩

theorem dependentsFirst_of_dropsBroad {related : List ResolvedRelatedTest}
    (hids : ∀ candidate ∈ related, candidate.testId ≠ "")
    (hdrops : DropsBroad related) : DependentsFirst related := by
  intro strongest hmem hleast hdependent howner first hfind
  have htestId : strongest.testId ∈ relatedTestIds related :=
    mem_relatedTestIds.mpr ⟨strongest, hmem, rfl⟩
  obtain ⟨selected, hselected⟩ := exists_selectedMatch htestId
  obtain ⟨hselectedMem, hselectedId⟩ := selectedMatch_mem hselected
  -- two matches of the least key share what the reason is made from
  have hkey : testMatchSortKey selected = testMatchSortKey strongest := by
    apply le_antisymm
    · exact selectedMatch_least hselected (mem_candidatesFor.mpr ⟨hmem, rfl⟩)
    · exact hleast selected (mem_candidatesFor.mpr ⟨hselectedMem, hselectedId⟩)
  obtain ⟨hrank, hkind⟩ := eq_of_sortKey_eq hkey
  unfold isDependentMatch at hdependent
  rw [Bool.and_eq_true, decide_eq_true_eq, Option.isNone_iff_eq_none] at hdependent
  have hone : specificityRank strongest = 1 := by
    simp [specificityRank, hdependent.2, howner]
  have hpath : selected.matchedRepositoryRelPath = none := by
    cases hselectedPath : selected.matchedRepositoryRelPath with
    | none => rfl
    | some path =>
        rw [hone] at hrank
        simp [specificityRank, hselectedPath] at hrank
  have hselectedDependent : isDependentMatch selected = true := by
    simp [isDependentMatch, hpath, hkind, hdependent.1]
  have hspecific : isBroad selected = false := by
    rw [Bool.eq_false_iff, ne_eq, isBroad_eq_true_iff, hrank, hone]
    simp
  obtain ⟨judged, -, hjudged, hdropped⟩ := droppedAsBroad_eq hselected
  have heq : judged = first := by
    have hsame : (candidatesFor related strongest.testId).find? isDependentMatch =
        some judged := by
      rw [← hjudged]
      congr 1
      funext candidate
      rw [Bool.eq_iff_iff, decide_eq_true_eq]
      exact (humanTestReason_eq_iff_of_dependent hselectedDependent).symm
    rw [hfind, Option.some.injEq] at hsame
    exact hsame.symm
  rw [hdrops _ htestId selected hselected, hspecific,
    hasSpecificMatch_of_mem hselectedMem (hids selected hselectedMem) hspecific, heq] at hdropped
  have hfirstPath : first.matchedRepositoryRelPath.isNone = true := by
    have hfirst := List.find?_some hfind
    unfold isDependentMatch at hfirst
    exact (Bool.and_eq_true_iff.mp hfirst).2
  cases hfirstOwner : first.matchedOwnerId with
  | some ownerId => rfl
  | none => simp [isBroad, hfirstPath, hfirstOwner] at hdropped

/-! ## One test id -/

theorem map_fst_filter_zipIdx_ne (items : List α) (start position : ℕ) :
    ((items.zipIdx start).filter fun entry => entry.2 ≠ position + start).map Prod.fst =
      items.eraseIdx position := by
  induction items generalizing start position with
  | nil => simp
  | cons item items ih =>
      rw [List.zipIdx_cons]
      cases position with
      | zero =>
          have hlater : ∀ entry ∈ items.zipIdx (start + 1), entry.2 ≠ 0 + start := by
            intro entry hentry
            have hle := List.le_snd_of_mem_zipIdx hentry
            omega
          rw [List.filter_cons_of_neg (by simp), List.eraseIdx_zero, List.tail_cons,
            List.filter_eq_self.mpr (by simpa using hlater), List.zipIdx_map_fst]
      | succ position =>
          rw [List.filter_cons_of_pos (by simp), List.map_cons, List.eraseIdx_cons_succ,
            ← ih (start + 1) position]
          congr 3
          funext entry
          congr 2
          rw [Nat.add_right_comm, Nat.add_assoc]

theorem duplicateExclusion_eq {excluded : ExcludedMinimumVerifiedItem}
    (hok : duplicateExclusion testId candidate = .ok excluded) :
    excluded = weakerMatch testId candidate := by
  unfold duplicateExclusion at hok
  exact exclusion_eq hok

/-- Of the matches of a test the selected one is kept, and each other is excluded as weaker. -/
theorem minimizeTestGroup_account {repository : Repository} {targetAnchorId : String}
    {related : List ResolvedRelatedTest}
    {group : MinimumVerifiedTestTarget × List ExcludedMinimumVerifiedItem}
    (hok : minimizeTestGroup repository targetAnchorId related testId = .ok group) :
    ∃ position strongest, selectedMatch related testId = some strongest ∧
      (candidatesFor related testId)[position]? = some strongest ∧
      CarriesMatch repository targetAnchorId strongest group.1 ∧
      group.2 = ((candidatesFor related testId).eraseIdx position).map
        (weakerMatch testId) := by
  unfold minimizeTestGroup at hok
  cases hranked : rankedCandidates (candidatesFor related testId) with
  | nil => simp [hranked] at hok
  | cons first rest =>
      obtain ⟨strongest, position⟩ := first
      simp only [hranked] at hok
      obtain ⟨duplicates, hduplicates, hok⟩ := bind_eq_ok.mp hok
      obtain ⟨description, hdescription, hok⟩ := bind_eq_ok.mp hok
      obtain ⟨item, hitem, hok⟩ := bind_eq_ok.mp hok
      rw [pure_eq_ok] at hok
      subst hok
      have hselected : selectedMatch related testId = some strongest := by
        simp [selectedMatch, hranked]
      have hid := (selectedMatch_mem hselected).2
      have hentry : (strongest, position) ∈ (candidatesFor related testId).zipIdx := by
        have hhead : (strongest, position) ∈
            rankedCandidates (candidatesFor related testId) := by
          rw [hranked]
          exact List.mem_cons_self
        exact mem_sortedBy.mp hhead
      refine ⟨position, strongest, hselected, List.mem_zipIdx_iff_getElem?.mp hentry, ?_, ?_⟩
      · refine ⟨description, ?_, hitem⟩
        rw [hid]
        exact hdescription
      · have hmap := map_outputs_eq id (fun entry => weakerMatch testId entry.1) hduplicates
          fun entry _ excluded hexcluded => duplicateExclusion_eq hexcluded
        rw [List.map_id] at hmap
        have herase := map_fst_filter_zipIdx_ne (candidatesFor related testId) 0 position
        rw [Nat.add_zero] at herase
        rw [← herase, List.map_map]
        exact hmap

/-! ## All tests -/

theorem filter_flatMap_outputs {ε β γ : Type} [DecidableEq α] {f : α → Except ε β} {inputs : List α}
    {outputs : List β} (part : β → List γ) (key : γ → α) (hrun : inputs.mapM f = .ok outputs)
    (hnodup : inputs.Nodup)
    (hown : ∀ input output, f input = .ok output → ∀ item ∈ part output, key item = input)
    {input : α} {output : β} (hmem : input ∈ inputs) (hok : f input = .ok output) :
    (outputs.flatMap part).filter (fun item => key item = input) = part output := by
  have hall := mapM_eq_ok_iff.mp hrun
  clear hrun
  induction hall with
  | nil => simp at hmem
  | @cons head found inputs outputs hhead htail ih =>
      obtain ⟨hfresh, hnodup⟩ := List.nodup_cons.mp hnodup
      rw [List.flatMap_cons, List.filter_append]
      by_cases heq : input = head
      · subst heq
        have hfound : found = output := by
          rw [hok] at hhead
          exact (Except.ok.inj hhead).symm
        have hfirst : (part found).filter (fun item => key item = input) = part found := by
          rw [List.filter_eq_self]
          intro item hitem
          simpa using hown input found hhead item hitem
        have hrest : (outputs.flatMap part).filter (fun item => key item = input) = [] := by
          rw [List.filter_eq_nil_iff]
          intro item hitem hkey
          obtain ⟨later, hlater, hin⟩ := List.mem_flatMap.mp hitem
          obtain ⟨other, hother, hotherOk⟩ :=
            exists_input_of_mem (mapM_eq_ok_iff.mpr htail) hlater
          have hotherKey := hown other later hotherOk item hin
          rw [decide_eq_true_eq, hotherKey] at hkey
          rw [hkey] at hother
          exact hfresh hother
        rw [hfirst, hrest, List.append_nil, hfound]
      · have hfirst : (part found).filter (fun item => key item = input) = [] := by
          rw [List.filter_eq_nil_iff]
          intro item hitem hkey
          rw [decide_eq_true_eq, hown head found hhead item hitem] at hkey
          exact heq hkey.symm
        have hin : input ∈ inputs := by
          cases List.mem_cons.mp hmem with
          | inl hhead => exact absurd hhead heq
          | inr htail => exact htail
        rw [hfirst, List.nil_append]
        exact ih hnodup hin

theorem map_filterMap_outputs {ε β κ : Type} {f : α → Except ε (Option β)} {inputs : List α}
    {outputs : List (Option β)} (given : α → Bool) (name : α → κ) (key : β → κ)
    (hrun : inputs.mapM f = .ok outputs)
    (hgiven : ∀ input ∈ inputs, ∀ output, f input = .ok output →
      output.isNone = !given input)
    (hkey : ∀ input ∈ inputs, ∀ item, f input = .ok (some item) → key item = name input) :
    (outputs.filterMap id).map key = (inputs.filter given).map name := by
  have hall := mapM_eq_ok_iff.mp hrun
  clear hrun
  induction hall with
  | nil => rfl
  | @cons input output inputs outputs hhead _ ih =>
      have hrest := ih
        (fun later hlater => hgiven later (List.mem_cons_of_mem _ hlater))
        (fun later hlater => hkey later (List.mem_cons_of_mem _ hlater))
      have hfirst := hgiven input List.mem_cons_self output hhead
      cases output with
      | none =>
          have hnot : given input = false := by simpa using hfirst
          rw [List.filterMap_cons_none rfl, List.filter_cons_of_neg (by simp [hnot])]
          exact hrest
      | some item =>
          have hyes : given input = true := by simpa using hfirst
          rw [@List.filterMap_cons_some _ _ id (some item) outputs item rfl, List.filter_cons_of_pos hyes, List.map_cons,
            List.map_cons, hkey input List.mem_cons_self item hhead, hrest]

section Call

variable {repository : Repository} {targetAnchorId : String}
  {related : List ResolvedRelatedTest} {minimized : MinimizedTests}

section Verdicts

variable {groups : List (MinimumVerifiedTestTarget × List ExcludedMinimumVerifiedItem)}
  {verdicts : List (Option ExcludedMinimumVerifiedItem)}

theorem verdicts_reasonCode
    (hids : (groups.map Prod.fst).map MinimumVerifiedTestTarget.testId = relatedTestIds related)
    (hverdicts : (groups.map Prod.fst).zipIdx.mapM
      (broadExclusion? related (groups.map Prod.fst)) = .ok verdicts) :
    ∀ excluded ∈ verdicts.filterMap id,
      excluded.reasonCode = .broadTestReplacedBySpecificTests := by
  intro excluded hexcluded
  obtain ⟨verdict, hverdict, hsome⟩ := List.mem_filterMap.mp hexcluded
  change verdict = some excluded at hsome
  subst hsome
  obtain ⟨entry, hentry, hentryOk⟩ := exists_input_of_mem hverdicts hverdict
  exact (broadExclusion?_some hids hentry hentryOk).reasonCode_eq

theorem verdicts_itemIds
    (hgroups : (relatedTestIds related).mapM
      (minimizeTestGroup repository targetAnchorId related) = .ok groups)
    (hspecific : hasSpecificMatch related = true)
    (hverdicts : (groups.map Prod.fst).zipIdx.mapM
      (broadExclusion? related (groups.map Prod.fst)) = .ok verdicts) :
    (verdicts.filterMap id).map ExcludedMinimumVerifiedItem.itemId = droppedTestIds related := by
  have hids := groups_testIds hgroups
  have hgiven : ∀ entry ∈ (groups.map Prod.fst).zipIdx, ∀ verdict,
      broadExclusion? related (groups.map Prod.fst) entry = .ok verdict →
        verdict.isNone = !droppedAsBroad related entry.1.testId := by
    intro entry hentry verdict hverdict
    obtain ⟨selected, hselected, hreason⟩ :=
      groups_reason hgroups (List.fst_mem_of_mem_zipIdx hentry)
    exact broadExclusion?_isNone hspecific hselected hreason hverdict
  have hkey : ∀ entry ∈ (groups.map Prod.fst).zipIdx, ∀ excluded,
      broadExclusion? related (groups.map Prod.fst) entry = .ok (some excluded) →
        excluded.itemId = entry.1.testId := by
    intro entry hentry excluded hexcluded
    exact (broadExclusion?_some hids hentry hexcluded).itemId_eq
  have houtputs := map_filterMap_outputs
    (fun entry : MinimumVerifiedTestTarget × Nat => droppedAsBroad related entry.1.testId)
    (fun entry => entry.1.testId) ExcludedMinimumVerifiedItem.itemId hverdicts
  calc
    (verdicts.filterMap id).map ExcludedMinimumVerifiedItem.itemId =
        ((groups.map Prod.fst).zipIdx.filter fun entry =>
          droppedAsBroad related entry.1.testId).map (fun entry => entry.1.testId) :=
      houtputs hgiven hkey
    _ = ((((groups.map Prod.fst).zipIdx.map Prod.fst).map
          MinimumVerifiedTestTarget.testId).filter (droppedAsBroad related)) := by
      simp only [List.filter_map, List.map_map, Function.comp_def]
    _ = droppedTestIds related := by
      rw [List.zipIdx_map_fst, hids, droppedTestIds]

end Verdicts

theorem minimizeTests_split
    (hok : minimizeTests repository targetAnchorId related = .ok minimized) :
    ∃ groups broads,
      (relatedTestIds related).mapM (minimizeTestGroup repository targetAnchorId related) =
        .ok groups ∧
      minimized.exclusions = groups.flatMap Prod.snd ++ broads ∧
      minimized.tests.Sublist (groups.map Prod.fst) ∧
      (∀ excluded ∈ broads, excluded.reasonCode = .broadTestReplacedBySpecificTests) ∧
      broads.map ExcludedMinimumVerifiedItem.itemId = droppedTestIds related := by
  unfold minimizeTests at hok
  obtain ⟨groups, hgroups, hok⟩ := bind_eq_ok.mp hok
  have hids := groups_testIds hgroups
  simp only [hasSpecificTest_eq hids] at hok
  cases hspecific : hasSpecificMatch related with
  | false =>
      simp only [hspecific, Bool.not_false, if_true, pure_eq_ok] at hok
      subst hok
      refine ⟨groups, [], hgroups, by simp, List.Sublist.refl _, by simp, ?_⟩
      rw [(droppedTestIds_eq_nil hspecific).1]
      rfl
  | true =>
      simp only [hspecific, Bool.not_true, Bool.false_eq_true, if_false] at hok
      obtain ⟨verdicts, hverdicts, hok⟩ := bind_eq_ok.mp hok
      rw [pure_eq_ok] at hok
      subst hok
      refine ⟨groups, verdicts.filterMap id, hgroups, rfl, ?_,
        verdicts_reasonCode hids hverdicts, verdicts_itemIds hgroups hspecific hverdicts⟩
      have hzip : (((groups.map Prod.fst).zip verdicts).filter fun entry =>
          entry.2.isNone).Sublist ((groups.map Prod.fst).zip verdicts) :=
        List.filter_sublist
      have hmap := hzip.map Prod.fst
      rw [List.map_fst_zip] at hmap
      · exact hmap
      · have hlength := (mapM_eq_ok_iff.mp hverdicts).length_eq
        rw [List.length_zipIdx] at hlength
        omega

theorem exclusionsWith_broad
    (hok : minimizeTests repository targetAnchorId related = .ok minimized) :
    minimized.broadTestIds = droppedTestIds related := by
  obtain ⟨groups, broads, hgroups, hexclusions, -, hreasons, hids⟩ := minimizeTests_split hok
  unfold MinimizedTests.broadTestIds MinimizedTests.exclusionsWith
  have hduplicates : (groups.flatMap Prod.snd).filter (fun excluded =>
      excluded.reasonCode = .broadTestReplacedBySpecificTests) = [] := by
    rw [List.filter_eq_nil_iff]
    intro excluded hexcluded
    obtain ⟨testId, -, -, hduplicate⟩ := groups_duplicates hgroups hexcluded
    simp [hduplicate.reasonCode_eq]
  have hbroads : broads.filter (fun excluded =>
      excluded.reasonCode = .broadTestReplacedBySpecificTests) = broads := by
    rw [List.filter_eq_self]
    intro excluded hexcluded
    simpa using hreasons excluded hexcluded
  rw [hexclusions, List.filter_append, hduplicates, hbroads, List.nil_append, hids]

theorem duplicatesOf_eq
    {groups : List (MinimumVerifiedTestTarget × List ExcludedMinimumVerifiedItem)}
    {broads : List ExcludedMinimumVerifiedItem}
    (hgroups : (relatedTestIds related).mapM
      (minimizeTestGroup repository targetAnchorId related) = .ok groups)
    (hexclusions : minimized.exclusions = groups.flatMap Prod.snd ++ broads)
    (hreasons : ∀ excluded ∈ broads,
      excluded.reasonCode = .broadTestReplacedBySpecificTests)
    {group : MinimumVerifiedTestTarget × List ExcludedMinimumVerifiedItem}
    (htestId : testId ∈ relatedTestIds related)
    (hgroup : minimizeTestGroup repository targetAnchorId related testId = .ok group) :
    minimized.duplicatesOf testId = group.2 := by
  have hbroads : broads.filter (fun excluded =>
      excluded.reasonCode = .duplicateReplacedByStrongerMatch) = [] := by
    rw [List.filter_eq_nil_iff]
    intro excluded hexcluded
    simp [hreasons excluded hexcluded]
  have hduplicates : (groups.flatMap Prod.snd).filter (fun excluded =>
      excluded.reasonCode = .duplicateReplacedByStrongerMatch) =
        groups.flatMap Prod.snd := by
    rw [List.filter_eq_self]
    intro excluded hexcluded
    obtain ⟨otherId, -, -, hduplicate⟩ := groups_duplicates hgroups hexcluded
    simp [hduplicate.reasonCode_eq]
  unfold MinimizedTests.duplicatesOf MinimizedTests.exclusionsWith
  rw [hexclusions, List.filter_append, hduplicates, hbroads, List.append_nil]
  apply filter_flatMap_outputs Prod.snd ExcludedMinimumVerifiedItem.itemId hgroups
    (nodup_relatedTestIds related) _ htestId hgroup
  intro otherId other hother excluded hexcluded
  exact ((minimizeTestGroup_facts hother).exclusions_duplicate excluded hexcluded).itemId_eq

theorem minimizeTests_accounts
    (hok : minimizeTests repository targetAnchorId related = .ok minimized)
    (htestId : testId ∈ relatedTestIds related) :
    ∃ position strongest, selectedMatch related testId = some strongest ∧
      AccountsFor repository targetAnchorId related minimized testId position strongest := by
  obtain ⟨groups, broads, hgroups, hexclusions, htests, hreasons, -⟩ := minimizeTests_split hok
  obtain ⟨group, -, hgroup⟩ := exists_output_of_mem hgroups htestId
  obtain ⟨position, strongest, hselected, hget, hcarried, hduplicates⟩ :=
    minimizeTestGroup_account hgroup
  refine ⟨position, strongest, hselected, hget, ?_, ?_, ?_⟩
  · intro other hother
    exact selectedMatch_least hselected hother
  · rw [duplicatesOf_eq hgroups hexclusions hreasons htestId hgroup, hduplicates]
  · intro item hitem hid
    obtain ⟨other, hother, hfst⟩ := List.mem_map.mp (htests.subset hitem)
    obtain ⟨otherId, -, hotherOk⟩ := exists_input_of_mem hgroups hother
    have hotherId := (minimizeTestGroup_facts hotherOk).testId_eq
    rw [hfst, hid] at hotherId
    subst hotherId
    rw [hgroup, Except.ok.injEq] at hotherOk
    subst hotherOk
    rw [← hfst]
    exact hcarried

theorem minimizeTests_testIds_perm
    (hok : minimizeTests repository targetAnchorId related = .ok minimized) :
    (minimized.tests.map MinimumVerifiedTestTarget.testId ++ minimized.broadTestIds).Perm
      (relatedTestIds related) := by
  rw [exclusionsWith_broad hok, (minimizeTests_facts hok).testIds_eq]
  have hsplit := List.filter_append_perm (droppedAsBroad related) (relatedTestIds related)
  exact List.perm_append_comm.trans hsplit

end Call

end SuitCode
