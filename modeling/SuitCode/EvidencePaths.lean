import SuitCode.Provenance
import SuitCode.Library.PosixNormalForm

/-!
# Stored evidence paths

What the evidence-path validator makes of one path, and which of the paths it
has accepted it accepts again unchanged.  White space behind a leading `./`
survives the first pass and is stripped by the second.
-/

namespace SuitCode

open ExceptList PosixText

def evidencePath (item : String) : PyResult String :=
  if isBlank item then
    raiseValueError "evidence_paths must not contain empty values"
  else
    let candidate := strip (replaceChar '\\' '/' item)
    if !containsText candidate "://" && !startsWith candidate "/" then
      normalizeRepositoryRelativePath candidate
    else
      pure candidate

theorem validateEvidencePaths_cons (accepted items : List String) (item : String) :
    validateEvidencePaths accepted (item :: items) =
      evidencePath item >>= fun normalized =>
        if normalized ∈ accepted then
          raiseValueError "evidence_paths must not contain duplicates"
        else
          validateEvidencePaths (accepted ++ [normalized]) items := by
  rw [validateEvidencePaths, evidencePath]
  by_cases hblank : isBlank item = true
  · simp only [if_pos hblank]
    rfl
  · simp only [if_neg hblank]
    split <;> rfl

theorem validateEvidencePaths_eq_ok {accepted items result : List String} :
    validateEvidencePaths accepted items = .ok result ↔
      ∃ paths, items.mapM evidencePath = .ok paths ∧ result = accepted ++ paths ∧
        paths.Nodup ∧ ∀ path ∈ paths, path ∉ accepted := by
  induction items generalizing accepted with
  | nil =>
      simp only [validateEvidencePaths, Except.ok.injEq, List.mapM_nil, pure_eq_ok]
      constructor
      · rintro rfl
        exact ⟨[], by simp⟩
      · rintro ⟨paths, rfl, hresult, -⟩
        simpa using hresult.symm
  | cons item items ih =>
      rw [validateEvidencePaths_cons, bind_eq_ok]
      simp only [List.mapM_cons, bind_eq_ok, pure_eq_ok]
      constructor
      · rintro ⟨path, hpath, hrest⟩
        by_cases hmem : path ∈ accepted
        · simp [hmem] at hrest
        · rw [if_neg hmem, ih] at hrest
          obtain ⟨paths, hpaths, rfl, hnodup, hfresh⟩ := hrest
          refine ⟨path :: paths, ⟨path, hpath, paths, hpaths, rfl⟩, by simp, ?_, ?_⟩
          · rw [List.nodup_cons]
            exact ⟨fun hin => hfresh path hin (by simp), hnodup⟩
          · intro other hother
            rcases List.mem_cons.mp hother with rfl | hother
            · exact hmem
            · exact fun hin => hfresh other hother (List.mem_append_left _ hin)
      · rintro ⟨all, ⟨path, hpath, paths, hpaths, rfl⟩, rfl, hnodup, hfresh⟩
        rw [List.nodup_cons] at hnodup
        refine ⟨path, hpath, ?_⟩
        rw [if_neg (hfresh path List.mem_cons_self), ih]
        refine ⟨paths, hpaths, by simp, hnodup.2, ?_⟩
        intro other hother
        rw [List.mem_append, List.mem_singleton, not_or]
        refine ⟨hfresh other (List.mem_cons_of_mem _ hother), ?_⟩
        rintro rfl
        exact hnodup.1 hother

/-! ## One path -/

/-- Exactly the entries which pass the checks are made. -/
theorem ProvenanceEntry.create_eq_ok {confidenceMode : ConfidenceMode} {sourceKind : SourceKind}
    {sourceTool : Option String} {evidenceSummary : String} {evidencePaths : List String}
    {entry : ProvenanceEntry} :
    ProvenanceEntry.create confidenceMode sourceKind sourceTool evidenceSummary evidencePaths =
        .ok entry ↔
      sourceTool.any isBlank = false ∧ isBlank evidenceSummary = false ∧
        ∃ stored, validateEvidencePaths [] evidencePaths = .ok stored ∧
          entry = ⟨confidenceMode, sourceKind, sourceTool, strip evidenceSummary, stored⟩ := by
  unfold ProvenanceEntry.create
  by_cases htool : sourceTool.any isBlank = true
  · simp [htool]
  · by_cases hsummary : isBlank evidenceSummary = true
    · simp [htool, hsummary]
    · simp only [if_neg htool, if_neg hsummary, bind_eq_ok, pure_eq_ok]
      rw [Bool.not_eq_true] at htool hsummary
      simp only [htool, hsummary, true_and]
      constructor
      · rintro ⟨stored, hstored, rfl⟩
        exact ⟨stored, hstored, rfl⟩
      · rintro ⟨stored, hstored, rfl⟩
        exact ⟨stored, hstored, rfl⟩

theorem toList_replaceChar (old new : Char) (text : String) :
    (replaceChar old new text).toList = text.toList.map fun c => if c = old then new else c := by
  simp [replaceChar]

theorem backslash_not_mem_replaceChar (text : String) :
    '\\' ∉ (replaceChar '\\' '/' text).toList := by
  rw [toList_replaceChar]
  intro hmem
  obtain ⟨c, -, hc⟩ := List.mem_map.mp hmem
  by_cases heq : c = '\\'
  · simp [heq] at hc
  · simp [heq] at hc

variable {text path : String}

theorem replaceChar_of_not_mem {old new : Char} (hmem : old ∉ text.toList) :
    replaceChar old new text = text := by
  apply String.toList_injective
  rw [toList_replaceChar]
  nth_rewrite 2 [← List.map_id text.toList]
  apply List.map_congr_left
  intro c hc
  have hne : c ≠ old := fun h => hmem (h ▸ hc)
  simp [hne]

theorem mem_of_mem_strip {c : Char} (hc : c ∈ (strip text).toList) :
    c ∈ text.toList := by
  rw [toList_strip] at hc
  exact (List.dropWhile_sublist _).subset ((List.rdropWhile_prefix _ _).subset hc)

theorem mem_of_mem_removePrefix {c : Char} {start : String}
    (hc : c ∈ (removePrefix start text).toList) : c ∈ text.toList := by
  unfold removePrefix at hc
  split at hc
  · rw [String.toList_ofList] at hc
    exact (List.drop_sublist _ _).subset hc
  · exact hc

theorem length_removePrefix_le (start text : String) :
    (removePrefix start text).toList.length ≤ text.toList.length := by
  unfold removePrefix
  split
  · simp
  · exact le_rfl

theorem startsWith_slash_purePosixPath (hroot : startsWith text "/" = true) :
    startsWith (purePosixPath text) "/" = true := by
  have hne : rootOf text ≠ "" := by
    rw [ne_eq, rootOf_eq_empty_iff, hroot]
    decide
  have hcases : rootOf text = "//" ∨ rootOf text = "/" := by
    unfold rootOf at hne ⊢
    split
    · exact .inl rfl
    · exact .inr (by simp)
  rw [purePosixPath, if_neg (by simp [hne])]
  rcases hcases with heq | heq <;> simp [heq, startsWith]

/-- A path is normalised where its text stays inside the repository. -/
theorem normalizeRepositoryRelativePath_eq_ok {stored : String} :
    normalizeRepositoryRelativePath path = .ok stored ↔
      stored = purePosixPath (removePrefix "./" (strip (replaceChar '\\' '/' path))) ∧
        startsWith stored "/" = false ∧ stored ≠ ".." ∧ startsWith stored "../" = false := by
  unfold normalizeRepositoryRelativePath
  generalize purePosixPath (removePrefix "./" (strip (replaceChar '\\' '/' path))) = normalized
  by_cases hescapes :
      (startsWith normalized "/" || normalized = ".." || startsWith normalized "../") = true
  · simp only [hescapes, if_true, raiseValueError_ne_ok, false_iff]
    rintro ⟨rfl, hslash, hup, hbelow⟩
    simp [hslash, hup, hbelow] at hescapes
  · rw [if_neg hescapes, Except.ok.injEq]
    simp only [Bool.or_eq_true, decide_eq_true_eq, not_or, Bool.not_eq_true] at hescapes
    constructor
    · rintro rfl
      exact ⟨rfl, hescapes.1.1, hescapes.1.2, hescapes.2⟩
    · rintro ⟨rfl, -⟩
      rfl

theorem evidencePath_cases {item : String} (hok : evidencePath item = .ok path) :
    '\\' ∉ path.toList ∧ path ≠ "" ∧
      ((strip path = path ∧ (containsText path "://" || startsWith path "/") = true) ∨
        (startsWith path "/" = false ∧ path ≠ ".." ∧ startsWith path "../" = false ∧
          ∃ text, startsWith text "/" = false ∧ path = purePosixPath text)) := by
  unfold evidencePath at hok
  split at hok
  · simp at hok
  · next hblank =>
      simp only at hok
      split at hok
      · next hrelative =>
          obtain ⟨hstored, hslash, hup, hbelow⟩ := normalizeRepositoryRelativePath_eq_ok.mp hok
          generalize htext : removePrefix "./"
            (strip (replaceChar '\\' '/' (strip (replaceChar '\\' '/' item)))) = text at hstored
          have hroot : startsWith text "/" = false := by
            by_contra h
            rw [Bool.not_eq_false] at h
            have hstart := startsWith_slash_purePosixPath h
            rw [← hstored, hslash] at hstart
            exact absurd hstart (by decide)
          refine ⟨?_, ?_, .inr ⟨hslash, hup, hbelow, text, hroot, hstored⟩⟩
          · intro hmem
            rw [hstored] at hmem
            rcases mem_toList_purePosixPath hroot hmem with hmem | hmem | hmem
            · rw [← htext] at hmem
              exact backslash_not_mem_replaceChar _
                (mem_of_mem_strip (mem_of_mem_removePrefix hmem))
            · exact absurd hmem (by decide)
            · exact absurd hmem (by decide)
          · rw [hstored]
            exact purePosixPath_ne_empty hroot
      · next hkept =>
          rw [pure_eq_ok] at hok
          subst hok
          have hkept' : (containsText (strip (replaceChar '\\' '/' item)) "://" ||
              startsWith (strip (replaceChar '\\' '/' item)) "/") = true := by
            revert hkept
            cases containsText (strip (replaceChar '\\' '/' item)) "://" <;> simp
          refine ⟨fun hmem => backslash_not_mem_replaceChar item (mem_of_mem_strip hmem), ?_,
            .inl ⟨strip_strip _, hkept'⟩⟩
          intro hempty
          rw [hempty] at hkept'
          exact absurd hkept' (by decide)

theorem isBlank_eq_false (hstrip : strip path = path) (hne : path ≠ "") :
    isBlank path = false := by
  by_contra hblank
  rw [Bool.not_eq_false, ← strip_eq_empty_iff, hstrip] at hblank
  exact hne hblank

theorem evidencePath_stored_iff {item : String} (hok : evidencePath item = .ok path) :
    evidencePath path = .ok path ↔ strip path = path := by
  obtain ⟨hback, hne, hcases⟩ := evidencePath_cases hok
  have hreplace : replaceChar '\\' '/' path = path := replaceChar_of_not_mem hback
  constructor
  · intro hagain
    by_contra hstrip
    rcases hcases with ⟨hkept, -⟩ | ⟨hslash, -, -, text, hroot, hstored⟩
    · exact hstrip hkept
    · unfold evidencePath at hagain
      split at hagain
      · simp at hagain
      · next hblank =>
          have hlength := length_strip_lt hstrip
          have hsome : strip path ≠ "" := by
            rw [ne_eq, strip_eq_empty_iff]
            exact hblank
          simp only [hreplace] at hagain
          split at hagain
          · obtain ⟨hpath, hslash', -⟩ := normalizeRepositoryRelativePath_eq_ok.mp hagain
            have hclean : '\\' ∉ (strip path).toList := fun h => hback (mem_of_mem_strip h)
            rw [replaceChar_of_not_mem hclean, strip_strip] at hpath
            have hroot' : startsWith (removePrefix "./" (strip path)) "/" = false := by
              by_contra h
              rw [Bool.not_eq_false] at h
              have hstart := startsWith_slash_purePosixPath h
              rw [← hpath, hslash'] at hstart
              exact absurd hstart (by decide)
            have hle := length_purePosixPath_le hroot'
            have hremoved := length_removePrefix_le "./" (strip path)
            have hpositive : 0 < (strip path).toList.length := by
              rw [List.length_pos_iff, ne_eq, String.toList_eq_nil_iff]
              exact hsome
            rw [← hpath] at hle
            omega
          · rw [pure_eq_ok] at hagain
            exact hstrip hagain
  · intro hstrip
    have hblank := isBlank_eq_false hstrip hne
    unfold evidencePath
    simp only [hblank, Bool.false_eq_true, if_false, hreplace, hstrip]
    rcases hcases with ⟨-, hkept⟩ | ⟨hslash, hup, hbelow, text, hroot, hstored⟩
    · rw [if_neg]
      · rfl
      · revert hkept
        cases containsText path "://" <;> simp
    · split
      · rw [normalizeRepositoryRelativePath_eq_ok, hreplace, hstrip]
        refine ⟨?_, hslash, hup, hbelow⟩
        rw [hstored, removePrefix_purePosixPath hroot, purePosixPath_idem hroot]
      · rfl

example : evidencePath "./ pyproject.toml" = .ok " pyproject.toml" := by decide

end SuitCode
