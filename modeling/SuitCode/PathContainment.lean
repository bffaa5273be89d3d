import SuitCode.EvidencePaths
import SuitCode.Library.PathOrder

/-!
# Canonical repository paths

A repository path is stored in its normal form.  The normal form is stored again unchanged
unless white space surrounds it, which the removal of `./` can bring to light.  Only `..` at
the start of a path is refused, so a path may climb above the root further down.
-/

namespace SuitCode

open PosixText ExceptList

def depthBelow : ℕ → List String → Option ℕ
  | depth, [] => some depth
  | depth, part :: parts =>
      if part = ".." then
        match depth with
        | 0 => none
        | depth + 1 => depthBelow depth parts
      else
        depthBelow (depth + 1) parts

/-- Walked component by component, the path never climbs above the root. -/
def StaysBelow (path : String) : Prop := (depthBelow 0 (segments path)).isSome

/-- The path is its own normal form and stays below the root. -/
structure IsCanonical (path : String) : Prop where
  fixed : normalizeRepositoryRelativePath path = .ok path
  below : StaysBelow path

def pathComponents (path : String) : List String :=
  segments (strip (replaceChar '\\' '/' path))

/-- The components begin and end without white space and never climb above the root. -/
structure Normalizable (path : String) : Prop where
  front : ∀ part ∈ (pathComponents path).head?, ∀ c ∈ part.toList.head?, isSpace c = false
  back : ∀ part ∈ (pathComponents path).getLast?, ∀ c ∈ part.toList.getLast?,
    isSpace c = false
  below : (depthBelow 0 (pathComponents path)).isSome

/-! ## The ends of joined components -/

theorem head?_toList_join {part : String} (parts : List String) (hpart : part ≠ "") :
    (join "/" (part :: parts)).toList.head? = part.toList.head? := by
  have hchars : part.toList ≠ [] := by
    rwa [ne_eq, String.toList_eq_nil_iff]
  cases parts with
  | nil => rfl
  | cons next parts =>
      simp only [join, String.toList_append, List.append_assoc]
      exact List.head?_append_of_ne_nil _ hchars

theorem getLast?_toList_join {parts : List String} {part : String} (hpart : part ≠ "") :
    (join "/" (parts ++ [part])).toList.getLast? = part.toList.getLast? := by
  have hchars : part.toList ≠ [] := by
    rwa [ne_eq, String.toList_eq_nil_iff]
  cases parts with
  | nil => rfl
  | cons first parts =>
      rw [join_slash_append (by simp) (by simp)]
      simp only [join, String.toList_append]
      exact List.getLast?_append_of_ne_nil _ hchars

theorem strip_join_eq_self_iff {parts : List String} (hparts : ∀ part ∈ parts, part ≠ "") :
    strip (join "/" parts) = join "/" parts ↔
      (∀ part ∈ parts.head?, ∀ c ∈ part.toList.head?, isSpace c = false) ∧
        ∀ part ∈ parts.getLast?, ∀ c ∈ part.toList.getLast?, isSpace c = false := by
  rw [strip_eq_self_iff]
  apply and_congr
  · cases parts with
    | nil => simp [join]
    | cons part parts =>
        rw [head?_toList_join parts (hparts part List.mem_cons_self)]
        simp
  · cases parts using List.reverseRecOn with
    | nil => simp [join]
    | append_singleton parts part =>
        rw [getLast?_toList_join (hparts part (by simp))]
        simp

/-! ## The components of a normal form -/

theorem segments_removePrefix_dot (text : String) :
    segments (removePrefix "./" text) = segments text := by
  unfold removePrefix
  cases hstart : startsWith text "./" with
  | false => simp
  | true =>
      obtain ⟨rest, rfl⟩ := startsWith_iff_exists_append.mp hstart
      have hrest : String.ofList (("./" ++ rest).toList.drop "./".toList.length) = rest := by
        apply String.toList_injective
        simp
      have hpieces : pieces ("./" ++ rest) = "." :: pieces rest := by
        have hsplit := pieces_append_slash "." rest
        rw [show pieces "." = ["."] by decide] at hsplit
        exact hsplit
      simp only [if_true, hrest]
      rw [segments, segments, hpieces]
      rfl

theorem segments_purePosixPath {text : String} (hroot : startsWith text "/" = false) :
    segments (purePosixPath text) = segments text := by
  rw [purePosixPath_of_relative hroot]
  by_cases hnil : segments text = []
  · rw [if_pos hnil, hnil]
    decide
  · rw [if_neg hnil, segments_join_segments hnil]

variable {path stored : String}

theorem relative_of_normalized (hok : normalizeRepositoryRelativePath path = .ok stored) :
    ∃ text, startsWith text "/" = false ∧ stored = purePosixPath text ∧
      segments text = pathComponents path ∧ '\\' ∉ text.toList := by
  obtain ⟨hstored, hslash, -, -⟩ := normalizeRepositoryRelativePath_eq_ok.mp hok
  refine ⟨removePrefix "./" (strip (replaceChar '\\' '/' path)), ?_, hstored, ?_, ?_⟩
  · by_contra h
    rw [Bool.not_eq_false] at h
    have hstart := startsWith_slash_purePosixPath h
    rw [← hstored, hslash] at hstart
    cases hstart
  · exact segments_removePrefix_dot _
  · intro hmem
    exact backslash_not_mem_replaceChar path (mem_of_mem_strip (mem_of_mem_removePrefix hmem))

theorem segments_of_normalized (hok : normalizeRepositoryRelativePath path = .ok stored) :
    segments stored = pathComponents path := by
  obtain ⟨text, hroot, hstored, hsegments, -⟩ := relative_of_normalized hok
  rw [hstored, segments_purePosixPath hroot, hsegments]

theorem backslash_not_mem_normalized (hok : normalizeRepositoryRelativePath path = .ok stored) :
    '\\' ∉ stored.toList := by
  obtain ⟨text, hroot, hstored, -, hback⟩ := relative_of_normalized hok
  intro hmem
  rw [hstored] at hmem
  rcases mem_toList_purePosixPath hroot hmem with htext | hslash | hdot
  · exact hback htext
  · exact absurd hslash (by decide)
  · exact absurd hdot (by decide)

theorem normalize_stored_iff (hok : normalizeRepositoryRelativePath path = .ok stored) :
    normalizeRepositoryRelativePath stored = .ok stored ↔ strip stored = stored := by
  have hreplace : replaceChar '\\' '/' stored = stored :=
    replaceChar_of_not_mem (backslash_not_mem_normalized hok)
  obtain ⟨text, hroot, hstored, -, -⟩ := relative_of_normalized hok
  obtain ⟨-, hslash, hup, hbelow⟩ := normalizeRepositoryRelativePath_eq_ok.mp hok
  rw [normalizeRepositoryRelativePath_eq_ok, hreplace]
  constructor
  · intro hagain
    by_contra hstrip
    have hshorter := length_strip_lt hstrip
    by_cases hempty : strip stored = ""
    · rw [hempty] at hagain
      have hdot : stored = "." := hagain.1.trans (by decide)
      rw [hdot] at hempty
      exact absurd hempty (by decide)
    · have hroot' : startsWith (removePrefix "./" (strip stored)) "/" = false := by
        by_contra h
        rw [Bool.not_eq_false] at h
        have hstart := startsWith_slash_purePosixPath h
        rw [← hagain.1, hslash] at hstart
        cases hstart
      have hlength := length_purePosixPath_le hroot'
      rw [← hagain.1] at hlength
      have hremoved := length_removePrefix_le "./" (strip stored)
      have hsome : 0 < (strip stored).toList.length := by
        rw [List.length_pos_iff, ne_eq, String.toList_eq_nil_iff]
        exact hempty
      omega
  · intro hstrip
    refine ⟨?_, hslash, hup, hbelow⟩
    rw [hstrip, hstored, removePrefix_purePosixPath hroot, purePosixPath_idem hroot]

/-- An accepted path is stored canonically exactly where its components begin and end
without white space and never climb above the root. -/
theorem isCanonical_iff {path stored : String}
    (hok : normalizeRepositoryRelativePath path = .ok stored) :
    IsCanonical stored ↔ Normalizable path := by
  have hsegments := segments_of_normalized hok
  have hfixed : normalizeRepositoryRelativePath stored = .ok stored ↔
      (∀ part ∈ (pathComponents path).head?, ∀ c ∈ part.toList.head?, isSpace c = false) ∧
        ∀ part ∈ (pathComponents path).getLast?, ∀ c ∈ part.toList.getLast?,
          isSpace c = false := by
    rw [normalize_stored_iff hok]
    obtain ⟨text, hroot, hstored, htext, -⟩ := relative_of_normalized hok
    rw [purePosixPath_of_relative hroot, htext] at hstored
    by_cases hnil : pathComponents path = []
    · rw [if_pos hnil] at hstored
      rw [hstored, hnil]
      decide
    · rw [if_neg hnil] at hstored
      rw [hstored]
      apply strip_join_eq_self_iff
      intro part hpart
      exact (mem_segments_iff.mp hpart).2.1
  constructor
  · intro hcanonical
    have hends := hfixed.mp hcanonical.fixed
    constructor
    case front => exact hends.1
    case back => exact hends.2
    case below =>
      rw [← hsegments]
      exact hcanonical.below
  · intro hnormalizable
    constructor
    case fixed => exact hfixed.mpr ⟨hnormalizable.front, hnormalizable.back⟩
    case below =>
      unfold StaysBelow
      rw [hsegments]
      exact hnormalizable.below

/-- The characterization at a path with `.` and `..` in it. -/
theorem isCanonical_iff_source : IsCanonical "src/../lib" ↔ Normalizable "./src/./../lib" :=
  isCanonical_iff (by decide : normalizeRepositoryRelativePath "./src/./../lib" =
    .ok "src/../lib")

/-- A path may climb above the root behind its first component. -/
theorem isCanonical_not_always :
    ¬ ∀ path stored, normalizeRepositoryRelativePath path = .ok stored → IsCanonical stored := by
  intro halways
  have hcanonical := halways "a/../../b" "a/../../b" (by decide)
  have hbelow : (depthBelow 0 (segments "a/../../b")).isSome := hcanonical.below
  exact absurd hbelow (by decide)

end SuitCode
