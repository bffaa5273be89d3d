import SuitCode.Library.PosixText
import Mathlib.Algebra.GroupWithZero.Nat
import Mathlib.Data.List.DropRight

/-!
# Normal forms of texts and relative paths

Stripping is idempotent and shortens every text it changes.  The normal form
of a relative path is a fixed point of `purePosixPath`, never begins with
`./`, and is no longer than the path, except for the empty path.
-/

namespace PosixText

/-! ## Stripping -/

theorem toList_strip (text : String) :
    (strip text).toList = (text.toList.dropWhile isSpace).rdropWhile isSpace := by
  simp [strip, List.rdropWhile]

theorem dropWhile_rdropWhile (p : Char → Bool) (chars : List Char) :
    ((chars.dropWhile p).rdropWhile p).dropWhile p = (chars.dropWhile p).rdropWhile p := by
  have hstart : (chars.dropWhile p).dropWhile p = chars.dropWhile p :=
    List.dropWhile_idempotent p chars
  have hfront := List.rdropWhile_prefix p (chars.dropWhile p)
  revert hstart hfront
  generalize chars.dropWhile p = middle
  generalize middle.rdropWhile p = trimmed
  intro hstart hfront
  cases trimmed with
  | nil => rfl
  | cons c trimmed =>
      obtain ⟨rest, heq⟩ := hfront
      rw [← heq, List.cons_append] at hstart
      by_cases hc : p c = true
      · have hlength := congrArg List.length hstart
        have hle := (List.dropWhile_suffix p (l := trimmed ++ rest)).length_le
        rw [List.dropWhile_cons_of_pos hc] at hlength
        simp only [List.length_cons] at hlength
        omega
      · rw [List.dropWhile_cons_of_neg hc]

theorem strip_strip (text : String) : strip (strip text) = strip text := by
  apply String.toList_injective
  rw [toList_strip, toList_strip, dropWhile_rdropWhile, List.rdropWhile_idempotent]

theorem length_strip_le (text : String) : (strip text).toList.length ≤ text.toList.length := by
  rw [toList_strip]
  exact (List.rdropWhile_prefix _ _).length_le.trans (List.dropWhile_suffix _).length_le

variable {text : String} {chars : List Char} {c : Char} {parts : List String}

theorem length_strip_lt (hne : strip text ≠ text) :
    (strip text).toList.length < text.toList.length := by
  apply lt_of_le_of_ne (length_strip_le text)
  intro hlength
  apply hne
  apply String.toList_injective
  rw [toList_strip] at hlength ⊢
  have hback := (List.rdropWhile_prefix isSpace (text.toList.dropWhile isSpace)).length_le
  have hfront := (List.dropWhile_suffix isSpace (l := text.toList)).length_le
  rw [(List.rdropWhile_prefix isSpace (text.toList.dropWhile isSpace)).eq_of_length (by omega)]
  exact (List.dropWhile_suffix isSpace).eq_of_length (by omega)

theorem dropWhile_isSpace_eq_self_iff :
    chars.dropWhile isSpace = chars ↔ ∀ c ∈ chars.head?, isSpace c = false := by
  cases chars with
  | nil => simp
  | cons c chars => simp [List.dropWhile_eq_self_iff]

theorem rdropWhile_isSpace_eq_self_iff :
    chars.rdropWhile isSpace = chars ↔ ∀ c ∈ chars.getLast?, isSpace c = false := by
  rw [List.rdropWhile_eq_self_iff]
  cases chars with
  | nil => simp
  | cons c chars => simp [List.getLast?_eq_getLast_of_ne_nil]

theorem strip_eq_self_iff :
    strip text = text ↔
      (∀ c ∈ text.toList.head?, isSpace c = false) ∧
        ∀ c ∈ text.toList.getLast?, isSpace c = false := by
  have hlists : strip text = text ↔
      (text.toList.dropWhile isSpace).rdropWhile isSpace = text.toList := by
    rw [← toList_strip]
    exact String.toList_inj.symm
  rw [hlists, ← dropWhile_isSpace_eq_self_iff, ← rdropWhile_isSpace_eq_self_iff]
  constructor
  · intro hstrip
    have hfront : text.toList.dropWhile isSpace = text.toList := by
      apply (List.dropWhile_suffix isSpace).eq_of_length_le
      calc
        text.toList.length =
            ((text.toList.dropWhile isSpace).rdropWhile isSpace).length := by rw [hstrip]
        _ ≤ (text.toList.dropWhile isSpace).length :=
          (List.rdropWhile_prefix isSpace _).length_le
    rw [hfront] at hstrip
    exact ⟨hfront, hstrip⟩
  · intro hends
    rw [hends.1, hends.2]

theorem strip_eq_self (hspace : ∀ c ∈ text.toList, isSpace c = false) :
    strip text = text := by
  rw [strip_eq_self_iff]
  constructor
  · intro c hc
    exact hspace c (List.mem_of_mem_head? hc)
  · intro c hc
    exact hspace c (List.mem_of_mem_getLast? hc)

theorem isSpace_of_isDigit (hdigit : c.isDigit = true) : isSpace c = false := by
  have hcode : 48 ≤ c.toNat ∧ c.toNat ≤ 57 := by
    simp only [Char.isDigit, Bool.and_eq_true, decide_eq_true_eq, UInt32.le_iff_toNat_le] at hdigit
    exact hdigit
  unfold isSpace
  simp only [Bool.or_eq_false_iff, Bool.and_eq_false_iff, decide_eq_false_iff_not,
    beq_eq_false_iff_ne]
  omega

theorem strip_eq_empty_iff : strip text = "" ↔ isBlank text = true := by
  have hempty : strip text = "" ↔ (strip text).toList = [] := by
    rw [String.toList_eq_nil_iff]
  rw [hempty, toList_strip, isBlank, List.all_eq_true, List.rdropWhile_eq_nil_iff]
  constructor
  · intro hall c hc
    by_contra hspace
    have hmem : c ∈ text.toList.dropWhile isSpace := by
      have hsplit := List.takeWhile_append_dropWhile (p := isSpace) (l := text.toList)
      rw [← hsplit, List.mem_append] at hc
      rcases hc with hfront | hback
      · exact absurd (List.mem_takeWhile_imp hfront) hspace
      · exact hback
    exact hspace (hall c hmem)
  · intro hall c hc
    exact hall c ((List.dropWhile_sublist isSpace).subset hc)

theorem isBlank_strip (text : String) : isBlank (strip text) = isBlank text := by
  rw [Bool.eq_iff_iff, ← strip_eq_empty_iff, ← strip_eq_empty_iff, strip_strip]

theorem isBlank_append (left right : String) :
    isBlank (left ++ right) = (isBlank left && isBlank right) := by
  simp [isBlank, List.all_append]

theorem toList_strip_append {left right : String} (hleft : isBlank left = false)
    (hright : isBlank right = false) :
    (strip (left ++ right)).toList =
      left.toList.dropWhile isSpace ++ right.toList.rdropWhile isSpace := by
  have hstart : left.toList.dropWhile isSpace ≠ [] := by
    rw [Ne, List.dropWhile_eq_nil_iff]
    simpa [isBlank] using hleft
  have hend : right.toList.reverse.dropWhile isSpace ≠ [] := by
    rw [Ne, List.dropWhile_eq_nil_iff]
    simpa [isBlank] using hright
  rw [toList_strip, String.toList_append, List.dropWhile_append,
    if_neg (by simpa using hstart)]
  simp only [List.rdropWhile, List.reverse_append]
  rw [List.dropWhile_append, if_neg (by simpa using hend), List.reverse_append,
    List.reverse_reverse]

/-! ## Pieces -/

theorem not_mem_of_mem_splitOn {piece : List Char} (hpiece : piece ∈ chars.splitOn c) :
    c ∉ piece := by
  induction chars generalizing piece with
  | nil => simp_all
  | cons head chars ih =>
      rw [List.splitOn_cons_eq_if_modifyHead] at hpiece
      by_cases heq : head = c
      · simp only [heq, beq_self_eq_true, if_true, List.mem_cons] at hpiece
        rcases hpiece with rfl | hpiece
        · simp
        · exact ih hpiece
      · have hne : (head == c) = false := by simpa using heq
        simp only [hne, Bool.false_eq_true, if_false] at hpiece
        cases hsplit : chars.splitOn c with
        | nil => exact absurd hsplit (List.splitOn_ne_nil c chars)
        | cons first rest =>
            rw [hsplit, List.modifyHead_cons, List.mem_cons] at hpiece
            rcases hpiece with rfl | hpiece
            · have hfirst : c ∉ first := ih (by rw [hsplit]; exact List.mem_cons_self)
              have hne' : c ≠ head := fun h => heq h.symm
              simp [hfirst, hne']
            · exact ih (by rw [hsplit]; exact List.mem_cons_of_mem _ hpiece)

theorem toList_join_slash (parts : List String) :
    (join "/" parts).toList = ['/'].intercalate (parts.map String.toList) := by
  induction parts with
  | nil => rfl
  | cons part parts ih =>
      cases parts with
      | nil => simp [join]
      | cons next parts =>
          rw [List.map_cons] at ih
          simp [join, ih]

theorem pieces_ne_nil (text : String) : pieces text ≠ [] := by
  simp [pieces]

theorem join_pieces (text : String) : join "/" (pieces text) = text := by
  apply String.toList_injective
  have hmap : (pieces text).map String.toList = text.toList.splitOn '/' := by
    simp [pieces]
  rw [toList_join_slash, hmap, List.intercalate_splitOn]

theorem slash_not_mem_of_mem_pieces {piece : String} (hpiece : piece ∈ pieces text) :
    '/' ∉ piece.toList := by
  obtain ⟨chars, hchars, rfl⟩ := List.mem_map.mp hpiece
  simpa using not_mem_of_mem_splitOn hchars

theorem pieces_join (hne : parts ≠ []) (hslash : ∀ part ∈ parts, '/' ∉ part.toList) :
    pieces (join "/" parts) = parts := by
  have hsplit : (['/'].intercalate (parts.map String.toList)).splitOn '/' =
      parts.map String.toList :=
    List.splitOn_intercalate '/' (by simpa using hslash) (by simpa using hne)
  rw [pieces, toList_join_slash, hsplit]
  simp

/-! ## Relative paths -/

theorem mem_segments_iff {part : String} :
    part ∈ segments text ↔ part ∈ pieces text ∧ part ≠ "" ∧ part ≠ "." := by
  simp [segments]

theorem segments_join_segments (hne : segments text ≠ []) :
    segments (join "/" (segments text)) = segments text := by
  have hslash : ∀ part ∈ segments text, '/' ∉ part.toList := fun part hpart =>
    slash_not_mem_of_mem_pieces (mem_segments_iff.mp hpart).1
  rw [segments, pieces_join hne hslash, List.filter_eq_self]
  intro part hpart
  have hparts := mem_segments_iff.mp hpart
  simp [hparts.2]

theorem rootOf_eq_empty_iff : rootOf text = "" ↔ startsWith text "/" = false := by
  have hdouble : startsWith text "//" = true → startsWith text "/" = true :=
    startsWith_trans (by decide)
  unfold rootOf
  by_cases hroot : startsWith text "/" = true
  · by_cases htwo : (startsWith text "//" && !startsWith text "///") = true
    · simp [hroot, htwo]
    · simp [hroot, htwo]
  · rw [Bool.not_eq_true] at hroot
    have htwo : startsWith text "//" = false := by
      by_contra h
      rw [Bool.not_eq_false] at h
      rw [hdouble h] at hroot
      exact absurd hroot (by decide)
    simp [hroot, htwo]

/-- A relative path is its segments, joined. -/
theorem purePosixPath_of_relative (hroot : startsWith text "/" = false) :
    purePosixPath text = if segments text = [] then "." else join "/" (segments text) := by
  have hempty := rootOf_eq_empty_iff.mpr hroot
  by_cases hnil : segments text = []
  · simp [purePosixPath, hempty, hnil]
  · simp [purePosixPath, hempty, hnil]

theorem startsWith_join_slash (hparts : ∀ part ∈ parts, part ≠ "" ∧ '/' ∉ part.toList) :
    startsWith (join "/" parts) "/" = false := by
  cases parts with
  | nil => decide
  | cons part parts =>
      have hpart := hparts part List.mem_cons_self
      rw [startsWith, toList_join_slash]
      cases hchars : part.toList with
      | nil => exact absurd (String.toList_eq_nil_iff.mp hchars) hpart.1
      | cons c chars =>
          have hc : c ≠ '/' := by
            rintro rfl
            apply hpart.2
            rw [hchars]
            exact List.mem_cons_self
          cases parts <;> simp [hchars, List.isPrefixOf, hc.symm]

theorem startsWith_purePosixPath (hroot : startsWith text "/" = false) :
    startsWith (purePosixPath text) "/" = false := by
  rw [purePosixPath_of_relative hroot]
  split
  · decide
  · apply startsWith_join_slash
    intro part hpart
    have hparts := mem_segments_iff.mp hpart
    exact ⟨hparts.2.1, slash_not_mem_of_mem_pieces hparts.1⟩

theorem purePosixPath_idem (hroot : startsWith text "/" = false) :
    purePosixPath (purePosixPath text) = purePosixPath text := by
  rw [purePosixPath_of_relative (startsWith_purePosixPath hroot), purePosixPath_of_relative hroot]
  by_cases hnil : segments text = []
  · simp only [if_pos hnil]
    decide
  · simp only [if_neg hnil, segments_join_segments hnil]

theorem removePrefix_purePosixPath (hroot : startsWith text "/" = false) :
    removePrefix "./" (purePosixPath text) = purePosixPath text := by
  have hstart : startsWith (purePosixPath text) "./" = false := by
    rw [purePosixPath_of_relative hroot]
    by_cases hnil : segments text = []
    · rw [if_pos hnil]
      decide
    · rw [if_neg hnil]
      by_contra hdot
      rw [Bool.not_eq_false] at hdot
      have hslash : ∀ part ∈ segments text, '/' ∉ part.toList := fun part hpart =>
        slash_not_mem_of_mem_pieces (mem_segments_iff.mp hpart).1
      have hpieces := pieces_join hnil hslash
      obtain ⟨rest, hrest⟩ : "./".toList <+: (join "/" (segments text)).toList := by
        simpa [startsWith] using hdot
      have hfirst : pieces (join "/" (segments text)) =
          "." :: (rest.splitOn '/').map String.ofList := by
        rw [pieces, ← hrest]
        have hsplit := List.splitOn_append_cons_self_of_not_mem
          (show '/' ∉ ['.'] by decide) rest
        change ((['.'] ++ '/' :: rest).splitOn '/').map String.ofList = _
        rw [hsplit]
        rfl
      rw [hpieces] at hfirst
      have hmem : "." ∈ segments text := by
        rw [hfirst]
        exact List.mem_cons_self
      exact (mem_segments_iff.mp hmem).2.2 rfl
  rw [removePrefix, hstart]
  rfl

theorem purePosixPath_ne_empty (hroot : startsWith text "/" = false) :
    purePosixPath text ≠ "" := by
  rw [purePosixPath_of_relative hroot]
  by_cases hnil : segments text = []
  · rw [if_pos hnil]
    decide
  · rw [if_neg hnil]
    intro hempty
    have hfixed := segments_join_segments hnil
    rw [hempty] at hfixed
    exact hnil (hfixed.symm.trans (by decide))

/-! ## Lengths and characters -/

theorem length_join_slash (hne : parts ≠ []) :
    (join "/" parts).toList.length + 1 =
      (parts.map fun part => part.toList.length + 1).sum := by
  induction parts with
  | nil => exact absurd rfl hne
  | cons part parts ih =>
      cases parts with
      | nil => simp [join]
      | cons next parts =>
          have hrest := ih (by simp)
          simp only [join, String.toList_append, List.length_append, List.map_cons,
            List.sum_cons] at hrest ⊢
          simp at hrest ⊢
          omega

theorem sum_filter_le (keep : String → Bool) (parts : List String) :
    ((parts.filter keep).map fun part => part.toList.length + 1).sum ≤
      (parts.map fun part => part.toList.length + 1).sum := by
  induction parts with
  | nil => simp
  | cons part parts ih =>
      by_cases hkeep : keep part = true
      · simp only [List.filter_cons_of_pos hkeep, List.map_cons, List.sum_cons]
        omega
      · simp only [List.filter_cons_of_neg hkeep, List.map_cons, List.sum_cons]
        omega

theorem length_purePosixPath_le (hroot : startsWith text "/" = false) :
    (purePosixPath text).toList.length ≤ max 1 text.toList.length := by
  rw [purePosixPath_of_relative hroot]
  by_cases hnil : segments text = []
  · simp [hnil]
  · have hkept := length_join_slash hnil
    have hall := length_join_slash (pieces_ne_nil text)
    have hle := sum_filter_le (fun piece => piece ≠ "" && piece ≠ ".") (pieces text)
    rw [join_pieces] at hall
    rw [← segments] at hle
    rw [if_neg hnil]
    omega

theorem mem_toList_join (hc : c ∈ (join "/" parts).toList) :
    c = '/' ∨ ∃ part ∈ parts, c ∈ part.toList := by
  induction parts with
  | nil => simp [join] at hc
  | cons part parts ih =>
      cases parts with
      | nil => exact .inr ⟨part, by simp, by simpa [join] using hc⟩
      | cons next parts =>
          simp only [join, String.toList_append, List.mem_append] at hc
          rcases hc with (hc | hc) | hc
          · exact .inr ⟨part, by simp, hc⟩
          · left
            simpa using hc
          · rcases ih hc with hslash | ⟨other, hother, hmem⟩
            · exact .inl hslash
            · exact .inr ⟨other, List.mem_cons_of_mem _ hother, hmem⟩

theorem mem_of_mem_splitOn {separator : Char} {piece : List Char}
    (hpiece : piece ∈ chars.splitOn separator) (hc : c ∈ piece) : c ∈ chars := by
  induction chars generalizing piece with
  | nil => simp_all
  | cons head chars ih =>
      rw [List.splitOn_cons_eq_if_modifyHead] at hpiece
      by_cases heq : (head == separator) = true
      · simp only [heq, if_true, List.mem_cons] at hpiece
        rcases hpiece with rfl | hpiece
        · simp at hc
        · exact List.mem_cons_of_mem _ (ih hpiece hc)
      · rw [if_neg heq] at hpiece
        cases hsplit : chars.splitOn separator with
        | nil => exact absurd hsplit (List.splitOn_ne_nil separator chars)
        | cons first rest =>
            rw [hsplit, List.modifyHead_cons, List.mem_cons] at hpiece
            rcases hpiece with rfl | hpiece
            · rw [List.mem_cons] at hc
              rcases hc with rfl | hc
              · exact List.mem_cons_self
              · exact List.mem_cons_of_mem _ (ih (by rw [hsplit]; exact List.mem_cons_self) hc)
            · exact List.mem_cons_of_mem _
                (ih (by rw [hsplit]; exact List.mem_cons_of_mem _ hpiece) hc)

theorem mem_toList_purePosixPath (hroot : startsWith text "/" = false)
    (hc : c ∈ (purePosixPath text).toList) :
    c ∈ text.toList ∨ c = '/' ∨ c = '.' := by
  rw [purePosixPath_of_relative hroot] at hc
  by_cases hnil : segments text = []
  · rw [if_pos hnil] at hc
    right
    right
    simpa using hc
  · rw [if_neg hnil] at hc
    rcases mem_toList_join hc with hslash | ⟨part, hpart, hmem⟩
    · exact .inr (.inl hslash)
    · left
      obtain ⟨chars, hchars, rfl⟩ := List.mem_map.mp (mem_segments_iff.mp hpart).1
      exact mem_of_mem_splitOn hchars (by simpa using hmem)

end PosixText
