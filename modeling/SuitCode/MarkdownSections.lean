import SuitCode.RunLogs
import SuitCode.Library.Outlines

/-!
# Sections of a markdown document

A section runs from its heading to the line before the next heading which is not deeper.
-/

namespace SuitCode

open ExceptList Outlines PosixText

structure Heading where
  text : String
  depth : ℕ
  lineStart : ℕ
  deriving DecidableEq, Repr

structure MarkdownSection where
  heading : String
  depth : ℕ
  lineStart : ℕ
  lineEnd : ℕ
  anchor : String
  deriving DecidableEq, Repr

def MarkdownSection.create (created : MarkdownSection) : PyResult MarkdownSection :=
  validated
    [(isBlank created.heading, "text fields must not be empty"),
      (isBlank created.anchor, "text fields must not be empty")]
    { created with heading := strip created.heading, anchor := strip created.anchor }

def isAnchorChar (c : Char) : Bool := c.isLower || c.isDigit

/-- One dash for each run of the characters `[^a-z0-9]`; `inside` tells that the character
before is of such a run. -/
def dashRuns (inside : Bool) : List Char → List Char
  | [] => []
  | c :: chars =>
      if isAnchorChar c then c :: dashRuns false chars
      else if inside then dashRuns true chars
      else '-' :: dashRuns true chars

def anchorForHeading (heading : String) (lineStart : ℕ) : String :=
  let anchor := ((dashRuns false (lowered heading).toList).dropWhile (· = '-')).rdropWhile (· = '-')
  if anchor = [] then "section-" ++ toString lineStart else String.ofList anchor

def sectionEnd (depth totalLineCount : ℕ) : List Heading → ℕ
  | [] => totalLineCount
  | next :: rest =>
      if next.depth ≤ depth then next.lineStart - 1 else sectionEnd depth totalLineCount rest

def buildSections (totalLineCount : ℕ) : List Heading → PyResult (List MarkdownSection)
  | [] => pure []
  | heading :: rest => do
      let built ← MarkdownSection.create
        { heading := heading.text
          depth := heading.depth
          lineStart := heading.lineStart
          lineEnd := max heading.lineStart (sectionEnd heading.depth totalLineCount rest)
          anchor := anchorForHeading heading.text heading.lineStart }
      let others ← buildSections totalLineCount rest
      pure (built :: others)

/-! ## Anchors -/

theorem isAnchorChar_of_mem_dashRuns {chars : List Char} {inside : Bool} {c : Char}
    (hc : c ∈ dashRuns inside chars) : isAnchorChar c = true ∨ c = '-' := by
  induction chars generalizing inside with
  | nil => simp [dashRuns] at hc
  | cons first chars ih =>
      unfold dashRuns at hc
      by_cases hfirst : isAnchorChar first = true
      · rw [if_pos hfirst, List.mem_cons] at hc
        cases hc with
        | inl heq =>
            left
            rw [heq]
            exact hfirst
        | inr hrest => exact ih hrest
      · rw [if_neg hfirst] at hc
        cases inside with
        | true => exact ih (by simpa using hc)
        | false =>
            rw [if_neg (by simp), List.mem_cons] at hc
            cases hc with
            | inl heq => exact Or.inr heq
            | inr hrest => exact ih hrest

theorem isSpace_of_isAnchorChar {c : Char} (hc : isAnchorChar c = true) : isSpace c = false := by
  apply isSpace_of_isSafeChar
  unfold isAnchorChar at hc
  rw [Bool.or_eq_true] at hc
  unfold isSafeChar Char.isAlphanum Char.isAlpha
  cases hc with
  | inl hlower => simp [hlower]
  | inr hdigit => simp [hdigit]

theorem anchorForHeading_not_blank (heading : String) (lineStart : ℕ) :
    isBlank (anchorForHeading heading lineStart) = false := by
  unfold anchorForHeading
  simp only
  split
  case isTrue =>
    rw [isBlank_append]
    have hsection : isBlank "section-" = false := by decide
    rw [hsection, Bool.false_and]
  case isFalse hne =>
    obtain ⟨c, rest, hcons⟩ := List.exists_cons_of_ne_nil hne
    have hmem : c ∈ dashRuns false (lowered heading).toList := by
      have hin : c ∈ ((dashRuns false (lowered heading).toList).dropWhile
          (· = '-')).rdropWhile (· = '-') := by
        rw [hcons]
        exact List.mem_cons_self
      exact (List.dropWhile_sublist _).subset ((List.rdropWhile_prefix _ _).subset hin)
    have hspace : isSpace c = false := by
      cases isAnchorChar_of_mem_dashRuns hmem with
      | inl hanchor => exact isSpace_of_isAnchorChar hanchor
      | inr hdash =>
          rw [hdash]
          decide
    rw [hcons, isBlank, String.toList_ofList]
    simp [hspace]

/-! ## One section -/

theorem sectionEnd_eq_lastLine (heading : Heading) (totalLineCount : ℕ) (rest : List Heading) :
    sectionEnd heading.depth totalLineCount rest =
      lastLine Heading.depth Heading.lineStart totalLineCount heading rest := by
  unfold lastLine
  induction rest with
  | nil => rfl
  | cons next rest ih =>
      unfold sectionEnd
      by_cases hdepth : next.depth ≤ heading.depth
      · rw [if_pos hdepth, List.find?_cons_of_pos (by simpa using hdepth)]
      · rw [if_neg hdepth, List.find?_cons_of_neg (by simpa using hdepth)]
        exact ih

def sectionOf (totalLineCount : ℕ) (heading : Heading) (rest : List Heading) : MarkdownSection :=
  { heading := strip heading.text
    depth := heading.depth
    lineStart := heading.lineStart
    lineEnd := max heading.lineStart (sectionEnd heading.depth totalLineCount rest)
    anchor := strip (anchorForHeading heading.text heading.lineStart) }

theorem create_eq_ok_iff {totalLineCount : ℕ} {heading : Heading} {rest : List Heading}
    {built : MarkdownSection} :
    MarkdownSection.create
        { heading := heading.text
          depth := heading.depth
          lineStart := heading.lineStart
          lineEnd := max heading.lineStart (sectionEnd heading.depth totalLineCount rest)
          anchor := anchorForHeading heading.text heading.lineStart } = .ok built ↔
      isBlank heading.text = false ∧ sectionOf totalLineCount heading rest = built := by
  unfold MarkdownSection.create
  rw [validated_eq_ok]
  simp only [List.forall_mem_cons, List.not_mem_nil, false_imp_iff, implies_true, and_true,
    anchorForHeading_not_blank]
  exact and_comm

theorem buildSections_eq_ok_iff {totalLineCount : ℕ} {headings : List Heading}
    {sections : List MarkdownSection} :
    buildSections totalLineCount headings = .ok sections ↔
      (∀ heading ∈ headings, isBlank heading.text = false) ∧
        sections.length = headings.length ∧
        ∀ (i : ℕ) (heading : Heading), headings[i]? = some heading →
          sections[i]? = some (sectionOf totalLineCount heading (headings.drop (i + 1))) := by
  induction headings generalizing sections with
  | nil =>
      simp only [buildSections, pure_eq_ok, List.not_mem_nil, false_imp_iff, implies_true, true_and,
        List.length_nil, List.length_eq_zero_iff, List.getElem?_nil, reduceCtorEq, and_true]
      exact eq_comm
  | cons heading rest ih =>
      simp only [buildSections, bind_eq_ok, create_eq_ok_iff, pure_eq_ok, List.forall_mem_cons]
      constructor
      · rintro ⟨built, ⟨htext, rfl⟩, others, hothers, rfl⟩
        obtain ⟨htexts, hlength, hplaces⟩ := ih.mp hothers
        refine ⟨⟨htext, htexts⟩, by simp [hlength], ?_⟩
        intro i other hother
        cases i with
        | zero =>
            rw [List.getElem?_cons_zero] at hother ⊢
            rw [← Option.some.inj hother]
            rfl
        | succ i =>
            rw [List.getElem?_cons_succ] at hother ⊢
            exact hplaces i other hother
      · rintro ⟨⟨htext, htexts⟩, hlength, hplaces⟩
        cases sections with
        | nil => simp at hlength
        | cons first others =>
            have hfirst := hplaces 0 heading rfl
            rw [List.getElem?_cons_zero, Option.some.injEq] at hfirst
            refine ⟨first, ⟨htext, hfirst.symm⟩, others, ih.mpr ⟨htexts, ?_, ?_⟩, rfl⟩
            · simpa using hlength
            · intro i other hother
              have hplace := hplaces (i + 1) other (by rw [List.getElem?_cons_succ]; exact hother)
              rw [List.getElem?_cons_succ] at hplace
              exact hplace

theorem exists_buildSections {totalLineCount : ℕ} {headings : List Heading}
    (htexts : ∀ heading ∈ headings, isBlank heading.text = false) :
    ∃ sections, buildSections totalLineCount headings = .ok sections := by
  induction headings with
  | nil => exact ⟨[], rfl⟩
  | cons heading rest ih =>
      rw [List.forall_mem_cons] at htexts
      obtain ⟨others, hothers⟩ := ih htexts.2
      use sectionOf totalLineCount heading rest :: others
      simp only [buildSections, bind_eq_ok, create_eq_ok_iff, pure_eq_ok]
      exact ⟨_, ⟨htexts.1, rfl⟩, others, hothers, rfl⟩

/-! ## Nesting -/

def MarkdownSection.Within (inner outer : MarkdownSection) : Prop :=
  outer.lineStart ≤ inner.lineStart ∧ inner.lineEnd ≤ outer.lineEnd

def MarkdownSection.Before (earlier later : MarkdownSection) : Prop :=
  earlier.lineEnd < later.lineStart

/-- The sections of headings are nested as their depths tell. -/
structure NestedAsHeadings (totalLineCount : ℕ) (headings : List Heading)
    (sections : List MarkdownSection) : Prop where
  length_eq : sections.length = headings.length
  starts : ∀ (i : ℕ) (heading : Heading) (outer : MarkdownSection), headings[i]? = some heading →
    sections[i]? = some outer → outer.depth = heading.depth ∧
      outer.lineStart = heading.lineStart ∧ outer.lineStart ≤ outer.lineEnd
  laminar : ∀ (i j : ℕ) (outer inner : MarkdownSection), i < j → sections[i]? = some outer →
    sections[j]? = some inner → inner.Within outer ∨ outer.Before inner
  within_iff : ∀ (i j : ℕ) (outer inner : MarkdownSection), i < j → sections[i]? = some outer →
    sections[j]? = some inner →
      (inner.Within outer ↔ ∀ (k : ℕ) (heading : Heading), i < k → k ≤ j →
        headings[k]? = some heading → outer.depth < heading.depth)
  ends : ∀ (i : ℕ) (outer : MarkdownSection), sections[i]? = some outer →
    (∃ (k : ℕ) (next : Heading), i < k ∧ headings[k]? = some next ∧ next.depth ≤ outer.depth ∧
        (∀ (between : ℕ) (heading : Heading), i < between → between < k →
          headings[between]? = some heading → outer.depth < heading.depth) ∧
        outer.lineEnd + 1 = next.lineStart) ∨
      ((∀ (k : ℕ) (heading : Heading), i < k → headings[k]? = some heading →
          outer.depth < heading.depth) ∧ outer.lineEnd = totalLineCount)

theorem exists_place_of_find? {headings : List Heading} {i : ℕ} {wanted : Heading → Bool}
    {next : Heading} (hfind : (headings.drop (i + 1)).find? wanted = some next) :
    ∃ k, i < k ∧ headings[k]? = some next ∧ wanted next = true ∧
      ∀ (between : ℕ) (heading : Heading), i < between → between < k →
        headings[between]? = some heading → wanted heading = false := by
  obtain ⟨hwanted, place, hplace, hnext, hbefore⟩ := List.find?_eq_some_iff_getElem.mp hfind
  rw [List.getElem_drop] at hnext
  rw [List.length_drop] at hplace
  refine ⟨i + 1 + place, by omega, ?_, hwanted, ?_⟩
  · rw [List.getElem?_eq_some_iff]
    exact ⟨by omega, hnext⟩
  · intro between heading hafter hbetween hheading
    have hearlier := hbefore (between - (i + 1)) (by omega)
    rw [List.getElem_drop] at hearlier
    have hplace : i + 1 + (between - (i + 1)) = between := by omega
    obtain ⟨hlength, heq⟩ := List.getElem?_eq_some_iff.mp hheading
    simp only [hplace, heq] at hearlier
    simpa using hearlier

section Built

variable {totalLineCount : ℕ} {headings : List Heading} {sections : List MarkdownSection}

theorem exists_heading_of_section
    (hascending : Ascending Heading.lineStart totalLineCount headings)
    (hbuilt : buildSections totalLineCount headings = .ok sections) {i : ℕ}
    {built : MarkdownSection} (hplace : sections[i]? = some built) :
    ∃ heading, headings[i]? = some heading ∧ built.depth = heading.depth ∧
      built.lineStart = heading.lineStart ∧
      built.lineEnd = lastLine Heading.depth Heading.lineStart totalLineCount heading
        (headings.drop (i + 1)) ∧ built.lineStart ≤ built.lineEnd := by
  obtain ⟨-, hlength, hplaces⟩ := buildSections_eq_ok_iff.mp hbuilt
  have hi : i < headings.length := by
    rw [← hlength]
    exact (List.getElem?_eq_some_iff.mp hplace).1
  have hheading : headings[i]? = some headings[i] := List.getElem?_eq_getElem hi
  have hsection := hplaces i _ hheading
  rw [hplace, Option.some.injEq] at hsection
  have hsuffix : Ascending Heading.lineStart totalLineCount
      (headings[i] :: headings.drop (i + 1)) := by
    rw [← List.drop_eq_getElem_cons]
    exact hascending.drop i
  have hline : headings[i].lineStart ≤ lastLine Heading.depth Heading.lineStart
      totalLineCount headings[i] (headings.drop (i + 1)) :=
    le_lastLine hsuffix
  refine ⟨_, hheading, ?_, ?_, ?_, ?_⟩
  · rw [hsection, sectionOf]
  · rw [hsection, sectionOf]
  · rw [hsection, sectionOf, sectionEnd_eq_lastLine]
    exact Nat.max_eq_right hline
  · rw [hsection, sectionOf]
    exact Nat.le_max_left _ _

theorem nestedAsHeadings_of_built
    (hascending : Ascending Heading.lineStart totalLineCount headings)
    (hbuilt : buildSections totalLineCount headings = .ok sections) :
    NestedAsHeadings totalLineCount headings sections := by
  constructor
  case length_eq => exact (buildSections_eq_ok_iff.mp hbuilt).2.1
  case starts =>
    intro i heading outer hheading houter
    obtain ⟨found, hfound, hdepth, hstart, -, hle⟩ :=
      exists_heading_of_section hascending hbuilt houter
    rw [hheading, Option.some.injEq] at hfound
    rw [hfound]
    exact ⟨hdepth, hstart, hle⟩
  case laminar =>
    intro i j outer inner hij houter hinner
    obtain ⟨first, hfirst, -, hfirstStart, hfirstEnd, -⟩ :=
      exists_heading_of_section hascending hbuilt houter
    obtain ⟨second, hsecond, -, hsecondStart, hsecondEnd, -⟩ :=
      exists_heading_of_section hascending hbuilt hinner
    have hstarts : first.lineStart < second.lineStart := by
      obtain ⟨hi, hget⟩ := List.getElem?_eq_some_iff.mp hfirst
      obtain ⟨hj, hother⟩ := List.getElem?_eq_some_iff.mp hsecond
      rw [← hget, ← hother]
      exact List.pairwise_iff_getElem.mp hascending.sorted i j hi hj hij
    by_cases hnested : inner.lineEnd ≤ outer.lineEnd
    · left
      refine ⟨?_, hnested⟩
      omega
    · right
      rw [hfirstEnd, hsecondEnd] at hnested
      have hapart := lastLine_lt_of_not_nested hascending hij hfirst hsecond hnested
      rw [MarkdownSection.Before, hfirstEnd, hsecondStart]
      exact hapart
  case within_iff =>
    intro i j outer inner hij houter hinner
    obtain ⟨first, hfirst, hdepth, hfirstStart, hfirstEnd, -⟩ :=
      exists_heading_of_section hascending hbuilt houter
    obtain ⟨second, hsecond, -, hsecondStart, hsecondEnd, -⟩ :=
      exists_heading_of_section hascending hbuilt hinner
    have hstarts : first.lineStart < second.lineStart := by
      obtain ⟨hi, hget⟩ := List.getElem?_eq_some_iff.mp hfirst
      obtain ⟨hj, hother⟩ := List.getElem?_eq_some_iff.mp hsecond
      rw [← hget, ← hother]
      exact List.pairwise_iff_getElem.mp hascending.sorted i j hi hj hij
    have hiff : lastLine Heading.depth Heading.lineStart totalLineCount second
          (headings.drop (j + 1)) ≤
        lastLine Heading.depth Heading.lineStart totalLineCount first (headings.drop (i + 1)) ↔
      ∀ k next, i < k → k ≤ j → headings[k]? = some next → first.depth < next.depth :=
      nested_iff hascending hij hfirst hsecond
    rw [MarkdownSection.Within, hfirstEnd, hsecondEnd, hiff, hdepth]
    constructor
    · exact And.right
    · intro hdeeper
      refine ⟨?_, hdeeper⟩
      omega
  case ends =>
    intro i outer houter
    obtain ⟨heading, hheading, hdepth, hstart, hend, -⟩ :=
      exists_heading_of_section hascending hbuilt houter
    rw [hdepth, hend]
    unfold lastLine
    cases hfind : (headings.drop (i + 1)).find? fun next => next.depth ≤ heading.depth with
    | none =>
        right
        refine ⟨?_, rfl⟩
        intro k next hik hnext
        have hmem : next ∈ headings.drop (i + 1) := by
          rw [List.mem_iff_getElem?]
          use k - (i + 1)
          have hplace : i + 1 + (k - (i + 1)) = k := by omega
          rw [List.getElem?_drop, hplace]
          exact hnext
        have hnot := List.find?_eq_none.mp hfind next hmem
        simpa using hnot
    | some next =>
        left
        obtain ⟨k, hik, hnext, hwanted, hbetween⟩ := exists_place_of_find? hfind
        have hstarts : heading.lineStart < next.lineStart := by
          obtain ⟨hi, hget⟩ := List.getElem?_eq_some_iff.mp hheading
          obtain ⟨hk, hother⟩ := List.getElem?_eq_some_iff.mp hnext
          rw [← hget, ← hother]
          exact List.pairwise_iff_getElem.mp hascending.sorted i k hi hk hik
        refine ⟨k, next, hik, hnext, of_decide_eq_true hwanted, ?_, ?_⟩
        · intro between other hafter hbefore hother
          have hnot := hbetween between other hafter hbefore hother
          simpa using hnot
        · simp only
          omega

end Built

/-- For headings on ascending lines the sections which are built are nested as the depths
tell, and they are built exactly where every heading has a text. -/
theorem buildSections_nested {totalLineCount : ℕ} {headings : List Heading}
    (hlines : headings.Pairwise fun earlier later => earlier.lineStart < later.lineStart)
    (htotal : ∀ heading ∈ headings, heading.lineStart ≤ totalLineCount) :
    (∀ sections, buildSections totalLineCount headings = .ok sections →
        NestedAsHeadings totalLineCount headings sections) ∧
      ((∃ sections, buildSections totalLineCount headings = .ok sections) ↔
        ∀ heading ∈ headings, isBlank heading.text = false) := by
  constructor
  · intro sections hbuilt
    exact nestedAsHeadings_of_built ⟨hlines, htotal⟩ hbuilt
  · constructor
    · rintro ⟨sections, hbuilt⟩
      exact (buildSections_eq_ok_iff.mp hbuilt).1
    · exact exists_buildSections

def skippingHeadings : List Heading := [⟨"Guide", 1, 1⟩, ⟨"Notes", 3, 4⟩, ⟨"Use", 2, 6⟩]

theorem skippingHeadings_nested :
    (∀ sections, buildSections 9 skippingHeadings = .ok sections →
        NestedAsHeadings 9 skippingHeadings sections) ∧
      ((∃ sections, buildSections 9 skippingHeadings = .ok sections) ↔
        ∀ heading ∈ skippingHeadings, isBlank heading.text = false) :=
  buildSections_nested (by decide) (by decide)

end SuitCode
