import SuitCode.FailureSnippets
import SuitCode.RunLogs
import SuitCode.TestActions

/-!
# Where failure snippets point

A test names its files as seen from the directory in which it ran.  The snippets point
there where the lines named from the root of the repository, as far as they are examined,
are among those named from the directory of the run.
-/

namespace SuitCode

open DecimalText ExceptList FileTree KeyedList PosixText

/-! ## Named lines -/

namespace RepositoryFiles

variable (files : RepositoryFiles) (root : List String)

def namedLine (directory : List String) (occurrence : Occurrence) : Option NamedLine :=
  match files.repositoryPath root directory occurrence.path with
  | .ok (some path) => some (path, occurrence.line)
  | _ => none

def hasLines (path : String) : Bool :=
  match files.fileLines root path with
  | .ok (some (_ :: _)) => true
  | _ => false

/-- The lines of text which the occurrences name, each of them once. -/
def namedLines (directory : List String) (found : List Occurrence) : List NamedLine :=
  dedupeBy id ((found.filterMap (files.namedLine root directory)).filter fun key =>
    files.hasLines root key.1)

/-- The file can be read, and where it has lines results may carry its path. -/
structure Readable (path : String) : Prop where
  read : ∃ content, files.fileLines root path = .ok content
  evidence : files.hasLines root path = true →
    ∃ stored, validateEvidencePaths [] [path] = .ok stored
  normalized : files.hasLines root path = true →
    ∃ normalized, normalizeRepositoryRelativePath path = .ok normalized

structure Examinable (occurrence : Occurrence) : Prop where
  denotes : ∃ path, files.repositoryPath root root occurrence.path = .ok path
  readable : ∀ key, files.namedLine root root occurrence = some key → files.Readable root key.1

/-- The occurrences behind the first ones are examinable until there are enough lines. -/
def Examined (limit : ℕ) (front rest : List Occurrence) : Prop :=
  ∀ middle occurrence back, rest = middle ++ occurrence :: back →
    (files.namedLines root root (front ++ middle)).length < limit →
      files.Examinable root occurrence

end RepositoryFiles

/-! ## Snippets which point back -/

structure RowPoints (extractor : FailureSnippetExtractor) (files : RepositoryFiles)
    (root directory : List String) (found : List Occurrence) (row : SnippetRow) : Prop where
  named : ∃ occurrence ∈ found, files.namedLine root directory occurrence = some row.key
  path : row.snippet.repositoryRelPath = row.key.1
  lines : ∃ lines, files.fileLines root row.key.1 = .ok (some lines) ∧
    1 ≤ row.snippet.lineStart ∧ row.snippet.lineEnd ≤ lines.length ∧
    row.snippet.lineStart ≤ min row.key.2 lines.length ∧
    min row.key.2 lines.length ≤ row.snippet.lineEnd ∧
    row.snippet.lineEnd + 1 - row.snippet.lineStart ≤ 2 * extractor.contextLines + 1 ∧
    row.snippet.snippet =
      FailureSnippetExtractor.snippetText row.snippet.lineStart row.snippet.lineEnd lines

structure RowsPoint (extractor : FailureSnippetExtractor) (files : RepositoryFiles)
    (root directory : List String) (found : List Occurrence) (rows : List SnippetRow) :
    Prop where
  capped : rows.length ≤ extractor.maxSnippets
  point : ∀ row ∈ rows, RowPoints extractor files root directory found row
  distinct : (rows.map SnippetRow.key).Nodup
  covered : ∀ occurrence ∈ found, ∀ key, files.namedLine root directory occurrence = some key →
    files.hasLines root key.1 = true →
      key ∈ rows.map SnippetRow.key ∨ rows.length = extractor.maxSnippets

/-- The lines named from the root, as many as are taken, are named from the directory, and
no others are. -/
structure NamedAlike (extractor : FailureSnippetExtractor) (files : RepositoryFiles)
    (root directory : List String) (found : List Occurrence) : Prop where
  examined : files.Examined root extractor.maxSnippets [] found
  plain : ∀ key ∈ (files.namedLines root root found).take extractor.maxSnippets,
    normalizeRepositoryRelativePath key.1 = .ok key.1
  named : ∀ key ∈ (files.namedLines root root found).take extractor.maxSnippets,
    key ∈ files.namedLines root directory found
  others : files.namedLines root directory found ⊆ files.namedLines root root found ∨
    extractor.maxSnippets ≤ (files.namedLines root root found).length

/-! ## One file -/

namespace RepositoryFiles

variable {files : RepositoryFiles} {root directory : List String}

theorem namedLine_eq_some_iff {occurrence : Occurrence} {key : NamedLine} :
    files.namedLine root directory occurrence = some key ↔
      files.repositoryPath root directory occurrence.path = .ok (some key.1) ∧
        occurrence.line = key.2 := by
  unfold namedLine
  cases files.repositoryPath root directory occurrence.path with
  | error error => simp
  | ok path =>
      cases path with
      | none => simp
      | some path => simp [Prod.ext_iff]

theorem mem_namedLines {found : List Occurrence} {key : NamedLine} :
    key ∈ files.namedLines root directory found ↔
      (∃ occurrence ∈ found, files.namedLine root directory occurrence = some key) ∧
        files.hasLines root key.1 = true := by
  unfold namedLines
  rw [mem_dedupeBy_id, List.mem_filter, List.mem_filterMap]

theorem nodup_namedLines (found : List Occurrence) :
    (files.namedLines root directory found).Nodup := by
  have hnodup := nodup_map_dedupeBy id
    ((found.filterMap (files.namedLine root directory)).filter fun key =>
      files.hasLines root key.1)
  rwa [List.map_id] at hnodup

theorem namedLines_concat_of_none {front : List Occurrence} {occurrence : Occurrence}
    (hnone : ∀ key, files.namedLine root directory occurrence = some key →
      files.hasLines root key.1 = false ∨ key ∈ files.namedLines root directory front) :
    files.namedLines root directory (front ++ [occurrence]) =
      files.namedLines root directory front := by
  unfold namedLines
  rw [List.filterMap_append, List.filter_append]
  cases hnamed : files.namedLine root directory occurrence with
  | none => simp [hnamed]
  | some key =>
      cases hnone key hnamed with
      | inl hempty => simp [hnamed, hempty]
      | inr hmem =>
          by_cases hlines : files.hasLines root key.1 = true
          · have hitem : ([occurrence].filterMap (files.namedLine root directory)).filter
                (fun key => files.hasLines root key.1) = [key] := by
              simp [hnamed, hlines]
            rw [hitem, dedupeBy_concat, if_pos]
            rw [List.map_id, ← mem_dedupeBy_id]
            exact hmem
          · simp [hnamed, hlines]

theorem namedLines_concat_of_some {front : List Occurrence} {occurrence : Occurrence}
    {key : NamedLine} (hnamed : files.namedLine root directory occurrence = some key)
    (hlines : files.hasLines root key.1 = true)
    (hnew : key ∉ files.namedLines root directory front) :
    files.namedLines root directory (front ++ [occurrence]) =
      files.namedLines root directory front ++ [key] := by
  unfold namedLines at hnew ⊢
  rw [List.filterMap_append, List.filter_append]
  have hitem : ([occurrence].filterMap (files.namedLine root directory)).filter
      (fun key => files.hasLines root key.1) = [key] := by
    simp [hnamed, hlines]
  rw [hitem, dedupeBy_concat, if_neg]
  rw [List.map_id, ← mem_dedupeBy_id]
  exact hnew

theorem namedLines_front (files : RepositoryFiles) (root directory : List String)
    (front back : List Occurrence) :
    ∃ more, files.namedLines root directory front ++ more =
      files.namedLines root directory (front ++ back) := by
  unfold namedLines
  rw [List.filterMap_append, List.filter_append]
  exact dedupeBy_prefix id _ _

end RepositoryFiles

/-! ## One snippet -/

theorem isBlank_of_join {separator part : String} {parts : List String}
    (hblank : isBlank (join separator (part :: parts)) = true) : isBlank part = true := by
  cases parts with
  | nil => exact hblank
  | cons next rest =>
      rw [join, isBlank_append, isBlank_append, Bool.and_eq_true, Bool.and_eq_true] at hblank
      exact hblank.1.1

namespace FailureSnippetExtractor

variable {extractor : FailureSnippetExtractor} {sourceTool : Option String} {path : String}
  {line : ℕ} {lines : List String}

theorem snippetText_not_blank {first last : ℕ} (hle : first ≤ last) :
    isBlank (snippetText first last lines) = false := by
  have hrange : List.range' first (last + 1 - first) =
      first :: List.range' (first + 1) (last - first) := by
    have hlength : last + 1 - first = last - first + 1 := by omega
    rw [hlength, List.range'_succ]
  unfold snippetText
  rw [hrange, List.map_cons]
  apply Bool.eq_false_iff.mpr
  intro hblank
  have hfirst := isBlank_of_join hblank
  rw [isBlank_append, isBlank_append, Bool.and_eq_true, Bool.and_eq_true] at hfirst
  have hcolon : isBlank ": " = false := by decide
  rw [hcolon] at hfirst
  exact absurd hfirst.1.2 (by simp)

theorem range_of_lines (extractor : FailureSnippetExtractor) (line : ℕ) (hlines : lines ≠ []) :
    1 ≤ extractor.lineStart line lines ∧ extractor.lineEnd line lines ≤ lines.length ∧
      extractor.lineStart line lines ≤ clampedLine line lines ∧
      clampedLine line lines ≤ extractor.lineEnd line lines ∧
      extractor.lineEnd line lines + 1 - extractor.lineStart line lines ≤
        2 * extractor.contextLines + 1 := by
  have hlength : 0 < lines.length := List.length_pos_iff.mpr hlines
  unfold lineStart lineEnd clampedLine
  omega

theorem snippetOf_eq_ok_iff (htool : sourceTool.any isBlank = false) (hlines : lines ≠ [])
    {snippet : TestFailureSnippet} :
    extractor.snippetOf sourceTool path line lines = .ok snippet ↔
      ∃ stored normalized, validateEvidencePaths [] [path] = .ok stored ∧
        normalizeRepositoryRelativePath path = .ok normalized ∧
          snippet =
            { repositoryRelPath := normalized
              lineStart := extractor.lineStart line lines
              lineEnd := extractor.lineEnd line lines
              snippet := snippetText (extractor.lineStart line lines)
                (extractor.lineEnd line lines) lines
              provenance := [⟨.derived, .testTool, sourceTool,
                strip "derived from test output file/line references", stored⟩] } := by
  obtain ⟨hstart, -, hfirst, hlast, -⟩ := range_of_lines extractor line hlines
  have hle : extractor.lineStart line lines ≤ extractor.lineEnd line lines :=
    hfirst.trans hlast
  have hsummary : isBlank "derived from test output file/line references" = false := by decide
  unfold snippetOf derivedSummaryProvenance TestFailureSnippet.create
  simp only [bind_eq_ok, ProvenanceEntry.create_eq_ok]
  constructor
  · rintro ⟨entry, ⟨-, -, stored, hstored, rfl⟩, normalized, hnormalized, hvalid⟩
    exact ⟨stored, normalized, hstored, hnormalized, eq_of_validated hvalid⟩
  · rintro ⟨stored, normalized, hstored, hnormalized, rfl⟩
    refine ⟨_, ⟨htool, hsummary, stored, hstored, rfl⟩, normalized, hnormalized, ?_⟩
    rw [validated_eq_ok]
    refine ⟨rfl, ?_⟩
    have hlow : ¬ extractor.lineStart line lines < 1 := by omega
    have hhigh : ¬ extractor.lineEnd line lines < extractor.lineStart line lines := by omega
    simp [snippetChecks, hlow, hhigh, snippetText_not_blank hle]

end FailureSnippetExtractor

/-! ## The loop over the occurrences -/

section Loop

variable (extractor : FailureSnippetExtractor) (files : RepositoryFiles) (root : List String)
  (sourceTool : Option String)

def IsBuilt (row : SnippetRow) : Prop :=
  ∃ lines, files.fileLines root row.key.1 = .ok (some lines) ∧ lines ≠ [] ∧
    extractor.snippetOf sourceTool row.key.1 row.key.2 lines = .ok row.snippet

/-- What the loop may come to for the occurrences behind the first ones. -/
def IsOutcome (front rest : List Occurrence) : SnippetResult (List SnippetRow) → Prop
  | .ok rows =>
      files.Examined root extractor.maxSnippets front rest ∧
        rows.map SnippetRow.key =
          (files.namedLines root root (front ++ rest)).take extractor.maxSnippets ∧
        ∀ row ∈ rows, IsBuilt extractor files root sourceTool row
  | .error _ => ¬ files.Examined root extractor.maxSnippets front rest

variable {extractor files root sourceTool}

theorem examined_cons {limit : ℕ} {front rest : List Occurrence} {occurrence : Occurrence}
    (hfew : (files.namedLines root root front).length < limit) :
    files.Examined root limit front (occurrence :: rest) ↔
      files.Examinable root occurrence ∧
        files.Examined root limit (front ++ [occurrence]) rest := by
  unfold RepositoryFiles.Examined
  constructor
  · intro hall
    constructor
    · exact hall [] occurrence rest rfl (by rw [List.append_nil]; exact hfew)
    · intro middle other back hrest hlength
      apply hall (occurrence :: middle) other back
      · rw [hrest, List.cons_append]
      · rwa [List.append_assoc] at hlength
  · rintro ⟨hfirst, hothers⟩ middle other back hsplit hlength
    cases middle with
    | nil =>
        cases hsplit
        exact hfirst
    | cons head middle =>
        cases hsplit
        apply hothers middle other back rfl
        rwa [List.append_assoc]

theorem IsOutcome.cons {front rest : List Occurrence} {occurrence : Occurrence}
    {outcome : SnippetResult (List SnippetRow)}
    (hfew : (files.namedLines root root front).length < extractor.maxSnippets)
    (hfirst : files.Examinable root occurrence)
    (houtcome : IsOutcome extractor files root sourceTool (front ++ [occurrence]) rest outcome) :
    IsOutcome extractor files root sourceTool front (occurrence :: rest) outcome := by
  cases outcome with
  | error error =>
      intro hall
      exact houtcome ((examined_cons hfew).mp hall).2
  | ok rows =>
      obtain ⟨hexamined, hkeys, hbuilt⟩ := houtcome
      rw [List.append_assoc] at hkeys
      exact ⟨(examined_cons hfew).mpr ⟨hfirst, hexamined⟩, hkeys, hbuilt⟩

theorem IsOutcome.raised {front rest : List Occurrence} {occurrence : Occurrence}
    {error : SnippetError}
    (hfew : (files.namedLines root root front).length < extractor.maxSnippets)
    (hfirst : ¬ files.Examinable root occurrence) :
    IsOutcome extractor files root sourceTool front (occurrence :: rest) (.error error) := by
  intro hall
  exact hfirst ((examined_cons hfew).mp hall).1

theorem IsOutcome.stopped {front rest : List Occurrence} {occurrence : Occurrence}
    {rows : List SnippetRow}
    (hfew : (files.namedLines root root front).length < extractor.maxSnippets)
    (hfirst : files.Examinable root occurrence)
    (hkeys : rows.map SnippetRow.key = files.namedLines root root (front ++ [occurrence]))
    (hcap : rows.length = extractor.maxSnippets)
    (hbuilt : ∀ row ∈ rows, IsBuilt extractor files root sourceTool row) :
    IsOutcome extractor files root sourceTool front (occurrence :: rest) (.ok rows) := by
  have hlength : (files.namedLines root root (front ++ [occurrence])).length =
      extractor.maxSnippets := by
    rw [← hkeys, List.length_map, hcap]
  apply IsOutcome.cons hfew hfirst
  refine ⟨?_, ?_, hbuilt⟩
  · intro middle other back _ hless
    obtain ⟨more, hmore⟩ := files.namedLines_front root root (front ++ [occurrence]) middle
    rw [← hmore, List.length_append] at hless
    omega
  · obtain ⟨more, hmore⟩ := files.namedLines_front root root (front ++ [occurrence]) rest
    rw [hkeys, ← hmore, ← hlength, List.take_left']
    rfl

theorem buildSnippet_cases (htool : sourceTool.any isBlank = false) (path : String) (line : ℕ) :
    (¬ files.Readable root path ∧
        ∃ error, extractor.buildSnippet files root sourceTool path line = .error error) ∨
      (files.Readable root path ∧ files.hasLines root path = false ∧
        extractor.buildSnippet files root sourceTool path line = .ok none) ∨
      (files.Readable root path ∧ files.hasLines root path = true ∧
        ∃ snippet, extractor.buildSnippet files root sourceTool path line = .ok (some snippet) ∧
          IsBuilt extractor files root sourceTool ⟨(path, line), snippet⟩) := by
  unfold FailureSnippetExtractor.buildSnippet
  cases hread : files.fileLines root path with
  | error error =>
      left
      constructor
      · intro hreadable
        obtain ⟨content, hcontent⟩ := hreadable.read
        rw [hread] at hcontent
        cases hcontent
      · use error
        rfl
  | ok content =>
      have hnone : files.hasLines root path = false → files.Readable root path := by
        intro hempty
        constructor
        · exact ⟨content, hread⟩
        · intro hlines
          rw [hempty] at hlines
          cases hlines
        · intro hlines
          rw [hempty] at hlines
          cases hlines
      match content with
      | none =>
          have hempty : files.hasLines root path = false := by simp [RepositoryFiles.hasLines, hread]
          exact Or.inr (Or.inl ⟨hnone hempty, hempty, rfl⟩)
      | some [] =>
          have hempty : files.hasLines root path = false := by simp [RepositoryFiles.hasLines, hread]
          exact Or.inr (Or.inl ⟨hnone hempty, hempty, rfl⟩)
      | some (first :: others) =>
          have hlines : files.hasLines root path = true := by simp [RepositoryFiles.hasLines, hread]
          have hne : first :: others ≠ [] := List.cons_ne_nil first others
          cases hsnippet :
              extractor.snippetOf sourceTool path line (first :: others) with
          | error error =>
              left
              constructor
              · intro hreadable
                obtain ⟨stored, hstored⟩ := hreadable.evidence hlines
                obtain ⟨normalized, hnormalized⟩ := hreadable.normalized hlines
                have hok : extractor.snippetOf sourceTool path line (first :: others) = .ok _ :=
                  (FailureSnippetExtractor.snippetOf_eq_ok_iff htool hne).mpr
                    ⟨stored, normalized, hstored, hnormalized, rfl⟩
                rw [hsnippet] at hok
                cases hok
              · use .python error
                simp only [ok_bind, hsnippet, orSnippetError, error_bind]
          | ok snippet =>
              right
              right
              obtain ⟨stored, normalized, hstored, hnormalized, -⟩ :=
                (FailureSnippetExtractor.snippetOf_eq_ok_iff htool hne).mp hsnippet
              refine ⟨⟨⟨_, hread⟩, fun _ => ⟨stored, hstored⟩, fun _ => ⟨normalized, hnormalized⟩⟩,
                hlines, snippet, ?_, ⟨first :: others, hread, hne, hsnippet⟩⟩
              simp only [ok_bind, hsnippet, orSnippetError, pure_eq_ok]

variable (extractor files root sourceTool) in
structure LoopState (front : List Occurrence) (seen : List NamedLine) (rows : List SnippetRow) :
    Prop where
  keys : rows.map SnippetRow.key = files.namedLines root root front
  built : ∀ row ∈ rows, IsBuilt extractor files root sourceTool row
  few : rows.length < extractor.maxSnippets
  mem_seen : ∀ key, key ∈ seen ↔
    ∃ occurrence ∈ front, files.namedLine root root occurrence = some key
  readable : ∀ key ∈ seen, files.Readable root key.1

section State

variable {front : List Occurrence} {occurrence : Occurrence} {seen : List NamedLine}
  {rows : List SnippetRow} {key : NamedLine}

theorem LoopState.named_few
    (hstate : LoopState extractor files root sourceTool front seen rows) :
    (files.namedLines root root front).length < extractor.maxSnippets := by
  rw [← hstate.keys, List.length_map]
  exact hstate.few

theorem exists_mem_concat_iff :
    (∃ other ∈ front ++ [occurrence], files.namedLine root root other = some key) ↔
      (∃ other ∈ front, files.namedLine root root other = some key) ∨
        files.namedLine root root occurrence = some key := by
  simp only [List.mem_append, List.mem_singleton, or_and_right, exists_or, exists_eq_left]

theorem LoopState.skip (hstate : LoopState extractor files root sourceTool front seen rows)
    (hold : ∀ key, files.namedLine root root occurrence = some key → key ∈ seen) :
    LoopState extractor files root sourceTool (front ++ [occurrence]) seen rows := by
  refine ⟨?_, hstate.built, hstate.few, ?_, hstate.readable⟩
  · rw [hstate.keys, RepositoryFiles.namedLines_concat_of_none]
    intro key hkey
    by_cases hlines : files.hasLines root key.1 = true
    · right
      have hnamed := (hstate.mem_seen key).mp (hold key hkey)
      exact RepositoryFiles.mem_namedLines.mpr ⟨hnamed, hlines⟩
    · left
      exact Bool.eq_false_iff.mpr hlines
  · intro key
    rw [exists_mem_concat_iff, ← hstate.mem_seen]
    constructor
    · exact Or.inl
    · intro hmem
      cases hmem with
      | inl hseen => exact hseen
      | inr hkey => exact hold key hkey

theorem LoopState.see (hstate : LoopState extractor files root sourceTool front seen rows)
    (hnamed : files.namedLine root root occurrence = some key)
    (hfile : files.Readable root key.1) :
    (∀ other, other ∈ seen ++ [key] ↔
      ∃ named ∈ front ++ [occurrence], files.namedLine root root named = some other) ∧
    ∀ other ∈ seen ++ [key], files.Readable root other.1 := by
  constructor
  · intro other
    rw [exists_mem_concat_iff, ← hstate.mem_seen, List.mem_append, List.mem_singleton, hnamed,
      Option.some.injEq, eq_comm (a := key)]
  · intro other hmem
    rw [List.mem_append, List.mem_singleton] at hmem
    cases hmem with
    | inl hseen => exact hstate.readable other hseen
    | inr heq =>
        rw [heq]
        exact hfile

theorem LoopState.keys_append (hstate : LoopState extractor files root sourceTool front seen rows)
    (hnamed : files.namedLine root root occurrence = some key)
    (hlines : files.hasLines root key.1 = true) (hnew : key ∉ seen)
    (snippet : TestFailureSnippet) :
    (rows ++ [(⟨key, snippet⟩ : SnippetRow)]).map SnippetRow.key =
      files.namedLines root root (front ++ [occurrence]) := by
  have hnot : key ∉ files.namedLines root root front := by
    intro hmem
    exact hnew ((hstate.mem_seen key).mpr (RepositoryFiles.mem_namedLines.mp hmem).1)
  rw [List.map_append, hstate.keys, RepositoryFiles.namedLines_concat_of_some hnamed hlines hnot]
  rfl

theorem LoopState.built_append (hstate : LoopState extractor files root sourceTool front seen rows)
    {last : SnippetRow} (hlast : IsBuilt extractor files root sourceTool last) :
    ∀ row ∈ rows ++ [last], IsBuilt extractor files root sourceTool row := by
  intro row hmem
  rw [List.mem_append, List.mem_singleton] at hmem
  cases hmem with
  | inl hrow => exact hstate.built row hrow
  | inr heq =>
      rw [heq]
      exact hlast

end State

theorem isOutcome_extractRows (htool : sourceTool.any isBlank = false)
    {front rest : List Occurrence} {seen : List NamedLine} {rows : List SnippetRow}
    (hstate : LoopState extractor files root sourceTool front seen rows) :
    IsOutcome extractor files root sourceTool front rest
      (extractor.extractRows files root sourceTool seen rows rest) := by
  induction rest generalizing front seen rows with
  | nil =>
      refine ⟨?_, ?_, hstate.built⟩
      · intro middle occurrence back hsplit
        simp at hsplit
      · rw [List.append_nil, ← hstate.keys, List.take_of_length_le]
        rw [List.length_map]
        exact hstate.few.le
  | cons occurrence rest ih =>
      have hfew := hstate.named_few
      unfold FailureSnippetExtractor.extractRows
      cases hpath : files.repositoryPath root root occurrence.path with
      | error error =>
          apply IsOutcome.raised hfew
          intro hexaminable
          obtain ⟨path, hok⟩ := hexaminable.denotes
          rw [hpath] at hok
          cases hok
      | ok path =>
          rw [ok_bind]
          cases path with
          | none =>
              have hnone : files.namedLine root root occurrence = none := by
                simp [RepositoryFiles.namedLine, hpath]
              apply IsOutcome.cons hfew ⟨⟨none, hpath⟩, by simp [hnone]⟩
              apply ih
              apply hstate.skip
              simp [hnone]
          | some path =>
              have hnamed :
                  files.namedLine root root occurrence = some (path, occurrence.line) := by
                simp [RepositoryFiles.namedLine, hpath]
              have hexaminable : files.Readable root path → files.Examinable root occurrence := by
                intro hfile
                refine ⟨⟨_, hpath⟩, ?_⟩
                intro key hkey
                rw [hnamed] at hkey
                cases hkey
                exact hfile
              by_cases hold : (path, occurrence.line) ∈ seen
              · simp only [if_pos hold]
                apply IsOutcome.cons hfew (hexaminable (hstate.readable _ hold))
                apply ih
                apply hstate.skip
                intro key hkey
                rw [hnamed] at hkey
                cases hkey
                exact hold
              · simp only [if_neg hold]
                rcases @buildSnippet_cases extractor files root _ htool path occurrence.line with
                  ⟨hfile, error, hbuild⟩ | ⟨hfile, hempty, hbuild⟩ |
                    ⟨hfile, hlines, snippet, hbuild, hrow⟩
                · rw [hbuild, error_bind]
                  apply IsOutcome.raised hfew
                  intro hall
                  exact hfile (hall.readable _ hnamed)
                · rw [hbuild, ok_bind]
                  simp only [if_neg (Nat.not_le.mpr hstate.few)]
                  apply IsOutcome.cons hfew (hexaminable hfile)
                  apply ih
                  obtain ⟨hseen, hreadable⟩ := hstate.see hnamed hfile
                  refine ⟨?_, hstate.built, hstate.few, hseen, hreadable⟩
                  rw [hstate.keys, RepositoryFiles.namedLines_concat_of_none]
                  intro key hkey
                  rw [hnamed] at hkey
                  cases hkey
                  exact Or.inl hempty
                · rw [hbuild, ok_bind]
                  have hkeys := hstate.keys_append hnamed hlines hold snippet
                  have hbuilt := hstate.built_append hrow
                  by_cases hcap : extractor.maxSnippets ≤
                      (rows ++ [(⟨(path, occurrence.line), snippet⟩ : SnippetRow)]).length
                  · simp only [if_pos hcap]
                    apply IsOutcome.stopped hfew (hexaminable hfile) hkeys _ hbuilt
                    rw [List.length_append, List.length_singleton] at hcap ⊢
                    have hless := hstate.few
                    omega
                  · simp only [if_neg hcap]
                    apply IsOutcome.cons hfew (hexaminable hfile)
                    apply ih
                    obtain ⟨hseen, hreadable⟩ := hstate.see hnamed hfile
                    exact ⟨hkeys, hbuilt, Nat.lt_of_not_le hcap, hseen, hreadable⟩

end Loop

/-! ## The output of an execution -/

theorem IsBuilt.points {extractor : FailureSnippetExtractor} {files : RepositoryFiles}
    {root directory : List String} {sourceTool : Option String} {found : List Occurrence}
    {row : SnippetRow} (htool : sourceTool.any isBlank = false)
    (hbuilt : IsBuilt extractor files root sourceTool row)
    (hplain : normalizeRepositoryRelativePath row.key.1 = .ok row.key.1)
    (hline : 1 ≤ row.key.2)
    (hnamed : ∃ occurrence ∈ found, files.namedLine root directory occurrence = some row.key) :
    RowPoints extractor files root directory found row := by
  obtain ⟨lines, hread, hne, hsnippet⟩ := hbuilt
  obtain ⟨stored, normalized, -, hnormalized, hrow⟩ :=
    (FailureSnippetExtractor.snippetOf_eq_ok_iff htool hne).mp hsnippet
  rw [hplain] at hnormalized
  cases hnormalized
  obtain ⟨hstart, hend, hfirst, hlast, hrange⟩ :=
    FailureSnippetExtractor.range_of_lines extractor row.key.2 hne
  have hclamped : FailureSnippetExtractor.clampedLine row.key.2 lines =
      min row.key.2 lines.length := by
    unfold FailureSnippetExtractor.clampedLine
    rw [Nat.max_eq_left hline]
  rw [hclamped] at hfirst hlast
  refine ⟨hnamed, ?_, lines, hread, ?_⟩
  · rw [hrow]
  · rw [hrow]
    exact ⟨hstart, hend, hfirst, hlast, hrange, rfl⟩

theorem path_of_isBuilt {extractor : FailureSnippetExtractor} {files : RepositoryFiles}
    {root : List String} {sourceTool : Option String} {row : SnippetRow}
    (htool : sourceTool.any isBlank = false)
    (hbuilt : IsBuilt extractor files root sourceTool row) :
    normalizeRepositoryRelativePath row.key.1 = .ok row.snippet.repositoryRelPath := by
  obtain ⟨lines, -, hne, hsnippet⟩ := hbuilt
  obtain ⟨stored, normalized, -, hnormalized, hrow⟩ :=
    (FailureSnippetExtractor.snippetOf_eq_ok_iff htool hne).mp hsnippet
  rw [hnormalized, hrow]

theorem one_le_line_of_mem_occurrences {output : String} {occurrence : Occurrence}
    (hmem : occurrence ∈ occurrences output) : 1 ≤ occurrence.line := by
  unfold occurrences at hmem
  obtain ⟨found, -, hfound⟩ := List.mem_filterMap.mp hmem
  unfold LocationMatch.occurrence? at hfound
  cases hline : DecimalText.parseDigits found.lineDigits with
  | none =>
      rw [hline] at hfound
      cases hfound
  | some line =>
      rw [hline] at hfound
      by_cases hzero : line < 1
      · simp [hzero] at hfound
      · simp only [if_neg hzero, Option.some.injEq] at hfound
        rw [← hfound]
        exact Nat.le_of_not_lt hzero

section Extraction

variable {extractor : FailureSnippetExtractor} {files : RepositoryFiles}
  {root : List String} {sourceTool : Option String} {output : String}

theorem rowsPoint_iff (directory : List String) (htool : sourceTool.any isBlank = false)
    {outcome : SnippetResult (List SnippetRow)}
    (houtcome : IsOutcome extractor files root sourceTool [] (occurrences output) outcome) :
    (∃ rows, outcome = .ok rows ∧
        RowsPoint extractor files root directory (occurrences output) rows) ↔
      NamedAlike extractor files root directory (occurrences output) := by
  constructor
  · rintro ⟨rows, rfl, hpoint⟩
    obtain ⟨hexamined, hkeys, hbuilt⟩ := houtcome
    rw [List.nil_append] at hkeys
    have hrow : ∀ key ∈ (files.namedLines root root (occurrences output)).take
        extractor.maxSnippets, ∃ row ∈ rows, row.key = key := by
      intro key hkey
      rw [← hkeys] at hkey
      exact List.mem_map.mp hkey
    refine ⟨hexamined, ?_, ?_, ?_⟩
    · intro key hkey
      obtain ⟨row, hmem, rfl⟩ := hrow key hkey
      rw [path_of_isBuilt htool (hbuilt row hmem), (hpoint.point row hmem).path]
    · intro key hkey
      obtain ⟨row, hmem, rfl⟩ := hrow key hkey
      rw [RepositoryFiles.mem_namedLines]
      constructor
      · exact (hpoint.point row hmem).named
      · exact (RepositoryFiles.mem_namedLines.mp (List.mem_of_mem_take hkey)).2
    · rw [or_iff_not_imp_right]
      intro hless key hkey
      obtain ⟨⟨occurrence, hfound, hnamed⟩, hlines⟩ := RepositoryFiles.mem_namedLines.mp hkey
      cases hpoint.covered occurrence hfound key hnamed hlines with
      | inl hmem =>
          rw [hkeys] at hmem
          exact List.mem_of_mem_take hmem
      | inr hcap =>
          have hlength := congrArg List.length hkeys
          rw [List.length_map, List.length_take] at hlength
          omega
  · intro halike
    cases outcome with
    | error error => exact absurd halike.examined houtcome
    | ok rows =>
        obtain ⟨-, hkeys, hbuilt⟩ := houtcome
        rw [List.nil_append] at hkeys
        have hlength := congrArg List.length hkeys
        rw [List.length_map, List.length_take] at hlength
        refine ⟨rows, rfl, ?_, ?_, ?_, ?_⟩
        · rw [hlength]
          exact Nat.min_le_left _ _
        · intro row hmem
          have hkey : row.key ∈ (files.namedLines root root (occurrences output)).take
              extractor.maxSnippets := by
            rw [← hkeys]
            exact List.mem_map_of_mem hmem
          have hnamed := (RepositoryFiles.mem_namedLines.mp (halike.named row.key hkey)).1
          have hline : 1 ≤ row.key.2 := by
            obtain ⟨occurrence, hfound, hsome⟩ := hnamed
            rw [← (RepositoryFiles.namedLine_eq_some_iff.mp hsome).2]
            exact one_le_line_of_mem_occurrences hfound
          exact (hbuilt row hmem).points htool (halike.plain row.key hkey) hline hnamed
        · rw [hkeys]
          exact (RepositoryFiles.nodup_namedLines _).sublist (List.take_sublist _ _)
        · intro occurrence hfound key hnamed hlines
          cases halike.others with
          | inl hothers =>
              have hmem := hothers (RepositoryFiles.mem_namedLines.mpr
                ⟨⟨occurrence, hfound, hnamed⟩, hlines⟩)
              by_cases hcap : rows.length = extractor.maxSnippets
              · exact Or.inr hcap
              · left
                rw [hkeys, List.take_of_length_le]
                · exact hmem
                · omega
          | inr hcap =>
              right
              rw [hlength]
              exact Nat.min_eq_left hcap

end Extraction

theorem TestTargetDescription.exists_toTestResult {actions : ActionExecutionService}
    {world : ActionWorld} {description : TestTargetDescription} {timeoutSeconds : ℤ}
    {execution : ActionExecutionResult}
    (hran : actions.outcomeOf ⟨world, description.request timeoutSeconds⟩ = .ok execution)
    (hdescribed : ∀ check ∈ Repository.testTargetChecks description, check.1 = false)
    {entry : ProvenanceEntry} (hentry : description.resultEntry execution.logPath = .ok entry)
    (snippets : List TestFailureSnippet) :
    ∃ result, description.toTestResult execution snippets = .ok result ∧
      result.failureSnippets = snippets := by
  obtain ⟨hid, hargv, hcwd, hpath, hchecks⟩ := ActionExecutionService.checked_of_outcomeOf hran
  unfold TestTargetDescription.toTestResult TestExecutionResult.create
  simp only [hentry, ok_bind, hpath]
  simp only [actionResultChecks, Repository.testTargetChecks, List.forall_mem_cons, hid, hargv, hcwd,
    TestTargetDescription.request] at hchecks hdescribed
  obtain ⟨hblank, hempty, harguments, hdirectory, hexcerpt, -, -, htimeout, -⟩ := hchecks
  obtain ⟨-, -, -, hwarning, hentries, hkinds, -⟩ := hdescribed
  have htest : ∀ status : ActionExecutionStatus,
      toTestStatus status = .timeout ↔ status = .timeout := by
    intro status
    cases status <;> simp [toTestStatus]
  refine ⟨_, validated_eq_ok.mpr ⟨rfl, ?_⟩, rfl⟩
  simp only [testResultChecks, List.forall_mem_cons, List.not_mem_nil, false_imp_iff, implies_true,
    and_true]
  refine ⟨hblank, hempty, harguments, hdirectory, hwarning, hexcerpt, ?_, ?_, ?_, ?_, ?_⟩
  · simp
  · simp
  · simpa only [htest] using htimeout
  · simp
  · simp only [Bool.not_eq_false'] at hkinds ⊢
    rw [List.any_append, hkinds, Bool.true_or]

/-! ## A run of a target -/

/-- A run of a target which comes to the snippets: its command has run in its directory, the
root is still there, and the entry of its result is accepted. -/
structure TargetRun (service : TestExecutionService) where
  world : ActionWorld
  files : RepositoryFiles
  description : TestTargetDescription
  timeoutSeconds : ℤ
  logs : RunLogs
  root : List String
  directory : List String
  execution : ActionExecutionResult
  described : ∀ check ∈ Repository.testTargetChecks description, check.1 = false
  tools : ∀ entry ∈ description.provenance, entry.sourceTool.any isBlank = false
  root_eq : files.tree.resolve service.repositoryRoot = some root
  directory_eq :
    service.actions.resolveWorkingDirectory world description.commandCwd = .ok directory
  ran : (service.actions.run world (description.request timeoutSeconds) logs).1 = .ok execution
  accepted : ∃ entry, description.resultEntry execution.logPath = .ok entry

namespace TargetRun

variable {service : TestExecutionService} (run : TargetRun service)

def found : List Occurrence := occurrences run.execution.output

def outcome : SnippetResult TestExecutionResult :=
  (service.runTarget run.files run.world run.description run.timeoutSeconds run.logs).1

/-- The run returns, with snippets which point where the test pointed. -/
def PointsBack : Prop :=
  ∃ rows result, service.failureRows run.files run.description run.execution = .ok rows ∧
    run.outcome = .ok result ∧ result.failureSnippets = rows.map SnippetRow.snippet ∧
      RowsPoint service.extractor run.files run.root run.directory run.found rows

/-- The lines of the output are numbers and named alike from the root and the directory. -/
structure ReadAlike : Prop where
  readable : LinesReadable run.execution.output
  named : NamedAlike service.extractor run.files run.root run.directory run.found

variable {run}

theorem sourceTool_not_blank (run : TargetRun service) :
    run.description.sourceTool.any isBlank = false := by
  unfold TestTargetDescription.sourceTool
  cases htool : run.description.provenance.findSome? fun entry =>
      if entry.sourceKind = .testTool then entry.sourceTool else none with
  | none => rfl
  | some tool =>
      obtain ⟨entry, hentry, hsome⟩ := List.exists_of_findSome?_eq_some htool
      by_cases hkind : entry.sourceKind = .testTool
      · rw [if_pos hkind] at hsome
        have hblank := run.tools entry hentry
        rwa [hsome] at hblank
      · rw [if_neg hkind] at hsome
        cases hsome

theorem exists_toTestResult (run : TargetRun service) (snippets : List TestFailureSnippet) :
    ∃ result, run.description.toTestResult run.execution snippets = .ok result ∧
      result.failureSnippets = snippets := by
  obtain ⟨entry, hentry⟩ := run.accepted
  have hran : service.actions.outcomeOf
      ⟨run.world, run.description.request run.timeoutSeconds⟩ = .ok run.execution := by
    have hrun := run.ran
    rwa [ActionExecutionService.run_eq
      ⟨run.world, run.description.request run.timeoutSeconds⟩ run.logs] at hrun
  exact TestTargetDescription.exists_toTestResult hran run.described hentry snippets

theorem outcome_eq (run : TargetRun service) :
    run.outcome =
      service.failureRows run.files run.description run.execution >>= fun rows =>
        orSnippetError
          (run.description.toTestResult run.execution (rows.map SnippetRow.snippet)) := by
  unfold outcome TestExecutionService.runTarget
  have hran := run.ran
  cases hrun : service.actions.run run.world (run.description.request run.timeoutSeconds)
      run.logs with
  | mk outcome logs =>
      rw [hrun] at hran
      simp only at hran
      rw [hran]

theorem pointsBack_iff_rows (run : TargetRun service) :
    run.PointsBack ↔ ∃ rows,
      service.failureRows run.files run.description run.execution = .ok rows ∧
        RowsPoint service.extractor run.files run.root run.directory run.found rows := by
  constructor
  · rintro ⟨rows, result, hrows, -, -, hpoint⟩
    exact ⟨rows, hrows, hpoint⟩
  · rintro ⟨rows, hrows, hpoint⟩
    obtain ⟨result, hresult, hsnippets⟩ :=
      run.exists_toTestResult (rows.map SnippetRow.snippet)
    refine ⟨rows, result, hrows, ?_, hsnippets, hpoint⟩
    rw [outcome_eq, hrows, ok_bind, hresult]
    rfl

theorem pointsBack_iff_of_passed (run : TargetRun service)
    (hpassed : run.execution.status = .passed) :
    run.PointsBack ↔ run.files.namedLines run.root run.directory run.found = [] := by
  rw [pointsBack_iff_rows]
  unfold TestExecutionService.failureRows
  simp only [if_pos hpassed]
  constructor
  · rintro ⟨rows, hrows, hpoint⟩
    cases hrows
    rw [List.eq_nil_iff_forall_not_mem]
    intro key hkey
    obtain ⟨⟨occurrence, hfound, hnamed⟩, hlines⟩ := RepositoryFiles.mem_namedLines.mp hkey
    have hpos := service.extractor.maxSnippets_pos
    cases hpoint.covered occurrence hfound key hnamed hlines with
    | inl hmem => simp at hmem
    | inr hcap =>
        rw [List.length_nil] at hcap
        omega
  · intro hnone
    refine ⟨[], rfl, Nat.zero_le _, by simp, by simp, ?_⟩
    intro occurrence hfound key hnamed hlines
    have hmem : key ∈ run.files.namedLines run.root run.directory run.found :=
      RepositoryFiles.mem_namedLines.mpr ⟨⟨occurrence, hfound, hnamed⟩, hlines⟩
    rw [hnone] at hmem
    simp at hmem

theorem pointsBack_iff_of_not_passed (run : TargetRun service)
    (hfailed : run.execution.status ≠ .passed) : run.PointsBack ↔ run.ReadAlike := by
  rw [pointsBack_iff_rows]
  unfold TestExecutionService.failureRows
  simp only [if_neg hfailed]
  have hroot : run.files.resolved service.repositoryRoot = .ok run.root := by
    rw [RepositoryFiles.resolved, run.root_eq]
  have hstart : LoopState service.extractor run.files run.root run.description.sourceTool
      [] [] [] := by
    refine ⟨rfl, by simp, ?_, by simp, by simp⟩
    exact service.extractor.maxSnippets_pos
  have houtcome : IsOutcome service.extractor run.files run.root run.description.sourceTool
      [] run.found _ := isOutcome_extractRows run.sourceTool_not_blank hstart
  have hiff := rowsPoint_iff run.directory run.sourceTool_not_blank houtcome
  unfold FailureSnippetExtractor.extract
  simp only [hroot, ok_bind]
  constructor
  · rintro ⟨rows, hrows, hpoint⟩
    obtain ⟨found, hlocations, hrows⟩ := bind_eq_ok.mp hrows
    cases hread : locations run.execution.output with
    | error error =>
        rw [hread] at hlocations
        cases hlocations
    | ok read =>
        rw [hread] at hlocations
        obtain ⟨hreadable, hfound⟩ := locations_eq_ok.mp hread
        have heq : found = run.found := (Except.ok.inj hlocations).symm.trans hfound.symm
        rw [heq] at hrows
        exact ⟨hreadable, hiff.mp ⟨rows, hrows, hpoint⟩⟩
  · rintro ⟨hreadable, hnamed⟩
    obtain ⟨rows, hrows, hpoint⟩ := hiff.mpr hnamed
    have hread : locations run.execution.output = .ok run.found :=
      locations_eq_ok.mpr ⟨hreadable, rfl⟩
    refine ⟨rows, ?_, hpoint⟩
    rw [hread]
    exact hrows

/-- The snippets of a run point where its test pointed exactly where nothing is named by a
run which passed, and the named lines are alike in one which did not. -/
theorem pointsBack_iff (run : TargetRun service) :
    run.PointsBack ↔
      if run.execution.status = .passed then
        run.files.namedLines run.root run.directory run.found = []
      else run.ReadAlike := by
  by_cases hpassed : run.execution.status = .passed
  · rw [if_pos hpassed]
    exact pointsBack_iff_of_passed run hpassed
  · rw [if_neg hpassed]
    exact pointsBack_iff_of_not_passed run hpassed

/-! ## A run in a package -/

/-- The service of a repository with the package `web`. -/
def webService : TestExecutionService :=
  ⟨["repo"], ⟨2, 10, by decide⟩⟩

def webTree : FileTree :=
  ⟨[(["repo"], .directory), (["repo", "web"], .directory), (["repo", "web", "src"], .directory),
    (["repo", "web", "src", "a.test.ts"], .file)], 40⟩

def webFiles : RepositoryFiles :=
  { tree := webTree
    statError := fun _ => none
    reading := fun _ => .text "test('a', () => \x7b\x7d)\n" }

def webEntry : ProvenanceEntry :=
  ⟨.authoritative, .testTool, some "jest", "listed by jest", ["web/src/a.test.ts"]⟩

def webDescription : TestTargetDescription :=
  { testDefinition :=
      { id := "test:npm:web"
        name := "web"
        framework := .other
        testFiles := ["web/src/a.test.ts"]
        provenance := [webEntry] }
    commandArgv := ["npm", "test"]
    commandCwd := some "web"
    isAuthoritative := true
    warning := none
    provenance := [webEntry] }

def webNow : UtcTime := (ActionExecutionService.noonCall "").world.now

def webProcess : ProcessExecutionResult := ⟨some 1, "src/a.test.ts:1", false, 17, by decide⟩

def webWorld : ActionWorld :=
  { tree := webTree
    which := fun executable => some ("/usr/bin/" ++ executable)
    sysExecutable := "/usr/bin/python3"
    findsPytest := false
    process := fun _ _ _ => .ok webProcess
    now := webNow }

def webExecution : ActionExecutionResult :=
  { actionId := "test:npm:web"
    status := .failed
    success := false
    commandArgv := ["npm", "test"]
    commandCwd := some "web"
    exitCode := some 1
    durationMs := 17
    logPath := ".suit/runs/tests/20260301T120000Z-test_npm_web.log"
    outputExcerpt := some "src/a.test.ts:1"
    output := "src/a.test.ts:1" }

theorem webDirectory_eq :
    webService.actions.resolveWorkingDirectory webWorld (some "web") = .ok ["repo", "web"] := by
  decide +kernel

theorem webExecute_eq :
    webService.actions.execute webWorld (webDescription.request 60) =
      .ok ("tests", webProcess) := by
  decide +kernel

theorem webResult_eq :
    ActionExecutionService.toResult (webDescription.request 60) webProcess
      (runLogPath "tests" webNow "test:npm:web") = .ok webExecution := by
  decide +kernel

theorem webRun_eq :
    (webService.actions.run webWorld (webDescription.request 60) .empty).1 =
      .ok webExecution := by
  unfold ActionExecutionService.run
  rw [webExecute_eq]
  exact webResult_eq

def webResultEntry : ProvenanceEntry :=
  ⟨.derived, .testTool, some "jest",
    "test target execution result derived from deterministic provider command",
    [".suit/runs/tests/20260301T120000Z-test_npm_web.log", "web/src/a.test.ts"]⟩

theorem webResultEntry_ok :
    webDescription.resultEntry webExecution.logPath = .ok webResultEntry := by
  decide +kernel

/-- The test of the package fails in the file `src/a.test.ts` of its directory. -/
def webRun : TargetRun webService :=
  { world := webWorld
    files := webFiles
    description := webDescription
    timeoutSeconds := 60
    logs := .empty
    root := ["repo"]
    directory := ["repo", "web"]
    execution := webExecution
    described := by decide
    tools := by decide
    root_eq := by decide
    directory_eq := webDirectory_eq
    ran := webRun_eq
    accepted := ⟨webResultEntry, webResultEntry_ok⟩ }

/-- The run of the package did not pass, so that its lines have to be named alike. -/
theorem pointsBack_iff_webRun : webRun.PointsBack ↔ webRun.ReadAlike := by
  have hiff := pointsBack_iff webRun
  rw [if_neg (by decide)] at hiff
  exact hiff

theorem webRun_not_pointsBack : ¬ webRun.PointsBack := by
  have hnamed : webFiles.namedLines ["repo"] ["repo", "web"] webRun.found =
      [("web/src/a.test.ts", 1)] := by decide +kernel
  have hroot : webFiles.namedLines ["repo"] ["repo"] webRun.found = [] := by decide +kernel
  intro hpoints
  have halike := (pointsBack_iff_of_not_passed webRun (by decide)).mp hpoints
  have hothers : webFiles.namedLines ["repo"] ["repo", "web"] webRun.found ⊆
        webFiles.namedLines ["repo"] ["repo"] webRun.found ∨
      10 ≤ (webFiles.namedLines ["repo"] ["repo"] webRun.found).length := halike.named.others
  rw [hnamed, hroot] at hothers
  simp at hothers

/-- A failure in a package is reported without its snippet. -/
theorem pointsBack_not_always :
    ¬ ∀ (service : TestExecutionService) (run : TargetRun service), run.PointsBack := by
  intro halways
  exact webRun_not_pointsBack (halways webService webRun)

end TargetRun

end SuitCode
