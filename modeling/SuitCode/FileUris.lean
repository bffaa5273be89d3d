import SuitCode.Library.PathOrder
import SuitCode.Library.PercentEncoding
import SuitCode.LspBackends

/-!
# File URIs

A path is named to a language server by its URI, and a server names files the same way.
The path of a URI is unquoted, and `url2pathname` unquotes it once more, so that a name
which looks like an escape is lost.
-/

namespace SuitCode

open PosixText PercentEncoding

/-! ## Writing and splitting -/

def absoluteText (path : List String) : String := "/" ++ join "/" path

/-- `path.as_uri()`. -/
def asUri (path : List String) : String :=
  "file://" ++ String.ofList (quoteBytes (utf8Bytes (absoluteText path).toList))

def isSchemeChar (c : Char) : Bool := c.isAlphanum || c ∈ ['+', '-', '.']

def splitScheme (url : List Char) : List Char × List Char :=
  let name := url.takeWhile (· ≠ ':')
  match url.drop name.length with
  | _ :: rest =>
      if name.head?.any Char.isAlpha && name.all isSchemeChar then (name.map Char.toLower, rest)
      else ([], url)
  | [] => ([], url)

def splitNetloc : List Char → List Char × List Char
  | '/' :: '/' :: rest =>
      (rest.takeWhile (· ∉ ['/', '?', '#']), rest.dropWhile (· ∉ ['/', '?', '#']))
  | url => ([], url)

structure SplitUrl where
  scheme : String
  netloc : String
  path : String
  deriving DecidableEq, Repr

/-- `urlparse(url)`, without its query and fragment. -/
def urlparse (url : String) : SplitUrl :=
  let trimmed := (url.toList.dropWhile fun c => c.toNat ≤ 0x20).filter
    (· ∉ ['\t', '\r', '\n'])
  let (scheme, rest) := splitScheme trimmed
  let (netloc, rest) := splitNetloc rest
  let path := (rest.takeWhile (· ≠ '#')).takeWhile (· ≠ '?')
  ⟨String.ofList scheme, String.ofList netloc, String.ofList path⟩

/-- The first lines of `_path_from_uri` on POSIX, where `url2pathname` unquotes;
`checkNetloc` gives the message `urlparse` raises for a host. -/
def posixFileUriPath (checkNetloc : String → Option String) (uri : String) :
    Except String (Option String) :=
  let parsed := urlparse uri
  match checkNetloc parsed.netloc with
  | some message => .error message
  | none =>
      if parsed.scheme ≠ "file" then .ok none
      else .ok (some (unquote (unquote parsed.path)))

/-! ## The URI of a path -/

def IsQuotedChar (c : Char) : Prop := c.isAlphanum = true ∨ c ∈ ['_', '.', '-', '~', '/', '%']

theorem isQuotedChar_of_mem {bytes : List UInt8} {c : Char} (hc : c ∈ quoteBytes bytes) :
    IsQuotedChar c := by
  have hdigits : ∀ n < 16, (upperHexDigit n).isAlphanum = true := by decide
  obtain ⟨byte, -, hmem⟩ := List.mem_flatMap.mp hc
  have hlt : byte.toNat < 256 := byte.toNat_lt
  unfold quoteByte at hmem
  cases hsafe : isSafeByte byte with
  | true =>
      rw [hsafe, if_pos rfl, List.mem_singleton] at hmem
      rw [hmem]
      unfold isSafeByte at hsafe
      simp only [Bool.and_eq_true, Bool.or_eq_true, decide_eq_true_eq] at hsafe
      cases hsafe.2 with
      | inl halnum => exact .inl halnum
      | inr hlisted =>
          right
          have hincluded : ['_', '.', '-', '~', '/'] ⊆ ['_', '.', '-', '~', '/', '%'] := by
            apply List.subset_append_left ['_', '.', '-', '~', '/'] ['%']
          exact hincluded hlisted
  | false =>
      simp only [hsafe, Bool.false_eq_true, if_false, List.mem_cons, List.not_mem_nil,
        or_false] at hmem
      rcases hmem with rfl | rfl | rfl
      · exact .inr (by decide)
      · exact .inl (hdigits _ (by omega))
      · exact .inl (hdigits _ (by omega))

theorem IsQuotedChar.ne {c other : Char} (hc : IsQuotedChar c)
    (hother : other ∈ ['\t', '\r', '\n', '#', '?']) : c ≠ other := by
  rintro rfl
  have hnone : ['\t', '\r', '\n', '#', '?'].all (fun d =>
      !d.isAlphanum && decide (d ∉ ['_', '.', '-', '~', '/', '%'])) = true := by decide
  have hc' := List.all_eq_true.mp hnone c hother
  simp only [Bool.and_eq_true, Bool.not_eq_true', decide_eq_true_eq] at hc'
  cases hc with
  | inl halnum =>
      rw [hc'.1] at halnum
      cases halnum
  | inr hlisted => exact hc'.2 hlisted

theorem urlparse_asUri (path : List String) :
    urlparse (asUri path) =
      ⟨"file", "", String.ofList (quoteBytes (utf8Bytes (absoluteText path).toList))⟩ := by
  have hquoted : ∀ c ∈ quoteBytes (utf8Bytes (absoluteText path).toList), IsQuotedChar c :=
    fun c hc => isQuotedChar_of_mem hc
  have hslash : ∃ rest, quoteBytes (utf8Bytes (absoluteText path).toList) = '/' :: rest := by
    have hchars : (absoluteText path).toList = '/' :: (join "/" path).toList := by
      simp [absoluteText]
    have hbyte : quoteBytes (String.utf8EncodeChar '/') = ['/'] := by decide
    use quoteBytes (utf8Bytes (join "/" path).toList)
    rw [hchars, utf8Bytes, List.flatMap_cons, quoteBytes, List.flatMap_append, ← quoteBytes,
      hbyte]
    rfl
  obtain ⟨rest, hrest⟩ := hslash
  have htext : (asUri path).toList =
      'f' :: 'i' :: 'l' :: 'e' :: ':' :: '/' :: '/' ::
        quoteBytes (utf8Bytes (absoluteText path).toList) := by
    simp [asUri]
  have htrimmed : ((asUri path).toList.dropWhile fun c => c.toNat ≤ 0x20).filter
      (· ∉ ['\t', '\r', '\n']) = (asUri path).toList := by
    have hdrop : ((asUri path).toList.dropWhile fun c => c.toNat ≤ 0x20) =
        (asUri path).toList := by
      rw [htext]
      rfl
    rw [hdrop, List.filter_eq_self, htext]
    intro c hc
    have hsafe : c ∈ ['f', 'i', 'l', 'e', ':', '/', '/'] ∨
        c ∈ quoteBytes (utf8Bytes (absoluteText path).toList) := by
      rw [← List.mem_append]
      exact hc
    cases hsafe with
    | inl hfront =>
        have hall : ['f', 'i', 'l', 'e', ':', '/', '/'].all
            (fun c => decide (c ∉ ['\t', '\r', '\n'])) = true := by decide
        exact List.all_eq_true.mp hall c hfront
    | inr hback =>
        have hchar := hquoted c hback
        simp [hchar.ne]
  have hfragment : (quoteBytes (utf8Bytes (absoluteText path).toList)).takeWhile (· ≠ '#') =
      quoteBytes (utf8Bytes (absoluteText path).toList) := by
    rw [List.takeWhile_eq_self_iff]
    intro c hc
    exact decide_eq_true ((hquoted c hc).ne (by decide))
  have hquery : (quoteBytes (utf8Bytes (absoluteText path).toList)).takeWhile (· ≠ '?') =
      quoteBytes (utf8Bytes (absoluteText path).toList) := by
    rw [List.takeWhile_eq_self_iff]
    intro c hc
    exact decide_eq_true ((hquoted c hc).ne (by decide))
  have hscheme : splitScheme (asUri path).toList =
      (['f', 'i', 'l', 'e'], '/' :: '/' ::
        quoteBytes (utf8Bytes (absoluteText path).toList)) := by
    rw [htext]
    rfl
  have hnetloc : splitNetloc ('/' :: '/' ::
      quoteBytes (utf8Bytes (absoluteText path).toList)) =
        ([], quoteBytes (utf8Bytes (absoluteText path).toList)) := by
    rw [hrest]
    rfl
  unfold urlparse
  simp only [htrimmed, hscheme, hnetloc, hfragment, hquery]

theorem posixFileUriPath_asUri {checkNetloc : String → Option String}
    (hlocal : checkNetloc "" = none) (path : List String) :
    posixFileUriPath checkNetloc (asUri path) =
      .ok (some (unquote (absoluteText path))) := by
  unfold posixFileUriPath
  simp only [urlparse_asUri, hlocal, unquote_quoteBytes, ne_eq, not_true_eq_false, if_false]

/-! ## Reading a path back -/

/-- The names of an absolute path. -/
def IsNamePath (path : List String) : Prop :=
  ∀ name ∈ path, name ≠ "" ∧ name ≠ "." ∧ '/' ∉ name.toList

theorem joined_absoluteText (directory : List String) {path : List String}
    (hnames : IsNamePath path) : FileTree.joined directory (absoluteText path) = path := by
  have hroot : rootOf (absoluteText path) ≠ "" := by
    rw [ne_eq, rootOf_eq_empty_iff]
    simp [absoluteText, startsWith]
  have hsegments : segments (absoluteText path) = path := by
    have hpieces : pieces (absoluteText path) = "" :: pieces (join "/" path) := by
      have hsplit := pieces_append_slash "" (join "/" path)
      rw [String.empty_append] at hsplit
      exact hsplit
    rw [segments, hpieces]
    by_cases hnil : path = []
    · rw [hnil]
      decide
    · rw [pieces_join hnil fun name hname => (hnames name hname).2.2]
      rw [List.filter_cons_of_neg (by simp), List.filter_eq_self]
      intro name hname
      have hkept := hnames name hname
      simp [hkept.1, hkept.2.1]
  rw [FileTree.joined, if_neg hroot, hsegments]

/-- A path below the root is read back from its URI exactly where its text has no escapes
or leads to the same file without them. -/
theorem pathFromUri_asUri_iff {backend : LspBackend} {checkNetloc : String → Option String}
    (hposix : backend.fileUriPath = posixFileUriPath checkNetloc)
    (hlocal : checkNetloc "" = none) {path : List String} (hnames : IsNamePath path)
    (hresolved : backend.tree.resolve path = some path) (hbelow : backend.root <+: path) :
    backend.pathFromUri (asUri path) = .ok (some path) ↔
      ¬ HasEscape (absoluteText path).toList ∨
        backend.tree.resolve
          (FileTree.joined backend.workingDirectory (unquote (absoluteText path))) =
            some path := by
  have hread : backend.pathFromUri (asUri path) = .ok (some path) ↔
      backend.tree.resolve
        (FileTree.joined backend.workingDirectory (unquote (absoluteText path))) =
          some path := by
    unfold LspBackend.pathFromUri
    rw [hposix, posixFileUriPath_asUri hlocal]
    simp only [LspBackend.resolvePath]
    cases hfound : backend.tree.resolve
        (FileTree.joined backend.workingDirectory (unquote (absoluteText path))) with
    | none => simp [lspOsError, ExceptList.error_bind]
    | some found =>
        simp only [ExceptList.ok_bind, Option.some.injEq]
        by_cases hsame : found = path
        · have hinside : (FileTree.relativeTo backend.root path).isSome = true := by
            simp [FileTree.relativeTo, hbelow]
          rw [hsame, hinside, if_pos rfl]
          exact iff_of_true rfl rfl
        · split
          · simp [pure, Except.pure, hsame]
          · simp [pure, Except.pure, hsame]
  rw [hread]
  constructor
  · intro hsame
    exact .inr hsame
  · intro hcondition
    cases hcondition with
    | inl hnone =>
        rw [unquote_of_noEscape hnone, joined_absoluteText _ hnames]
        exact hresolved
    | inr hsame => exact hsame

namespace UriSample

def backend : LspBackend where
  tree :=
    { entries :=
        [(["r"], .directory), (["r", "a%20b.py"], .file), (["r", "50% done; é#?.py"], .file)]
      linkLimit := 40 }
  root := ["r"]
  workingDirectory := ["r"]
  fileText := fun _ => .text ""
  supportedExtensions := [".py"]
  symbolKindByCode := []
  fileUriPath := posixFileUriPath fun _ => none
  casefold := id
  fnmatchcase := fun _ _ => false

theorem backend_fileUriPath : backend.fileUriPath = posixFileUriPath fun _ => none := by
  simp only [backend]

end UriSample

/-- A file whose name looks like an escape is not read back from its URI. -/
theorem pathFromUri_asUri_not_always :
    ¬ ∀ (backend : LspBackend) (checkNetloc : String → Option String) (path : List String),
      backend.fileUriPath = posixFileUriPath checkNetloc → checkNetloc "" = none →
        IsNamePath path → backend.tree.resolve path = some path → backend.root <+: path →
          backend.pathFromUri (asUri path) = .ok (some path) := by
  intro halways
  have hread := halways UriSample.backend (fun _ => none) ["r", "a%20b.py"]
    UriSample.backend_fileUriPath rfl
    (by decide : ∀ name ∈ ["r", "a%20b.py"], name ≠ "" ∧ name ≠ "." ∧ '/' ∉ name.toList)
    (by decide) (by decide)
  have hother : UriSample.backend.pathFromUri (asUri ["r", "a%20b.py"]) =
      .ok (some ["r", "a b.py"]) := by
    decide +kernel
  rw [hother] at hread
  simp at hread

/-- The characterization at a name with a percent sign, blanks and other characters. -/
theorem pathFromUri_asUri_iff_percentSign :
    UriSample.backend.pathFromUri (asUri ["r", "50% done; é#?.py"]) =
        .ok (some ["r", "50% done; é#?.py"]) ↔
      ¬ HasEscape (absoluteText ["r", "50% done; é#?.py"]).toList ∨
        UriSample.backend.tree.resolve
          (FileTree.joined UriSample.backend.workingDirectory
            (unquote (absoluteText ["r", "50% done; é#?.py"]))) =
              some ["r", "50% done; é#?.py"] := by
  have hnames : IsNamePath ["r", "50% done; é#?.py"] := by
    unfold IsNamePath
    decide
  have hresolved : UriSample.backend.tree.resolve ["r", "50% done; é#?.py"] =
      some ["r", "50% done; é#?.py"] := by
    decide +kernel
  have hbelow : UriSample.backend.root <+: ["r", "50% done; é#?.py"] := by decide
  exact pathFromUri_asUri_iff UriSample.backend_fileUriPath rfl hnames hresolved hbelow

end SuitCode
