import SuitCode.Exceptions
import SuitCode.Library.DecimalText

/-!
# Paths and lines in the output of a test

Two patterns look for the path of a source file with a line number behind it: one between
parentheses, and one anywhere.  A path is as short as the pattern allows.
-/

namespace SuitCode

open DecimalText ExceptList PosixText

structure LocationMatch where
  path : String
  lineDigits : List Char
  deriving DecidableEq, Repr

/-- A path with a line, as `_locations` gives it. -/
structure Occurrence where
  path : String
  line : ℕ
  deriving DecidableEq, Repr

/-! ## The patterns -/

def extensions : List (List Char) :=
  ["py".toList, "ts".toList, "tsx".toList, "js".toList, "jsx".toList]

/-- `\d+`: the digits at the start, which are not none, and what follows them. -/
def takeDigits (chars : List Char) : Option (List Char × List Char) :=
  match chars.takeWhile isDecimal with
  | [] => none
  | digits => some (digits, chars.dropWhile isDecimal)

/-- The extension, the digits of the line and the rest: `\.(?:py|ts|tsx|js|jsx):(\d+)`. -/
def matchExtension : List Char → Option (List Char × List Char × List Char)
  | '.' :: chars => do
      let extension ← extensions.find? fun extension => (extension ++ [':']).isPrefixOf chars
      let (digits, rest) ← takeDigits (chars.drop (extension.length + 1))
      pure ('.' :: extension, digits, rest)
  | _ => none

/-- What stands behind the line outside of parentheses: `(?::\d+)?`. -/
def endPlain (rest : List Char) : Option (List Char) :=
  match rest with
  | ':' :: column =>
      match takeDigits column with
      | some (_, behind) => some behind
      | none => some rest
  | _ => some rest

/-- What stands behind the line in parentheses: `(?::\d+)?\)`. -/
def endParenthesized (rest : List Char) : Option (List Char) := do
  let behind ← endPlain rest
  match behind with
  | ')' :: behind => some behind
  | _ => none

/-- `[..]+?` and the rest of a pattern: the stem grows until the rest fits. -/
def matchStem (isPathChar : Char → Bool) (ending : List Char → Option (List Char)) :
    List Char → List Char → Option (LocationMatch × List Char)
  | _, [] => none
  | stem, c :: chars =>
      if isPathChar c then
        let longer := stem ++ [c]
        let found := do
          let (extension, digits, rest) ← matchExtension chars
          let behind ← ending rest
          pure (⟨String.ofList (longer ++ extension), digits⟩, behind)
        match found with
        | some found => some found
        | none => matchStem isPathChar ending longer chars
      else
        none

/-- `[^()\s]`. -/
def isParenthesizedChar (c : Char) : Bool := c ≠ '(' && c ≠ ')' && !isSpace c

/-- `[A-Za-z0-9_./\\-]`. -/
def isPlainChar (c : Char) : Bool :=
  c.isAlphanum || c = '_' || c = '.' || c = '/' || c = '\\' || c = '-'

def matchParenthesized : List Char → Option (LocationMatch × List Char)
  | '(' :: chars => matchStem isParenthesizedChar endParenthesized [] chars
  | _ => none

def matchPlain (chars : List Char) : Option (LocationMatch × List Char) :=
  matchStem isPlainChar endPlain [] chars

/-- `finditer`: after a match the search goes on behind it. -/
def findMatches (pattern : List Char → Option (LocationMatch × List Char)) :
    ℕ → List Char → List LocationMatch
  | _, [] => []
  | skipped + 1, _ :: chars => findMatches pattern skipped chars
  | 0, c :: chars =>
      match pattern (c :: chars) with
      | some (found, behind) =>
          found :: findMatches pattern (chars.length - behind.length) chars
      | none => findMatches pattern 0 chars

def locationMatches (output : String) : List LocationMatch :=
  findMatches matchParenthesized 0 output.toList ++ findMatches matchPlain 0 output.toList

example : locationMatches "f (a.ts:3:1) b.py.js:٣:4" =
    [⟨"a.ts", ['3']⟩, ⟨"a.ts", ['3']⟩, ⟨"b.py.js", ['٣']⟩] := by
  decide

/-! ## Lines -/

def LocationMatch.occurrence? (found : LocationMatch) : Option Occurrence :=
  match DecimalText.parseDigits found.lineDigits with
  | some line => if line < 1 then none else some ⟨found.path, line⟩
  | none => none

def readOccurrence (found : LocationMatch) : PyResult (Option Occurrence) :=
  match DecimalText.parseDigits found.lineDigits with
  | some line => pure (if line < 1 then none else some ⟨found.path, line⟩)
  | none =>
      raiseValueError "Exceeds the limit (4300 digits) for integer string conversion"

def locations (output : String) : PyResult (List Occurrence) := do
  let found ← (locationMatches output).mapM readOccurrence
  pure (found.filterMap id)

def occurrences (output : String) : List Occurrence :=
  (locationMatches output).filterMap LocationMatch.occurrence?

def LinesReadable (output : String) : Prop :=
  ∀ found ∈ locationMatches output, (DecimalText.parseDigits found.lineDigits).isSome = true

theorem readOccurrence_eq_ok {found : LocationMatch} {read : Option Occurrence} :
    readOccurrence found = .ok read ↔
      (DecimalText.parseDigits found.lineDigits).isSome = true ∧ found.occurrence? = read := by
  unfold readOccurrence LocationMatch.occurrence?
  cases DecimalText.parseDigits found.lineDigits with
  | none => simp
  | some line => simp

theorem locations_eq_ok {output : String} {found : List Occurrence} :
    locations output = .ok found ↔ LinesReadable output ∧ occurrences output = found := by
  have hmapped : ∀ (items : List LocationMatch) (read : List (Option Occurrence)),
      items.mapM readOccurrence = .ok read ↔
        (∀ item ∈ items, (DecimalText.parseDigits item.lineDigits).isSome = true) ∧
          items.map LocationMatch.occurrence? = read := by
    intro items
    induction items with
    | nil => simp
    | cons item items ih =>
        intro read
        rw [List.mapM_cons, bind_eq_ok, List.forall_mem_cons, List.map_cons]
        constructor
        · rintro ⟨first, hfirst, hrest⟩
          obtain ⟨rest, hrest, hread⟩ := bind_eq_ok.mp hrest
          obtain ⟨hsome, hsame⟩ := readOccurrence_eq_ok.mp hfirst
          obtain ⟨hall, hothers⟩ := (ih rest).mp hrest
          rw [hsame, hothers]
          exact ⟨⟨hsome, hall⟩, pure_eq_ok.mp hread⟩
        · rintro ⟨⟨hsome, hall⟩, hread⟩
          refine ⟨_, readOccurrence_eq_ok.mpr ⟨hsome, rfl⟩, ?_⟩
          rw [bind_eq_ok]
          exact ⟨_, (ih _).mpr ⟨hall, rfl⟩, pure_eq_ok.mpr hread⟩
  unfold locations LinesReadable occurrences
  rw [bind_eq_ok]
  constructor
  · rintro ⟨read, hread, hfound⟩
    obtain ⟨hall, hsame⟩ := (hmapped _ _).mp hread
    refine ⟨hall, ?_⟩
    rw [← pure_eq_ok.mp hfound, ← hsame, List.filterMap_map]
    rfl
  · rintro ⟨hall, hsame⟩
    refine ⟨_, (hmapped _ _).mpr ⟨hall, rfl⟩, ?_⟩
    rw [pure_eq_ok, ← hsame, List.filterMap_map]
    rfl

end SuitCode
