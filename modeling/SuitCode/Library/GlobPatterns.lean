import Mathlib.Data.List.Forall2
import Mathlib.Data.List.Infix
import Mathlib.Data.Nat.Notation

/-!
# Path patterns

A pattern is a list of segment patterns in the syntax of `fnmatch`.  It is matched with the
names of a path in two ways: from the root, where `**` stands for any number of names, and
from the right, where `**` stands for one name and names in front are left over.  The two
agree on patterns without `**` exactly for the paths of the length of the pattern.
-/

namespace GlobPatterns

/-! ## Segments -/

inductive Token where
  | any
  | one
  | literal (c : Char)
  | oneOf (negated : Bool) (ranges : List (Char × Char))
  deriving DecidableEq, Repr

def takeSet : List Char → Option (List Char × List Char)
  | [] => none
  | ']' :: rest => some ([], rest)
  | c :: rest => (takeSet rest).map fun found => (c :: found.1, found.2)

def setRanges : List Char → List (Char × Char)
  | first :: '-' :: last :: rest => (first, last) :: setRanges rest
  | c :: rest => (c, c) :: setRanges rest
  | [] => []

def setToken (chars : List Char) : Option (Token × List Char) :=
  let negated := chars.head? = some '!'
  match if negated then chars.tail else chars with
  | [] => none
  | c :: rest =>
      (takeSet rest).map fun found =>
        (.oneOf negated (setRanges (c :: found.1)), found.2)

def tokensFrom : ℕ → List Char → List Token
  | 0, _ => []
  | _ + 1, [] => []
  | fuel + 1, '*' :: rest => .any :: tokensFrom fuel rest
  | fuel + 1, '?' :: rest => .one :: tokensFrom fuel rest
  | fuel + 1, '[' :: rest =>
      match setToken rest with
      | none => .literal '[' :: tokensFrom fuel rest
      | some found => found.1 :: tokensFrom fuel found.2
  | fuel + 1, c :: rest => .literal c :: tokensFrom fuel rest

def Token.holds : Token → Char → Bool
  | .any, _ => true
  | .one, _ => true
  | .literal expected, c => expected = c
  | .oneOf negated ranges, c =>
      negated != ranges.any fun range => range.1 ≤ c && c ≤ range.2

def matchTokens : List Token → List Char → Bool
  | [], chars => chars.isEmpty
  | .any :: tokens, chars => chars.tails.any (matchTokens tokens)
  | token :: tokens, chars =>
      match chars with
      | [] => false
      | c :: rest => token.holds c && matchTokens tokens rest

/-- `fnmatch` on one name. -/
def fnmatch (pattern name : String) : Bool :=
  matchTokens (tokensFrom pattern.toList.length pattern.toList) name.toList

/-! ## Paths -/

/-- `Path.glob`: the names are matched from the first to the last. -/
def matchFromRoot : List String → List String → Bool
  | [], names => names.isEmpty
  | segment :: pattern, names =>
      if segment = "**" then
        names.tails.any (matchFromRoot pattern)
      else
        match names with
        | [] => false
        | name :: rest => fnmatch segment name && matchFromRoot pattern rest

/-- `PurePosixPath.match`: the last names are matched, as many as the pattern has. -/
def matchFromRight (pattern names : List String) : Bool :=
  pattern.length ≤ names.length &&
    (pattern.zip (names.drop (names.length - pattern.length))).all fun pair =>
      fnmatch pair.1 pair.2

/-- The pattern covers the names from the root, and `**` covers any number of them. -/
inductive Spans : List String → List String → Prop where
  | nil : Spans [] []
  | one {segment name pattern names} (hplain : segment ≠ "**")
      (hfits : fnmatch segment name = true) (hrest : Spans pattern names) :
      Spans (segment :: pattern) (name :: names)
  | many {pattern names rest} (hskipped : rest <:+ names) (hrest : Spans pattern rest) :
      Spans ("**" :: pattern) names

def FitsEnd (pattern names : List String) : Prop :=
  ∃ front back, front ++ back = names ∧
    List.Forall₂ (fun segment name => fnmatch segment name = true) pattern back

theorem matchFromRoot_iff {pattern names : List String} :
    matchFromRoot pattern names = true ↔ Spans pattern names := by
  induction pattern generalizing names with
  | nil =>
      simp only [matchFromRoot, List.isEmpty_iff]
      constructor
      · rintro rfl
        exact Spans.nil
      · intro hspans
        cases hspans
        rfl
  | cons segment pattern ih =>
      by_cases hstar : segment = "**"
      · subst hstar
        simp only [matchFromRoot, if_true, List.any_eq_true, List.mem_tails, ih]
        constructor
        · rintro ⟨rest, hskipped, hspans⟩
          exact Spans.many hskipped hspans
        · intro hspans
          cases hspans with
          | one hplain => exact absurd rfl hplain
          | many hskipped hrest => exact ⟨_, hskipped, hrest⟩
      · cases names with
        | nil =>
            simp only [matchFromRoot, hstar, if_false]
            constructor
            · intro hfalse
              cases hfalse
            · intro hspans
              cases hspans
              exact absurd rfl hstar
        | cons name names =>
            simp only [matchFromRoot, hstar, if_false, Bool.and_eq_true, ih]
            constructor
            · rintro ⟨hfits, hspans⟩
              exact Spans.one hstar hfits hspans
            · intro hspans
              cases hspans with
              | one hplain hfits hrest => exact ⟨hfits, hrest⟩
              | many => exact absurd rfl hstar

theorem matchFromRight_iff {pattern names : List String} :
    matchFromRight pattern names = true ↔ FitsEnd pattern names := by
  simp only [matchFromRight, Bool.and_eq_true, decide_eq_true_eq, List.all_eq_true]
  constructor
  · rintro ⟨hlength, hall⟩
    refine ⟨names.take (names.length - pattern.length),
      names.drop (names.length - pattern.length), List.take_append_drop _ _, ?_⟩
    rw [List.forall₂_iff_zip]
    constructor
    · rw [List.length_drop]
      omega
    · intro segment name hpair
      exact hall (segment, name) hpair
  · rintro ⟨front, back, rfl, hfits⟩
    rw [List.forall₂_iff_zip] at hfits
    have hcount : (front ++ back).length - pattern.length = front.length := by
      rw [List.length_append, hfits.1]
      omega
    rw [hcount, List.drop_left]
    constructor
    · rw [List.length_append, hfits.1]
      omega
    · intro pair hpair
      exact hfits.2 hpair

end GlobPatterns
