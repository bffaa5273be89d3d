import Mathlib.Data.List.Infix
import Mathlib.Data.List.Basic

/-!
# LIKE patterns

In a pattern of SQL's `LIKE` a percent sign stands for any text and an underscore for any one
character; another character stands for itself, whatever the case of an ASCII letter.  A pattern
which ends in a percent sign matches every text which begins with what is in front of it, and
nothing else where this is literal.
-/

namespace LikePatterns

/-- Whether `text LIKE pattern`. -/
def likeMatches : List Char → List Char → Bool
  | [], text => text.isEmpty
  | c :: pattern, text =>
      if c = '%' then
        text.tails.any (likeMatches pattern)
      else
        match text with
        | [] => false
        | d :: text => (c = '_' || c.toLower = d.toLower) && likeMatches pattern text

def Begins (start text : List Char) : Prop := start.map Char.toLower <+: text.map Char.toLower

instance (start text : List Char) : Decidable (Begins start text) :=
  inferInstanceAs (Decidable (start.map Char.toLower <+: text.map Char.toLower))

theorem likeMatches_cons_percent (pattern text : List Char) :
    likeMatches ('%' :: pattern) text = text.tails.any (likeMatches pattern) := by
  rw [likeMatches.eq_def]
  simp only [if_true]

theorem likeMatches_cons_cons {c d : Char} (hpercent : c ≠ '%') (pattern text : List Char) :
    likeMatches (c :: pattern) (d :: text) =
      ((c = '_' || c.toLower = d.toLower) && likeMatches pattern text) := by
  rw [likeMatches.eq_def]
  simp only [hpercent, if_false]

theorem likeMatches_percent (text : List Char) : likeMatches ['%'] text = true := by
  rw [likeMatches_cons_percent, List.any_eq_true]
  use []
  constructor
  · exact (List.mem_tails [] text).mpr (List.nil_suffix)
  · rfl

/-- A text is matched by what it begins with and a `%`. -/
theorem likeMatches_of_begins {start text : List Char} (hbegins : Begins start text) :
    likeMatches (start ++ ['%']) text = true := by
  induction start generalizing text with
  | nil => exact likeMatches_percent text
  | cons c start ih =>
      cases text with
      | nil => simp [Begins] at hbegins
      | cons d text =>
          simp only [Begins, List.map_cons, List.cons_prefix_cons] at hbegins
          have hrest := ih hbegins.2
          rw [List.cons_append]
          by_cases hpercent : c = '%'
          · rw [hpercent, likeMatches_cons_percent, List.any_eq_true]
            use text
            constructor
            · exact (List.mem_tails text (d :: text)).mpr (List.suffix_cons d text)
            · exact hrest
          · rw [likeMatches_cons_cons hpercent]
            simp [hbegins.1, hrest]

end LikePatterns
