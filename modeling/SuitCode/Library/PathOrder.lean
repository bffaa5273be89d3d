import SuitCode.Library.PosixNormalForm

/-!
# Paths below a root

A prefix test on the texts of two paths is a prefix test on their pieces.  Two texts of
one path may have different pieces, since a piece may be empty or a dot, and then the
test on the texts fails where one path lies below the other.
-/

namespace PosixText

def LiesUnder (root path : String) : Prop := segments root <+: segments path

def SpelledUnder (root path : String) : Prop := pieces root <+: pieces path

def IsPlain (path : String) : Prop := segments path = pieces path

instance (root path : String) : Decidable (LiesUnder root path) :=
  inferInstanceAs (Decidable (segments root <+: segments path))

instance (root path : String) : Decidable (SpelledUnder root path) :=
  inferInstanceAs (Decidable (pieces root <+: pieces path))

instance (path : String) : Decidable (IsPlain path) :=
  inferInstanceAs (Decidable (segments path = pieces path))

/-- Joined pieces are joined at a slash. -/
theorem join_slash_append {front back : List String} (hfront : front ≠ [])
    (hback : back ≠ []) :
    join "/" (front ++ back) = join "/" front ++ "/" ++ join "/" back := by
  induction front with
  | nil => exact absurd rfl hfront
  | cons part front ih =>
      cases front with
      | nil =>
          cases back with
          | nil => exact absurd rfl hback
          | cons next back => rfl
      | cons next front =>
          have htail := ih (by simp)
          simp only [List.cons_append, join] at htail ⊢
          rw [htail]
          simp only [String.append_assoc]

theorem pieces_append_slash (root rest : String) :
    pieces (root ++ "/" ++ rest) = pieces root ++ pieces rest := by
  have hjoin : root ++ "/" ++ rest = join "/" (pieces root ++ pieces rest) := by
    rw [join_slash_append (pieces_ne_nil root) (pieces_ne_nil rest), join_pieces, join_pieces]
  rw [hjoin]
  apply pieces_join
  · simp [pieces_ne_nil root]
  · intro part hpart
    rw [List.mem_append] at hpart
    cases hpart with
    | inl hroot => exact slash_not_mem_of_mem_pieces hroot
    | inr hrest => exact slash_not_mem_of_mem_pieces hrest

theorem startsWith_iff_exists_append {text start : String} :
    startsWith text start = true ↔ ∃ rest, text = start ++ rest := by
  simp only [startsWith, List.isPrefixOf_iff_prefix]
  constructor
  · rintro ⟨rest, hrest⟩
    use String.ofList rest
    apply String.toList_injective
    simp [hrest]
  · rintro ⟨rest, rfl⟩
    simp

theorem isAtOrBelow_iff {path root : String} :
    isAtOrBelow path root = true ↔ SpelledUnder root path := by
  simp only [isAtOrBelow, Bool.or_eq_true, decide_eq_true_eq, startsWith_iff_exists_append]
  constructor
  · intro hbelow
    cases hbelow with
    | inl heq =>
        subst heq
        exact List.prefix_rfl
    | inr hrest =>
        rcases hrest with ⟨rest, rfl⟩
        unfold SpelledUnder
        rw [pieces_append_slash]
        exact List.prefix_append _ _
  · rintro ⟨rest, hrest⟩
    have hpath := join_pieces path
    by_cases hnil : rest = []
    · left
      rw [← hpath, ← hrest, hnil, List.append_nil, join_pieces]
    · right
      use join "/" rest
      rw [← hpath, ← hrest, join_slash_append (pieces_ne_nil root) hnil, join_pieces]

end PosixText
