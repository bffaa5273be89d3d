import SuitCode.Library.PosixText

/-!
# Lines of a text

The lines `str.splitlines` makes of a text, and what universal newlines make of the characters
of a file which is read as text.
-/

namespace PythonLines

/-- The characters at which `splitlines` ends a line. -/
def isBoundary (c : Char) : Bool :=
  c.toNat ∈ [0x0a, 0x0b, 0x0c, 0x0d, 0x1c, 0x1d, 0x1e, 0x85, 0x2028, 0x2029]

/-- `text.splitlines()`; a carriage return and the line feed behind it end one line. -/
def splitLines : List Char → List (List Char)
  | [] => []
  | '\r' :: '\n' :: chars => [] :: splitLines chars
  | c :: chars =>
      if isBoundary c then [] :: splitLines chars
      else
        match splitLines chars with
        | [] => [[c]]
        | line :: lines => (c :: line) :: lines

def universalNewlines : List Char → List Char
  | [] => []
  | '\r' :: '\n' :: chars => '\n' :: universalNewlines chars
  | c :: chars => (if c = '\r' then '\n' else c) :: universalNewlines chars

theorem splitLines_ne_nil {chars : List Char} (hchars : chars ≠ []) : splitLines chars ≠ [] := by
  cases chars using splitLines.fun_cases_unfolding with
  | case1 => exact absurd rfl hchars
  | case2 => simp
  | case3 => simp
  | case4 => simp
  | case5 => simp

theorem splitLines_cons {c : Char} {chars : List Char}
    (hpair : c = '\r' → chars.head? ≠ some '\n') :
    splitLines (c :: chars) =
      if isBoundary c then [] :: splitLines chars
      else
        match splitLines chars with
        | [] => [[c]]
        | line :: lines => (c :: line) :: lines := by
  apply splitLines.eq_3
  intro rest hc hchars
  exact hpair hc (by rw [hchars]; rfl)

theorem splitLines_append_singleton {c : Char} (hc : isBoundary c = false) (chars : List Char) :
    ∃ front line, splitLines (chars ++ [c]) = front ++ [line ++ [c]] := by
  have hfeed : c ≠ '\n' := by
    rintro rfl
    cases hc
  have hunfold : ∀ {head : Char} {chars : List Char},
      (∀ rest, head = '\r' → chars = '\n' :: rest → False) →
        head = '\r' → (chars ++ [c]).head? ≠ some '\n' := by
    intro head chars hpair hhead
    cases chars with
    | nil => simpa using hfeed
    | cons next rest =>
        intro hnext
        exact hpair rest hhead (by rw [Option.some.inj hnext])
  fun_induction splitLines chars with
  | case1 =>
      use [], []
      rw [List.nil_append, splitLines_cons (by simp), if_neg (by simp [hc])]
      rfl
  | case2 chars ih =>
      obtain ⟨front, line, hlines⟩ := ih
      use [] :: front, line
      simp [splitLines, hlines]
  | case3 head chars hpair hhead ih =>
      obtain ⟨front, line, hlines⟩ := ih
      use [] :: front, line
      rw [List.cons_append, splitLines_cons (hunfold hpair), if_pos hhead, hlines]
      rfl
  | case4 head chars hpair hhead hnil ih =>
      obtain ⟨front, line, hlines⟩ := ih
      have hempty : chars = [] := by
        by_contra hne
        exact splitLines_ne_nil hne hnil
      rw [hempty] at hpair ⊢
      use [], [head]
      rw [List.cons_append, splitLines_cons (hunfold hpair), if_neg hhead, List.nil_append,
        splitLines_cons (by simp), if_neg (by simp [hc])]
      rfl
  | case5 head chars hpair hhead first lines hcons ih =>
      obtain ⟨front, line, hlines⟩ := ih
      rw [List.cons_append, splitLines_cons (hunfold hpair), if_neg hhead, hlines]
      cases front with
      | nil =>
          use [], head :: line
          rfl
      | cons start front =>
          use (head :: start) :: front, line
          rfl

end PythonLines
