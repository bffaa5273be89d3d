import Mathlib.Data.List.Basic
import Mathlib.Order.Lattice

/-!
# Outlines

The items of an outline stand on ascending lines, each at a level.  An item covers the lines
up to the next item which is not deeper.  Two such ranges are nested or apart, and the later
one is nested exactly when all items up to it are deeper.
-/

namespace Outlines

universe u v

variable {α : Type u} {δ : Type v} [LinearOrder δ]

def lastLine (level : α → δ) (line : α → ℕ) (total : ℕ) (item : α) (rest : List α) : ℕ :=
  match rest.find? fun next => level next ≤ level item with
  | some next => line next - 1
  | none => total

/-- The items stand on ascending lines, none of them behind the last line. -/
structure Ascending (line : α → ℕ) (total : ℕ) (items : List α) : Prop where
  sorted : items.Pairwise fun earlier later => line earlier < line later
  bounded : ∀ item ∈ items, line item ≤ total

variable {level : α → δ} {line : α → ℕ} {total : ℕ}

variable {rest : List α}

theorem Ascending.tail {item : α} (hitems : Ascending line total (item :: rest)) :
    Ascending line total rest := by
  constructor
  · exact (List.pairwise_cons.mp hitems.sorted).2
  · intro other hother
    exact hitems.bounded other (List.mem_cons_of_mem _ hother)

theorem Ascending.drop {items : List α} (hitems : Ascending line total items) (count : ℕ) :
    Ascending line total (items.drop count) := by
  constructor
  · exact hitems.sorted.sublist (List.drop_sublist _ _)
  · intro item hitem
    exact hitems.bounded item (List.mem_of_mem_drop hitem)

theorem Ascending.head_lt {item other : α} (hitems : Ascending line total (item :: rest))
    (hother : other ∈ rest) :
    line item < line other :=
  (List.pairwise_cons.mp hitems.sorted).1 other hother

theorem Ascending.exists_find_le {items : List α} (hitems : Ascending line total items)
    (wide : α → Bool) {found : α} (hmem : found ∈ items) (hwide : wide found = true) :
    ∃ first, items.find? wide = some first ∧ first ∈ items ∧ line first ≤ line found := by
  induction items with
  | nil => simp at hmem
  | cons item rest ih =>
      by_cases hitem : wide item = true
      · refine ⟨item, List.find?_cons_of_pos hitem, List.mem_cons_self, ?_⟩
        cases List.mem_cons.mp hmem with
        | inl heq => exact Nat.le_of_eq (congrArg line heq.symm)
        | inr hrest => exact Nat.le_of_lt (hitems.head_lt hrest)
      · have hne : found ≠ item := by
          intro heq
          rw [heq] at hwide
          exact hitem hwide
        have hrest : found ∈ rest := by
          cases List.mem_cons.mp hmem with
          | inl heq => exact absurd heq hne
          | inr hrest => exact hrest
        obtain ⟨first, hfirst, hin, hle⟩ := ih hitems.tail hrest
        refine ⟨first, ?_, List.mem_cons_of_mem _ hin, hle⟩
        rw [List.find?_cons_of_neg hitem]
        exact hfirst

theorem le_lastLine {item : α} (hitems : Ascending line total (item :: rest)) :
    line item ≤ lastLine level line total item rest := by
  unfold lastLine
  cases hfind : rest.find? fun next => level next ≤ level item with
  | none => exact hitems.bounded item List.mem_cons_self
  | some next =>
      have hlt := hitems.head_lt (List.mem_of_find?_eq_some hfind)
      simp only
      omega

theorem lastLine_le_total {item : α} (hitems : Ascending line total (item :: rest)) :
    lastLine level line total item rest ≤ total := by
  unfold lastLine
  cases hfind : rest.find? fun next => level next ≤ level item with
  | none => exact Nat.le_refl total
  | some next =>
      have hle := hitems.tail.bounded next (List.mem_of_find?_eq_some hfind)
      simp only
      omega

theorem lastLine_lt {item other : α} (hitems : Ascending line total (item :: rest))
    (hother : other ∈ rest) (hlevel : level other ≤ level item) :
    lastLine level line total item rest < line other := by
  obtain ⟨first, hfirst, hin, hle⟩ :=
    hitems.tail.exists_find_le (fun next => level next ≤ level item) hother
      (decide_eq_true hlevel)
  have hlt := hitems.head_lt hin
  unfold lastLine
  rw [hfirst]
  simp only
  omega

theorem lastLine_le_lastLine {item other : α} {middle back : List α}
    (hitems : Ascending line total (item :: (middle ++ other :: back)))
    (hdeeper : ∀ next ∈ middle ++ [other], level item < level next) :
    lastLine level line total other back ≤
      lastLine level line total item (middle ++ other :: back) := by
  have hback : Ascending line total (other :: back) := by
    constructor
    · exact (List.pairwise_append.mp hitems.tail.sorted).2.1
    · intro next hnext
      exact hitems.tail.bounded next (List.mem_append_right _ hnext)
  have hfind : (middle ++ other :: back).find? (fun next => level next ≤ level item) =
      back.find? fun next => level next ≤ level item := by
    have hsplit : middle ++ other :: back = (middle ++ [other]) ++ back := by simp
    have hnone : (middle ++ [other]).find? (fun next => level next ≤ level item) = none := by
      rw [List.find?_eq_none]
      intro next hnext
      simpa using hdeeper next hnext
    rw [hsplit, List.find?_append, hnone, Option.none_or]
  cases hnext : back.find? fun next => level next ≤ level item with
  | none =>
      have houter : lastLine level line total item (middle ++ other :: back) = total := by
        unfold lastLine
        rw [hfind, hnext]
      rw [houter]
      exact lastLine_le_total hback
  | some next =>
      have houter : lastLine level line total item (middle ++ other :: back) = line next - 1 := by
        unfold lastLine
        rw [hfind, hnext]
      have hlevel : level next ≤ level item := by
        simpa using List.find?_some hnext
      have hother : level item < level other := hdeeper other (by simp)
      have hlt := lastLine_lt hback (List.mem_of_find?_eq_some hnext)
        (le_trans hlevel (le_of_lt hother))
      rw [houter]
      omega

/-! ## Two items by their places -/

section Places

variable {items : List α} {i j : ℕ} {item other : α}

theorem exists_between (hij : i < j) (hitem : items[i]? = some item)
    (hother : items[j]? = some other) :
    ∃ middle, items.drop i = item :: (middle ++ other :: items.drop (j + 1)) ∧
      ∀ next, next ∈ middle ++ [other] ↔ ∃ k, i < k ∧ k ≤ j ∧ items[k]? = some next := by
  obtain ⟨hi, hitem⟩ := List.getElem?_eq_some_iff.mp hitem
  obtain ⟨hj, hother⟩ := List.getElem?_eq_some_iff.mp hother
  refine ⟨(items.drop (i + 1)).take (j - (i + 1)), ?_, ?_⟩
  · have hdrop : items.drop (i + 1) =
        (items.drop (i + 1)).take (j - (i + 1)) ++ other :: items.drop (j + 1) := by
      have hrest : (items.drop (i + 1)).drop (j - (i + 1)) = other :: items.drop (j + 1) := by
        rw [List.drop_drop, ← hother, ← List.drop_eq_getElem_cons hj]
        congr 1
        omega
      rw [← hrest, List.take_append_drop]
    rw [← hdrop, ← hitem, ← List.drop_eq_getElem_cons hi]
  · intro next
    have htaken : (items.drop (i + 1)).take (j - (i + 1)) ++ [other] =
        (items.drop (i + 1)).take (j - i) := by
      have hcount : j - i = j - (i + 1) + 1 := by omega
      have hlength : j - (i + 1) < (items.drop (i + 1)).length := by
        rw [List.length_drop]
        omega
      have hlast : (items.drop (i + 1))[j - (i + 1)] = other := by
        rw [List.getElem_drop, ← hother]
        congr 1
        omega
      rw [hcount, ← hlast, List.take_append_getElem]
    rw [htaken, List.mem_iff_getElem?]
    constructor
    · rintro ⟨k, hk⟩
      rw [List.getElem?_take] at hk
      split at hk
      · rw [List.getElem?_drop] at hk
        exact ⟨i + 1 + k, by omega, by omega, hk⟩
      · cases hk
    · rintro ⟨k, hik, hkj, hk⟩
      refine ⟨k - (i + 1), ?_⟩
      rw [List.getElem?_take, if_pos (by omega), List.getElem?_drop, ← hk]
      congr 1
      omega

/-- An item ends within an earlier one exactly where everything behind that one, up to it, is
deeper. -/
theorem nested_iff (hitems : Ascending line total items) (hij : i < j)
    (hitem : items[i]? = some item) (hother : items[j]? = some other) :
    lastLine level line total other (items.drop (j + 1)) ≤
        lastLine level line total item (items.drop (i + 1)) ↔
      ∀ k next, i < k → k ≤ j → items[k]? = some next → level item < level next := by
  obtain ⟨middle, hsplit, hbetween⟩ := exists_between hij hitem hother
  have hrest : items.drop (i + 1) = middle ++ other :: items.drop (j + 1) := by
    rw [← List.drop_drop, hsplit]
    rfl
  have hascending : Ascending line total (item :: (middle ++ other :: items.drop (j + 1))) := by
    rw [← hsplit]
    exact hitems.drop i
  have hback : Ascending line total (other :: items.drop (j + 1)) := by
    obtain ⟨hj, hother⟩ := List.getElem?_eq_some_iff.mp hother
    rw [← hother, ← List.drop_eq_getElem_cons hj]
    exact hitems.drop j
  rw [hrest]
  constructor
  · intro hle k next hik hkj hnext
    by_contra hlevel
    rw [not_lt] at hlevel
    have hmem : next ∈ middle ++ [other] := (hbetween next).mpr ⟨k, hik, hkj, hnext⟩
    have hlast : lastLine level line total item (middle ++ other :: items.drop (j + 1)) <
        line next := by
      apply lastLine_lt hascending _ hlevel
      rw [List.mem_append, List.mem_singleton] at hmem
      rw [List.mem_append, List.mem_cons]
      exact hmem.imp_right Or.inl
    have hnextLine : line next ≤ line other := by
      rw [List.mem_append, List.mem_singleton] at hmem
      cases hmem with
      | inl hin =>
          exact Nat.le_of_lt ((List.pairwise_append.mp hascending.tail.sorted).2.2 next hin other
            List.mem_cons_self)
      | inr heq => exact Nat.le_of_eq (congrArg line heq)
    have hown : line other ≤ lastLine level line total other (items.drop (j + 1)) :=
      le_lastLine hback
    omega
  · intro hdeeper
    apply lastLine_le_lastLine hascending
    intro next hnext
    obtain ⟨k, hik, hkj, hk⟩ := (hbetween next).mp hnext
    exact hdeeper k next hik hkj hk

theorem lastLine_lt_of_not_nested (hitems : Ascending line total items) (hij : i < j)
    (hitem : items[i]? = some item) (hother : items[j]? = some other)
    (hnot : ¬ lastLine level line total other (items.drop (j + 1)) ≤
      lastLine level line total item (items.drop (i + 1))) :
    lastLine level line total item (items.drop (i + 1)) < line other := by
  rw [nested_iff hitems hij hitem hother] at hnot
  push Not at hnot
  obtain ⟨k, next, hik, hkj, hnext, hlevel⟩ := hnot
  obtain ⟨middle, hsplit, hbetween⟩ := exists_between hij hitem hother
  have hascending : Ascending line total (item :: items.drop (i + 1)) := by
    obtain ⟨hi, hitem⟩ := List.getElem?_eq_some_iff.mp hitem
    rw [← hitem, ← List.drop_eq_getElem_cons hi]
    exact hitems.drop i
  have hmem : next ∈ items.drop (i + 1) := by
    rw [List.mem_iff_getElem?]
    refine ⟨k - (i + 1), ?_⟩
    rw [List.getElem?_drop, ← hnext]
    congr 1
    omega
  have hlast := lastLine_lt hascending hmem hlevel
  have hnextLine : line next ≤ line other := by
    obtain ⟨hk, hnext⟩ := List.getElem?_eq_some_iff.mp hnext
    obtain ⟨hj, hother⟩ := List.getElem?_eq_some_iff.mp hother
    rcases Nat.lt_or_eq_of_le hkj with hlt | heq
    · rw [← hnext, ← hother]
      exact Nat.le_of_lt (List.pairwise_iff_getElem.mp hitems.sorted k j hk hj hlt)
    · subst heq
      exact Nat.le_of_eq (congrArg line (hnext.symm.trans hother))
  omega

end Places

end Outlines
