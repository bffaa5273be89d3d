import SuitCode.Library.KeyedList
import Mathlib.Data.List.Induction

/-!
# First occurrences

What becomes of the first elements of all keys when items come behind them: a
list of distinct items adds those whose keys are new, and the elements which
were kept stay in front.
-/

namespace KeyedList

universe u v

variable {α : Type u} {κ : Type v} [DecidableEq κ]

theorem dedupeFrom_sublist (key : α → κ) (seen : List κ) (items : List α) :
    (dedupeFrom key seen items).Sublist items := by
  induction items generalizing seen with
  | nil => exact List.Sublist.refl _
  | cons item items ih =>
      unfold dedupeFrom
      split
      · exact (ih seen).cons item
      · exact (ih (key item :: seen)).cons_cons item

theorem length_dedupeBy_eq_iff {items : List κ} :
    (dedupeBy id items).length = items.length ↔ items.Nodup := by
  have hsublist := dedupeFrom_sublist id [] items
  constructor
  · intro hlength
    have hnodup := nodup_map_dedupeBy id items
    rw [List.map_id] at hnodup
    rwa [← hsublist.eq_of_length hlength]
  · intro hnodup
    have hperm : (dedupeBy id items).Perm items := by
      rw [List.perm_ext_iff_of_nodup _ hnodup]
      · intro item
        exact mem_dedupeBy_id
      · have hkept := nodup_map_dedupeBy id items
        rwa [List.map_id] at hkept
    exact hperm.length_eq

/-- Items of different keys are appended but for the keys which are there. -/
theorem dedupeBy_append_of_nodup (key : α → κ) (front : List α) {back : List α}
    (hdistinct : (back.map key).Nodup) :
    dedupeBy key (front ++ back) =
      dedupeBy key front ++ back.filter fun item => key item ∉ front.map key := by
  have hfrom : ∀ (seen : List κ) (back : List α), (back.map key).Nodup →
      dedupeFrom key seen back = back.filter fun item => key item ∉ seen := by
    intro seen back hnodup
    induction back generalizing seen with
    | nil => rfl
    | cons item back ih =>
        rw [List.map_cons, List.nodup_cons] at hnodup
        rw [dedupeFrom]
        by_cases hseen : key item ∈ seen
        · rw [if_pos hseen, ih seen hnodup.2, List.filter_cons_of_neg (by simp [hseen])]
        · rw [if_neg hseen, ih _ hnodup.2, List.filter_cons_of_pos (by simp [hseen])]
          congr 1
          apply List.filter_congr
          intro other hother
          have hne : key other ≠ key item := by
            intro heq
            exact hnodup.1 (heq ▸ List.mem_map_of_mem hother)
          simp [hne]
  have happend : ∀ (seen : List κ) (front : List α), dedupeFrom key seen (front ++ back) =
      dedupeFrom key seen front ++
        back.filter fun item => key item ∉ seen ∧ key item ∉ front.map key := by
    intro seen front
    induction front generalizing seen with
    | nil => simpa [dedupeFrom] using hfrom seen back hdistinct
    | cons item front ih =>
        rw [List.cons_append, dedupeFrom, dedupeFrom]
        by_cases hseen : key item ∈ seen
        · rw [if_pos hseen, if_pos hseen, ih]
          congr 1
          apply List.filter_congr
          intro other _
          by_cases heq : key other = key item
          · simp [heq, hseen]
          · simp [heq]
        · rw [if_neg hseen, if_neg hseen, ih, List.cons_append]
          congr 2
          apply List.filter_congr
          intro other _
          by_cases heq : key other = key item
          · simp [heq]
          · simp [heq]
  simpa [dedupeBy] using happend [] front

theorem dedupeBy_concat (key : α → κ) (front : List α) (item : α) :
    dedupeBy key (front ++ [item]) =
      if key item ∈ front.map key then dedupeBy key front else dedupeBy key front ++ [item] := by
  have hdistinct : ([item].map key).Nodup := List.nodup_singleton (key item)
  rw [dedupeBy_append_of_nodup key front hdistinct]
  by_cases hseen : key item ∈ front.map key
  · rw [if_pos hseen, List.filter_cons_of_neg (by simpa using hseen)]
    simp
  · rw [if_neg hseen, List.filter_cons_of_pos (by simpa using hseen)]
    rfl

theorem dedupeBy_prefix (key : α → κ) (front back : List α) :
    dedupeBy key front <+: dedupeBy key (front ++ back) := by
  induction back using List.reverseRecOn with
  | nil => exact ⟨[], by rw [List.append_nil, List.append_nil]⟩
  | append_singleton back item ih =>
      rw [← List.append_assoc, dedupeBy_concat]
      split
      · exact ih
      · exact ih.trans (List.prefix_append _ _)

end KeyedList
