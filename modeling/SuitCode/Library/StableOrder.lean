import SuitCode.Library.KeyedTable

/-!
# The order in which items are met

An item precedes another in a list when it is met first.  A list without duplicates is told by
its items and this order, a stable sort keeps it among items of one key, and a keyed table which
is filled from a list has the order of the list.
-/

namespace StableOrder

open KeyedList

universe u v

variable {α : Type u}

def Precedes : List α → α → α → Prop
  | [], _, _ => False
  | head :: tail, first, second => head = first ∨ head ≠ second ∧ Precedes tail first second

section Order

variable {items left right : List α} {first second : α}

theorem mem_of_precedes (hprecedes : Precedes items first second) : first ∈ items := by
  induction items with
  | nil => exact hprecedes.elim
  | cons head tail ih =>
      cases hprecedes with
      | inl hhead =>
          rw [hhead]
          exact List.mem_cons_self
      | inr htail => exact List.mem_cons_of_mem _ (ih htail.2)

theorem precedes_of_not_mem (hfirst : first ∈ items) (hsecond : second ∉ items) :
    Precedes items first second := by
  induction items with
  | nil => exact absurd hfirst List.not_mem_nil
  | cons head tail ih =>
      rw [List.mem_cons, not_or] at hsecond
      cases List.mem_cons.mp hfirst with
      | inl hhead => exact Or.inl hhead.symm
      | inr htail => exact Or.inr ⟨Ne.symm hsecond.1, ih htail hsecond.2⟩

theorem precedes_append_iff :
    Precedes (left ++ right) first second ↔
      Precedes left first second ∨ second ∉ left ∧ Precedes right first second := by
  induction left with
  | nil => simp [Precedes]
  | cons head tail ih =>
      rw [List.cons_append, Precedes, Precedes, ih, List.mem_cons, not_or]
      by_cases hhead : head = first
      · simp [hhead]
      · by_cases hsecond : head = second
        · simp [hsecond]
        · simp [hhead, hsecond, Ne.symm hsecond]

theorem precedes_asymm (hne : first ≠ second) (hprecedes : Precedes items first second) :
    ¬ Precedes items second first := by
  induction items with
  | nil => exact hprecedes.elim
  | cons head tail ih =>
      intro hback
      cases hprecedes with
      | inl hhead =>
          cases hback with
          | inl hother => exact hne (hhead.symm.trans hother)
          | inr htail => exact htail.1 hhead
      | inr htail =>
          cases hback with
          | inl hother => exact htail.1 hother
          | inr hback => exact ih htail.2 hback.2

theorem precedes_total (hfirst : first ∈ items) (hsecond : second ∈ items) :
    Precedes items first second ∨ Precedes items second first := by
  induction items with
  | nil => exact absurd hfirst List.not_mem_nil
  | cons head tail ih =>
      by_cases hhead : head = first
      · exact Or.inl (Or.inl hhead)
      · by_cases hother : head = second
        · exact Or.inr (Or.inl hother)
        · have hfirst' := (List.mem_cons.mp hfirst).resolve_left (Ne.symm hhead)
          have hsecond' := (List.mem_cons.mp hsecond).resolve_left (Ne.symm hother)
          cases ih hfirst' hsecond' with
          | inl hprecedes => exact Or.inl (Or.inr ⟨hother, hprecedes⟩)
          | inr hprecedes => exact Or.inr (Or.inr ⟨hhead, hprecedes⟩)

theorem sublist_of_precedes (hsecond : second ∈ items) (hne : first ≠ second)
    (hprecedes : Precedes items first second) : [first, second].Sublist items := by
  induction items with
  | nil => exact hprecedes.elim
  | cons head tail ih =>
      cases hprecedes with
      | inl hhead =>
          have htail := (List.mem_cons.mp hsecond).resolve_left fun heq =>
            hne (hhead.symm.trans heq.symm)
          rw [hhead]
          exact (List.singleton_sublist.mpr htail).cons_cons first
      | inr htail =>
          have hsecond' := (List.mem_cons.mp hsecond).resolve_left (Ne.symm htail.1)
          exact (ih hsecond' htail.2).cons head

theorem pairwise_precedes (hnodup : items.Nodup) : items.Pairwise (Precedes items) := by
  induction items with
  | nil => exact List.Pairwise.nil
  | cons head tail ih =>
      rw [List.nodup_cons] at hnodup
      apply List.Pairwise.cons
      · intro other _
        exact Or.inl rfl
      · apply (ih hnodup.2).imp_of_mem
        intro first second _ hsecond hprecedes
        have hne : head ≠ second := by
          intro heq
          rw [heq] at hnodup
          exact hnodup.1 hsecond
        exact Or.inr ⟨hne, hprecedes⟩

theorem precedes_of_sublist (hnodup : items.Nodup)
    (hsublist : [first, second].Sublist items) : Precedes items first second :=
  List.pairwise_iff_forall_sublist.mp (pairwise_precedes hnodup) hsublist

theorem eq_iff_precedes (hnodup : left.Nodup) (hperm : left.Perm right) :
    left = right ↔ ∀ first ∈ left, ∀ second ∈ left, first ≠ second →
      Precedes left first second → Precedes right first second := by
  constructor
  · intro heq first _ second _ _ hprecedes
    rw [← heq]
    exact hprecedes
  · intro horder
    have hleft : left.Pairwise (Precedes right) := by
      have hboth := (pairwise_precedes hnodup).and hnodup
      apply hboth.imp_of_mem
      intro first second hfirst hsecond hpair
      exact horder first hfirst second hsecond hpair.2 hpair.1
    have hright := pairwise_precedes (hperm.nodup_iff.mp hnodup)
    apply hperm.eq_of_pairwise _ hleft hright
    intro first second _ _ hforward hback
    by_contra hne
    exact precedes_asymm hne hforward hback

end Order

/-! ## Sorting -/

section Sorting

variable {ν : Type v} [LinearOrder ν] {key : α → ν} {items : List α} {first second : α}

theorem nodup_sortedBy (hnodup : items.Nodup) : (sortedBy key items).Nodup :=
  (sortedBy_perm key items).nodup_iff.mpr hnodup

theorem key_le_of_precedes (hsecond : second ∈ items) (hne : first ≠ second)
    (hprecedes : Precedes (sortedBy key items) first second) : key first ≤ key second := by
  have hsublist := sublist_of_precedes (mem_sortedBy.mpr hsecond) hne hprecedes
  exact List.pairwise_iff_forall_sublist.mp (pairwise_sortedBy key items) hsublist

theorem precedes_sortedBy_iff (hnodup : items.Nodup) (hfirst : first ∈ items)
    (hsecond : second ∈ items) (hne : first ≠ second) :
    Precedes (sortedBy key items) first second ↔
      key first < key second ∨ key first = key second ∧ Precedes items first second := by
  have hstable : ∀ {one other : α}, one ∈ items → other ∈ items → one ≠ other →
      key one ≤ key other → Precedes items one other →
      Precedes (sortedBy key items) one other := by
    intro one other hone hother hdistinct hle hprecedes
    apply precedes_of_sublist (nodup_sortedBy hnodup)
    exact List.pair_sublist_insertionSort hle (sublist_of_precedes hother hdistinct hprecedes)
  constructor
  · intro hprecedes
    have hle := key_le_of_precedes hsecond hne hprecedes
    cases lt_or_eq_of_le hle with
    | inl hlt => exact Or.inl hlt
    | inr heq =>
        right
        constructor
        · exact heq
        · cases precedes_total hfirst hsecond with
          | inl hkept => exact hkept
          | inr hback =>
              have hsorted := hstable hsecond hfirst hne.symm heq.ge hback
              exact absurd hprecedes (precedes_asymm hne.symm hsorted)
  · intro horder
    cases horder with
    | inl hlt =>
        have htotal : Precedes (sortedBy key items) first second ∨
            Precedes (sortedBy key items) second first :=
          precedes_total (mem_sortedBy.mpr hfirst) (mem_sortedBy.mpr hsecond)
        cases htotal with
        | inl hprecedes => exact hprecedes
        | inr hback =>
            exact absurd hlt (not_lt.mpr (key_le_of_precedes hfirst hne.symm hback))
    | inr hsame => exact hstable hfirst hsecond hne hsame.1.le hsame.2

theorem filter_orderedInsert {sorted : List α}
    (hsorted : sorted.Pairwise fun left right => key left ≤ key right) (kept : α → Bool)
    (item : α) :
    (sorted.orderedInsert (fun left right => key left ≤ key right) item).filter kept =
      if kept item then
        (sorted.filter kept).orderedInsert (fun left right => key left ≤ key right) item
      else sorted.filter kept := by
  induction sorted with
  | nil =>
      cases hitem : kept item with
      | true => simp [hitem]
      | false => simp [hitem]
  | cons head tail ih =>
      have hhead := (List.pairwise_cons.mp hsorted).1
      have htail := ih (List.pairwise_cons.mp hsorted).2
      by_cases hle : key item ≤ key head
      · rw [List.orderedInsert, if_pos hle]
        cases hitem : kept item with
        | false => simp [hitem]
        | true =>
            rw [List.filter_cons_of_pos hitem, if_pos rfl]
            cases hrest : (head :: tail).filter kept with
            | nil => rfl
            | cons first rest =>
                have hfirst : first ∈ head :: tail := by
                  have hmem : first ∈ (head :: tail).filter kept := by simp [hrest]
                  exact List.mem_of_mem_filter hmem
                have hbelow : key item ≤ key first := by
                  cases List.mem_cons.mp hfirst with
                  | inl heq => rwa [heq]
                  | inr hlater => exact hle.trans (hhead first hlater)
                rw [List.orderedInsert, if_pos hbelow]
      · rw [List.orderedInsert, if_neg hle]
        cases hkept : kept head with
        | false => rw [List.filter_cons_of_neg (by simp [hkept]), htail,
            List.filter_cons_of_neg (by simp [hkept])]
        | true =>
            rw [List.filter_cons_of_pos hkept, htail, List.filter_cons_of_pos hkept]
            cases hitem : kept item with
            | false => rfl
            | true => rw [if_pos rfl, if_pos rfl, List.orderedInsert, if_neg hle]

/-- Sorting and filtering commute. -/
theorem filter_sortedBy (kept : α → Bool) (items : List α) :
    (sortedBy key items).filter kept = sortedBy key (items.filter kept) := by
  induction items with
  | nil => rfl
  | cons item items ih =>
      have hinsert : ∀ (first : α) (rest : List α), sortedBy key (first :: rest) =
          (sortedBy key rest).orderedInsert (fun left right => key left ≤ key right) first :=
        fun _ _ => rfl
      rw [hinsert, filter_orderedInsert (pairwise_sortedBy key items), ih]
      cases hitem : kept item with
      | false => rw [List.filter_cons_of_neg (by simp [hitem]), if_neg Bool.false_ne_true]
      | true => rw [List.filter_cons_of_pos hitem, if_pos rfl, hinsert]

theorem sortedBy_eq_sortedBy_iff {ξ : Type v} [LinearOrder ξ] {other : α → ξ}
    {left right : List α} (hnodup : right.Nodup) (hperm : right.Perm left) :
    sortedBy key left = sortedBy other right ↔
      ∀ first ∈ right, ∀ second ∈ right, first ≠ second →
        other first < other second ∨ other first = other second ∧ Precedes right first second →
        key first < key second ∨ key first = key second ∧ Precedes left first second := by
  have hleft := hperm.nodup_iff.mp hnodup
  have hsorted : (sortedBy other right).Perm (sortedBy key left) :=
    (sortedBy_perm other right).trans (hperm.trans (sortedBy_perm key left).symm)
  rw [eq_comm, eq_iff_precedes (nodup_sortedBy hnodup) hsorted]
  simp only [mem_sortedBy]
  apply forall_congr'
  intro first
  apply forall_congr'
  intro hfirst
  apply forall_congr'
  intro second
  apply forall_congr'
  intro hsecond
  apply forall_congr'
  intro hne
  rw [precedes_sortedBy_iff hnodup hfirst hsecond hne,
    precedes_sortedBy_iff hleft (hperm.mem_iff.mp hfirst) (hperm.mem_iff.mp hsecond) hne]

end Sorting

/-! ## Tables -/

section Tables

variable {κ : Type v} [DecidableEq κ] {key : α → κ} {written : List α}

theorem upsertAll_spec (hsame : ∀ row ∈ written, ∀ other ∈ written, key row = key other →
      row = other) :
    (∀ row, row ∈ ((KeyedTable.empty : KeyedTable key).upsertAll written).rows ↔
        row ∈ written) ∧
      ∀ first second, Precedes ((KeyedTable.empty : KeyedTable key).upsertAll written).rows
        first second ↔ Precedes written first second := by
  induction written using List.reverseRecOn with
  | nil => exact ⟨fun row => Iff.rfl, fun first second => Iff.rfl⟩
  | append_singleton written row ih =>
      obtain ⟨hmem, horder⟩ := ih fun one hone other hother =>
        hsame one (List.mem_append_left _ hone) other (List.mem_append_left _ hother)
      have hsnoc : (KeyedTable.empty : KeyedTable key).upsertAll (written ++ [row]) =
          ((KeyedTable.empty : KeyedTable key).upsertAll written).upsert row := by
        rw [KeyedTable.upsertAll, KeyedTable.upsertAll, List.foldl_append, List.foldl_cons,
          List.foldl_nil]
      by_cases hknown : row ∈ written
      · -- the row is there, so that nothing is written
        have hrow := (hmem row).mpr hknown
        rw [hsnoc, KeyedTable.upsert_of_mem hrow]
        constructor
        · intro other
          rw [hmem, List.mem_append, List.mem_singleton]
          constructor
          · exact Or.inl
          · intro hother
            cases hother with
            | inl hwritten => exact hwritten
            | inr heq =>
                rw [heq]
                exact hknown
        · intro first second
          rw [horder, precedes_append_iff]
          constructor
          · exact Or.inl
          · intro hcases
            cases hcases with
            | inl hprecedes => exact hprecedes
            | inr hlast =>
                have hfirst := List.mem_singleton.mp (mem_of_precedes hlast.2)
                rw [hfirst]
                exact precedes_of_not_mem hknown hlast.1
      · have habsent : key row ∉
            ((KeyedTable.empty : KeyedTable key).upsertAll written).rows.map key := by
          intro hkey
          obtain ⟨other, hother, heq⟩ := List.mem_map.mp hkey
          have hwritten := (hmem other).mp hother
          have hrow := hsame other (List.mem_append_left _ hwritten) row (by simp) heq
          rw [hrow] at hwritten
          exact hknown hwritten
        have hrows : (((KeyedTable.empty : KeyedTable key).upsertAll written).upsert row).rows =
            ((KeyedTable.empty : KeyedTable key).upsertAll written).rows ++ [row] :=
          KeyedTable.upsertRows_of_absent habsent
        rw [hsnoc, hrows]
        constructor
        · intro other
          rw [List.mem_append, List.mem_append, hmem]
        · intro first second
          rw [precedes_append_iff, precedes_append_iff, horder, hmem]

end Tables

/-! ## Files -/

section Files

variable {σ : Type u} {ν : Type v} [LinearOrder ν] {name : σ → ν} {lines : σ → List α}
  {first second : α}

theorem precedes_flatMap_iff {files : List σ}
    (hsorted : files.Pairwise fun left right => name left < name right) :
    Precedes (files.flatMap lines) first second ↔
      ∃ file ∈ files, first ∈ lines file ∧ ∀ other ∈ files, second ∈ lines other →
        name file < name other ∨ file = other ∧ Precedes (lines file) first second := by
  induction files with
  | nil => simp [Precedes]
  | cons head tail ih =>
      rw [List.pairwise_cons] at hsorted
      rw [List.flatMap_cons, precedes_append_iff, ih hsorted.2]
      constructor
      · intro hcases
        cases hcases with
        | inl hhead =>
            use head, List.mem_cons_self, mem_of_precedes hhead
            intro other hother _
            cases List.mem_cons.mp hother with
            | inl heq => exact Or.inr ⟨heq.symm, hhead⟩
            | inr htail => exact Or.inl (hsorted.1 other htail)
        | inr hlater =>
            obtain ⟨habsent, file, hfile, hfirst, hothers⟩ := hlater
            use file, List.mem_cons_of_mem _ hfile, hfirst
            intro other hother hsecond
            cases List.mem_cons.mp hother with
            | inl heq =>
                rw [heq] at hsecond
                exact absurd hsecond habsent
            | inr htail => exact hothers other htail hsecond
      · intro hfound
        obtain ⟨file, hfile, hfirst, hothers⟩ := hfound
        by_cases hsecond : second ∈ lines head
        · left
          cases hothers head List.mem_cons_self hsecond with
          | inl hlt =>
              cases List.mem_cons.mp hfile with
              | inl heq =>
                  rw [heq] at hlt
                  exact absurd hlt (lt_irrefl _)
              | inr htail => exact absurd hlt (lt_asymm (hsorted.1 file htail))
          | inr hsame =>
              rw [← hsame.1]
              exact hsame.2
        · cases List.mem_cons.mp hfile with
          | inl heq =>
              left
              rw [heq] at hfirst
              exact precedes_of_not_mem hfirst hsecond
          | inr htail =>
              right
              use hsecond, file, htail, hfirst
              intro other hother
              exact hothers other (List.mem_cons_of_mem _ hother)

end Files

end StableOrder
