import SuitCode.Library.KeyedTable

/-!
# Tables filled row by row

Rows are put into a table one after another, each over the row of its key.  The keys of the
table are those of the rows, in the order in which they come first.
-/

namespace KeyedTable

open KeyedList

universe u v

variable {ρ : Type u} {κ : Type v} [DecidableEq κ]

def fill (key : ρ → κ) (rows : List ρ) : List ρ :=
  rows.foldl (fun kept row => upsertRows key row kept) []

theorem fill_concat (key : ρ → κ) (rows : List ρ) (row : ρ) :
    fill key (rows ++ [row]) = upsertRows key row (fill key rows) := by
  simp [fill]

variable {key : ρ → κ} {row : ρ} {rows : List ρ}

theorem eq_or_mem_of_mem_upsertRows {other : ρ} (hmem : other ∈ upsertRows key row rows) :
    other = row ∨ other ∈ rows := by
  induction rows with
  | nil => exact .inl (List.mem_singleton.mp hmem)
  | cons head rows ih =>
      rw [upsertRows] at hmem
      by_cases hkey : key head = key row
      · rw [if_pos hkey, List.mem_cons] at hmem
        exact hmem.imp_right (List.mem_cons_of_mem _)
      · rw [if_neg hkey, List.mem_cons] at hmem
        cases hmem with
        | inl heq =>
            rw [heq]
            exact .inr List.mem_cons_self
        | inr htail => exact (ih htail).imp_right (List.mem_cons_of_mem _)

theorem mem_of_mem_fill (hmem : row ∈ fill key rows) :
    row ∈ rows := by
  induction rows using List.reverseRecOn with
  | nil => cases hmem
  | append_singleton rows last ih =>
      rw [fill_concat] at hmem
      cases eq_or_mem_of_mem_upsertRows hmem with
      | inl heq =>
          rw [heq]
          exact List.mem_concat_self
      | inr hkept => exact List.mem_append_left _ (ih hkept)

def LastOfKey (key : ρ → κ) (rows : List ρ) (row : ρ) : Prop :=
  ∃ front back, rows = front ++ row :: back ∧ ∀ later ∈ back, key later ≠ key row

theorem nodup_map_key_fill (key : ρ → κ) (rows : List ρ) : ((fill key rows).map key).Nodup := by
  induction rows using List.reverseRecOn with
  | nil => exact List.nodup_nil
  | append_singleton rows last ih =>
      rw [fill_concat]
      exact nodup_upsertRows ih

omit [DecidableEq κ] in
theorem lastOfKey_concat {last : ρ} :
    LastOfKey key (rows ++ [last]) row ↔
      row = last ∨ (LastOfKey key rows row ∧ key row ≠ key last) := by
  constructor
  · rintro ⟨front, back, heq, hlater⟩
    cases back using List.reverseRecOn with
    | nil => exact .inl (List.append_inj_right' heq rfl |> List.singleton_inj.mp).symm
    | append_singleton back other =>
        rw [← List.cons_append, ← List.append_assoc] at heq
        have hlast : last = other := List.singleton_inj.mp (List.append_inj_right' heq rfl)
        have hrows := List.append_inj_left' heq rfl
        rw [← hlast] at hlater
        right
        constructor
        · use front, back
          constructor
          · exact hrows
          · intro later hmem
            exact hlater later (List.mem_append_left _ hmem)
        · intro hsame
          exact hlater last List.mem_concat_self hsame.symm
  · intro hrow
    cases hrow with
    | inl heq =>
        rw [heq]
        exact ⟨rows, [], rfl, by simp⟩
    | inr hrow =>
        obtain ⟨⟨front, back, rfl, hlater⟩, hne⟩ := hrow
        use front, back ++ [last]
        constructor
        · simp
        · intro later hmem
          rw [List.mem_append, List.mem_singleton] at hmem
          cases hmem with
          | inl hback => exact hlater later hback
          | inr heq =>
              rw [heq]
              exact hne.symm

/-- A filled table has the last row of each key. -/
theorem mem_fill_iff :
    row ∈ fill key rows ↔ LastOfKey key rows row := by
  induction rows using List.reverseRecOn with
  | nil =>
      constructor
      · intro hmem
        cases hmem
      · rintro ⟨front, back, heq, -⟩
        simp at heq
  | append_singleton rows last ih =>
      rw [fill_concat, mem_upsertRows (nodup_map_key_fill key rows), lastOfKey_concat, ih]

theorem map_key_fill_sublist (key : ρ → κ) (rows : List ρ) :
    ((fill key rows).map key).Sublist (rows.map key) := by
  induction rows using List.reverseRecOn with
  | nil => exact .slnil
  | append_singleton rows last ih =>
      rw [fill_concat, map_key_upsertRows, List.map_append]
      by_cases hmem : key last ∈ (fill key rows).map key
      · rw [if_pos hmem]
        exact ih.trans (List.sublist_append_left _ _)
      · rw [if_neg hmem]
        exact ih.append (.refl _)

theorem mem_map_key_fill {wanted : κ} :
    wanted ∈ (fill key rows).map key ↔ wanted ∈ rows.map key := by
  constructor
  · intro hmem
    exact (map_key_fill_sublist key rows).subset hmem
  · intro hmem
    induction rows using List.reverseRecOn with
    | nil => cases hmem
    | append_singleton rows last ih =>
        rw [fill_concat, map_key_upsertRows]
        rw [List.map_append, List.mem_append] at hmem
        by_cases hlast : key last ∈ (fill key rows).map key
        · rw [if_pos hlast]
          cases hmem with
          | inl hearlier => exact ih hearlier
          | inr hsame => rwa [List.mem_singleton.mp hsame]
        · rw [if_neg hlast, List.mem_append]
          exact hmem.imp_left ih

theorem exists_mem_fill_iff :
    (∃ row, row ∈ fill key rows) ↔ ∃ row, row ∈ rows := by
  constructor
  · rintro ⟨row, hrow⟩
    exact ⟨row, mem_of_mem_fill hrow⟩
  · rintro ⟨row, hrow⟩
    have hkey : key row ∈ (fill key rows).map key :=
      mem_map_key_fill.mpr (List.mem_map_of_mem hrow)
    obtain ⟨kept, hkept, -⟩ := List.mem_map.mp hkey
    exact ⟨kept, hkept⟩

theorem key_le_of_find? {α : Type u} {ν : Type v} [LinearOrder ν] {key : α → ν}
    {items : List α} {passes : α → Bool} {first other : α}
    (hsorted : items.Pairwise fun left right => key left ≤ key right)
    (hfirst : items.find? passes = some first) (hother : other ∈ items)
    (hpasses : passes other = true) : key first ≤ key other := by
  obtain ⟨-, before, after, rfl, hbefore⟩ := List.find?_eq_some_iff_append.mp hfirst
  rw [List.mem_append, List.mem_cons] at hother
  cases hother with
  | inl hearlier =>
      have hfails := hbefore other hearlier
      rw [hpasses] at hfails
      cases hfails
  | inr hother =>
      cases hother with
      | inl heq => rw [heq]
      | inr hlater =>
          have hpair := (List.pairwise_append.mp hsorted).2.1
          exact (List.pairwise_cons.mp hpair).1 other hlater

end KeyedTable
