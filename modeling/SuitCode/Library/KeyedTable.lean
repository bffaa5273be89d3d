import SuitCode.Library.KeyedList
import Mathlib.Data.List.Induction

/-!
# Tables with a primary key

A table is a list of rows with distinct keys.  Writing a row replaces the row
of the same key or appends a new one; rows leave by key.  Every operation is
described by the rows it leaves behind, and a sequence of writes by the last
row written under each key.
-/

namespace KeyedTable

open KeyedList

universe u v

variable {ρ : Type u} {κ : Type v} [DecidableEq κ]

/-! ## Rows -/

def upsertRows (key : ρ → κ) (row : ρ) : List ρ → List ρ
  | [] => [row]
  | head :: tail =>
      if key head = key row then row :: tail else head :: upsertRows key row tail

theorem map_key_upsertRows (key : ρ → κ) (row : ρ) (rows : List ρ) :
    (upsertRows key row rows).map key =
      if key row ∈ rows.map key then rows.map key else rows.map key ++ [key row] := by
  induction rows with
  | nil => simp [upsertRows]
  | cons head tail ih =>
      by_cases hkey : key head = key row
      · simp [upsertRows, hkey]
      · have hkey' : key row ≠ key head := fun h => hkey h.symm
        by_cases hmem : key row ∈ tail.map key
        · simp only [upsertRows, if_neg hkey, List.map_cons, ih, List.mem_cons,
            hmem, or_true, if_true]
        · simp only [upsertRows, if_neg hkey, List.map_cons, ih, List.mem_cons,
            hkey', hmem, or_self, if_false, List.cons_append]

variable {row : ρ} {rows : List ρ}

theorem nodup_upsertRows {key : ρ → κ} (hdistinct : (rows.map key).Nodup) :
    ((upsertRows key row rows).map key).Nodup := by
  rw [map_key_upsertRows]
  by_cases hmem : key row ∈ rows.map key
  · rw [if_pos hmem]
    exact hdistinct
  · rw [if_neg hmem, List.nodup_append]
    refine ⟨hdistinct, by simp, ?_⟩
    intro wanted hwanted other hother
    rw [List.mem_singleton] at hother
    intro heq
    apply hmem
    rwa [← hother, ← heq]

theorem mem_upsertRows {key : ρ → κ} {other : ρ} (hdistinct : (rows.map key).Nodup) :
    other ∈ upsertRows key row rows ↔
      other = row ∨ (other ∈ rows ∧ key other ≠ key row) := by
  induction rows with
  | nil => simp [upsertRows]
  | cons head tail ih =>
      simp only [List.map_cons, List.nodup_cons] at hdistinct
      by_cases hkey : key head = key row
      · have htail : ∀ item ∈ tail, key item ≠ key row := by
          intro item hitem heq
          apply hdistinct.1
          rw [hkey, ← heq]
          exact List.mem_map_of_mem hitem
        simp only [upsertRows, if_pos hkey, List.mem_cons]
        constructor
        · rintro (heq | hmem)
          · exact .inl heq
          · exact .inr ⟨.inr hmem, htail other hmem⟩
        · rintro (heq | ⟨heq | hmem, hne⟩)
          · exact .inl heq
          · exact absurd (heq ▸ hkey) hne
          · exact .inr hmem
      · simp only [upsertRows, if_neg hkey, List.mem_cons, ih hdistinct.2]
        constructor
        · rintro (heq | heq | ⟨hmem, hne⟩)
          · exact .inr ⟨.inl heq, heq ▸ hkey⟩
          · exact .inl heq
          · exact .inr ⟨.inr hmem, hne⟩
        · rintro (heq | ⟨heq | hmem, hne⟩)
          · exact .inr (.inl heq)
          · exact .inl heq
          · exact .inr (.inr ⟨hmem, hne⟩)

theorem upsertRows_of_absent {key : ρ → κ} (habsent : key row ∉ rows.map key) :
    upsertRows key row rows = rows ++ [row] := by
  induction rows with
  | nil => rfl
  | cons head tail ih =>
      simp only [List.map_cons, List.mem_cons, not_or] at habsent
      have hne : key head ≠ key row := fun h => habsent.1 h.symm
      simp [upsertRows, hne, ih habsent.2]

theorem upsertRows_of_mem {key : ρ → κ} (hdistinct : (rows.map key).Nodup) (hmem : row ∈ rows) :
    upsertRows key row rows = rows := by
  induction rows with
  | nil => cases hmem
  | cons head tail ih =>
      simp only [List.map_cons, List.nodup_cons] at hdistinct
      rw [List.mem_cons] at hmem
      cases hmem with
      | inl heq => simp [upsertRows, heq]
      | inr htail =>
          have hne : key head ≠ key row := by
            intro heq
            apply hdistinct.1
            rw [heq]
            exact List.mem_map_of_mem htail
          simp only [upsertRows, if_neg hne, ih hdistinct.2 htail]

theorem foldl_upsertRows_of_nodup {key : ρ → κ} {before : List ρ}
    (hdistinct : ((before ++ rows).map key).Nodup) :
    rows.foldl (fun written row => upsertRows key row written) before = before ++ rows := by
  induction rows generalizing before with
  | nil => simp
  | cons row rows ih =>
      have hdistinct' : (((before ++ [row]) ++ rows).map key).Nodup := by
        simpa using hdistinct
      have habsent : key row ∉ before.map key := by
        intro hmem
        rw [List.map_append, List.nodup_append] at hdistinct
        exact hdistinct.2.2 _ hmem _ (by simp) rfl
      rw [List.foldl_cons, upsertRows_of_absent habsent, ih hdistinct']
      simp

end KeyedTable

/-! ## Tables -/

structure KeyedTable {ρ : Type u} {κ : Type v} (key : ρ → κ) where
  rows : List ρ
  distinct : (rows.map key).Nodup
  deriving DecidableEq

namespace KeyedTable

open KeyedList

variable {ρ : Type u} {κ : Type v} [DecidableEq κ] {key : ρ → κ}

instance : Membership ρ (KeyedTable key) where
  mem table row := row ∈ table.rows

variable {row : ρ} {table : KeyedTable key} {wanted : κ} {written : List ρ}

omit [DecidableEq κ] in
theorem mem_rows : row ∈ table.rows ↔ row ∈ table :=
  Iff.rfl

instance [DecidableEq ρ] (row : ρ) (table : KeyedTable key) : Decidable (row ∈ table) :=
  inferInstanceAs (Decidable (row ∈ table.rows))

def empty : KeyedTable key := ⟨[], by simp⟩

def lookup (table : KeyedTable key) (wanted : κ) : Option ρ :=
  leader? key table.rows wanted

def HasKey (table : KeyedTable key) (wanted : κ) : Prop :=
  ∃ row ∈ table, key row = wanted

instance (table : KeyedTable key) (wanted : κ) : Decidable (table.HasKey wanted) :=
  inferInstanceAs (Decidable (∃ row ∈ table.rows, key row = wanted))

def upsert (table : KeyedTable key) (row : ρ) : KeyedTable key :=
  ⟨upsertRows key row table.rows, nodup_upsertRows table.distinct⟩

def deleteWhere (table : KeyedTable key) (drops : ρ → Bool) : KeyedTable key :=
  ⟨table.rows.filter fun row => !drops row,
    (List.filter_sublist.map key).nodup table.distinct⟩

def delete (table : KeyedTable key) (wanted : κ) : KeyedTable key :=
  table.deleteWhere fun row => key row = wanted

omit [DecidableEq κ] in
@[simp] theorem mem_empty : row ∈ (empty : KeyedTable key) ↔ False := by
  simp [empty, ← mem_rows]

@[simp] theorem mem_upsert {other : ρ} :
    other ∈ table.upsert row ↔ other = row ∨ (other ∈ table ∧ key other ≠ key row) :=
  mem_upsertRows table.distinct

omit [DecidableEq κ] in
@[simp] theorem mem_deleteWhere {drops : ρ → Bool} :
    row ∈ table.deleteWhere drops ↔ row ∈ table ∧ drops row = false := by
  simp [deleteWhere, ← mem_rows]

@[simp] theorem mem_delete :
    row ∈ table.delete wanted ↔ row ∈ table ∧ key row ≠ wanted := by
  simp [delete]

theorem mem_upsert_of_fresh {other : ρ} (hfresh : ¬ table.HasKey (key row)) :
    other ∈ table.upsert row ↔ other = row ∨ other ∈ table := by
  rw [mem_upsert]
  constructor
  · rintro (heq | ⟨hmem, -⟩)
    · exact .inl heq
    · exact .inr hmem
  · rintro (heq | hmem)
    · exact .inl heq
    · exact .inr ⟨hmem, fun heq => hfresh ⟨other, hmem, heq⟩⟩

theorem upsert_of_mem (hmem : row ∈ table) :
    table.upsert row = table := by
  have hrows := upsertRows_of_mem table.distinct hmem
  cases table
  simp only [upsert, mk.injEq]
  exact hrows

omit [DecidableEq κ] in
theorem eq_of_mem {other : ρ} (hrow : row ∈ table) (hother : other ∈ table)
    (hkey : key row = key other) :
    row = other :=
  List.inj_on_of_nodup_map table.distinct hrow hother hkey

/-- A table has one row of a key at most. -/
theorem lookup_eq_some_iff :
    table.lookup wanted = some row ↔ row ∈ table ∧ key row = wanted :=
  leader?_eq_some_iff table.distinct

theorem lookup_eq_none_iff :
    table.lookup wanted = none ↔ ¬ table.HasKey wanted := by
  constructor
  · rintro hnone ⟨row, hrow, hkey⟩
    have hsome := lookup_eq_some_iff.mpr ⟨hrow, hkey⟩
    simp [hnone] at hsome
  · intro habsent
    cases hlookup : table.lookup wanted with
    | none => rfl
    | some row => exact absurd ⟨row, lookup_eq_some_iff.mp hlookup⟩ habsent

omit [DecidableEq κ] in
theorem hasKey_of_mem (hrow : row ∈ table) :
    table.HasKey (key row) := ⟨row, hrow, rfl⟩

@[simp] theorem hasKey_upsert :
    (table.upsert row).HasKey wanted ↔ wanted = key row ∨ table.HasKey wanted := by
  by_cases heq : wanted = key row
  · subst heq
    simp only [true_or, iff_true]
    exact ⟨row, by simp, rfl⟩
  · simp only [heq, false_or]
    constructor
    · rintro ⟨other, hother, rfl⟩
      rw [mem_upsert] at hother
      rcases hother with rfl | hother
      · exact absurd rfl heq
      · exact ⟨other, hother.1, rfl⟩
    · rintro ⟨other, hother, rfl⟩
      exact ⟨other, by simp [hother, heq], rfl⟩

@[simp] theorem hasKey_delete {dropped : κ} :
    (table.delete dropped).HasKey wanted ↔ table.HasKey wanted ∧ wanted ≠ dropped := by
  constructor
  · rintro ⟨row, hrow, rfl⟩
    rw [mem_delete] at hrow
    exact ⟨⟨row, hrow.1, rfl⟩, hrow.2⟩
  · rintro ⟨⟨row, hrow, rfl⟩, hne⟩
    exact ⟨row, by simp [hrow, hne], rfl⟩

/-! ## Sequences of operations -/

def upsertAll (table : KeyedTable key) (written : List ρ) : KeyedTable key :=
  written.foldl upsert table

def deleteAll (table : KeyedTable key) (dropped : List κ) : KeyedTable key :=
  dropped.foldl delete table

def lastWritten (key : ρ → κ) (written : List ρ) (wanted : κ) : Option ρ :=
  leader? key written.reverse wanted

theorem lastWritten_append_singleton :
    lastWritten key (written ++ [row]) wanted =
      if key row = wanted then some row else lastWritten key written wanted := by
  by_cases heq : key row = wanted <;> simp [lastWritten, leader?, heq]

theorem mem_of_lastWritten (hlast : lastWritten key written wanted = some row) :
    row ∈ written ∧ key row = wanted :=
  ⟨List.mem_reverse.mp (leader?_mem hlast), leader?_key hlast⟩

theorem exists_lastWritten (key : ρ → κ) (hrow : row ∈ written) :
    ∃ last, lastWritten key written (key row) = some last :=
  exists_leader key (List.mem_reverse.mpr hrow)

theorem mem_upsertAll :
    row ∈ table.upsertAll written ↔
      lastWritten key written (key row) = some row ∨
        (row ∈ table ∧ key row ∉ written.map key) := by
  induction written using List.reverseRecOn with
  | nil => simp [upsertAll, lastWritten, leader?]
  | append_singleton written last ih =>
      rw [upsertAll, List.foldl_append] at *
      rw [List.foldl_cons, List.foldl_nil, mem_upsert, ih, lastWritten_append_singleton]
      by_cases hkey : key last = key row
      · have hkey' : key row = key last := hkey.symm
        simp only [hkey', ne_eq, not_true_eq_false, and_false, or_false, List.map_append,
          List.map_cons, List.map_nil, List.mem_append, List.mem_singleton, or_true,
          if_true, Option.some.injEq]
        exact eq_comm
      · have hkey' : key row ≠ key last := fun h => hkey h.symm
        have hne : row ≠ last := fun h => hkey' (by rw [h])
        simp [hkey, hkey', hne]

theorem mem_deleteAll {dropped : List κ} :
    row ∈ table.deleteAll dropped ↔ row ∈ table ∧ key row ∉ dropped := by
  induction dropped generalizing table with
  | nil => simp [deleteAll]
  | cons wanted dropped ih =>
      rw [deleteAll, List.foldl_cons, ← deleteAll, ih, mem_delete]
      simp [and_assoc]

/-! ## Replacing the rows of an owner -/

def replaceOwned (table : KeyedTable key) (owned : ρ → Bool) (written : List ρ) :
    KeyedTable key :=
  (table.upsertAll written).deleteAll
    ((((table.upsertAll written).rows.filter owned).map key).filter fun wanted =>
      wanted ∉ written.map key)

/-- The owned rows are replaced by the written ones, all others stay. -/
theorem mem_replaceOwned {owned : ρ → Bool} :
    row ∈ table.replaceOwned owned written ↔
      lastWritten key written (key row) = some row ∨
        (row ∈ table ∧ key row ∉ written.map key ∧ owned row = false) := by
  rw [replaceOwned, mem_deleteAll, mem_upsertAll]
  by_cases hwritten : key row ∈ written.map key
  · have hkept : key row ∉ (((table.upsertAll written).rows.filter owned).map key).filter
        fun wanted => wanted ∉ written.map key := by
      intro hdropped
      rw [List.mem_filter] at hdropped
      exact absurd hwritten (by simpa using hdropped.2)
    simp only [hwritten, hkept, not_true_eq_false, not_false_eq_true, and_false, false_and,
      or_false, and_true]
  · have hnone : lastWritten key written (key row) ≠ some row := by
      intro hlast
      apply hwritten
      have hmem := mem_of_lastWritten hlast
      exact List.mem_map_of_mem hmem.1
    simp only [hnone, hwritten, not_false_eq_true, and_true, true_and, false_or]
    apply and_congr_right
    intro hrow
    have hkept : row ∈ table.upsertAll written := mem_upsertAll.mpr (.inr ⟨hrow, hwritten⟩)
    constructor
    · intro hdropped
      by_contra howned
      apply hdropped
      rw [List.mem_filter, List.mem_map]
      refine ⟨⟨row, ?_, rfl⟩, by simpa using hwritten⟩
      rw [List.mem_filter]
      exact ⟨hkept, by simpa using howned⟩
    · intro howned hdropped
      rw [List.mem_filter, List.mem_map] at hdropped
      obtain ⟨⟨other, hother, hkey⟩, -⟩ := hdropped
      rw [List.mem_filter] at hother
      have heq := eq_of_mem hother.1 hkept hkey
      rw [heq, howned] at hother
      exact absurd hother.2 (by decide)

theorem hasKey_replaceOwned {owned : ρ → Bool} :
    (table.replaceOwned owned written).HasKey wanted ↔
      wanted ∈ written.map key ∨ ∃ row ∈ table, key row = wanted ∧ owned row = false := by
  constructor
  · rintro ⟨row, hrow, rfl⟩
    rw [mem_replaceOwned] at hrow
    rcases hrow with hlast | ⟨hrow, -, howned⟩
    · exact .inl (List.mem_map_of_mem (mem_of_lastWritten hlast).1)
    · exact .inr ⟨row, hrow, rfl, howned⟩
  · intro hkey
    by_cases hwritten : wanted ∈ written.map key
    · obtain ⟨row, hrow, rfl⟩ := List.mem_map.mp hwritten
      obtain ⟨last, hlast⟩ := exists_lastWritten key hrow
      have hsame := (mem_of_lastWritten hlast).2
      refine ⟨last, mem_replaceOwned.mpr (.inl ?_), hsame⟩
      rw [hsame]
      exact hlast
    · rcases hkey with hkey | ⟨row, hrow, rfl, howned⟩
      · exact absurd hkey hwritten
      · exact ⟨row, mem_replaceOwned.mpr (.inr ⟨hrow, hwritten, howned⟩), rfl⟩

end KeyedTable
