import Mathlib.Data.List.Sort
import Mathlib.Data.List.Nodup
import Mathlib.Data.List.Perm.Basic
import Mathlib.Data.Prod.Lex

/-!
# Lists read through a key

Three ways in which a program treats the elements of a list as a keyed
collection: keep the first element of every key, sort stably by a key, and
choose one fresh key from each of several lists.  The first-wins rule is
described once by the *leader* of a key, the first element which carries it.
-/

namespace KeyedList

universe u v

variable {α : Type u} {κ : Type v} [DecidableEq κ]

/-! ## Keeping the first element of every key -/

/-- The loop behind `dedupeBy`, with the keys it has already met. -/
def dedupeFrom (key : α → κ) : List κ → List α → List α
  | _, [] => []
  | seen, item :: items =>
      if key item ∈ seen then
        dedupeFrom key seen items
      else
        item :: dedupeFrom key (key item :: seen) items

def dedupeBy (key : α → κ) (items : List α) : List α :=
  dedupeFrom key [] items

def firstDuplicate : List κ → List κ → Option κ
  | _, [] => none
  | seen, item :: items =>
      if item ∈ seen then some item else firstDuplicate (item :: seen) items

def leader? (key : α → κ) (items : List α) (wanted : κ) : Option α :=
  items.find? fun item => key item = wanted

variable {item : α} {items back front : List α} {wanted : κ} {σ : Type u} {sources : List σ}

theorem leader?_key {key : α → κ} (hleader : leader? key items wanted = some item) :
    key item = wanted := by
  simpa using List.find?_some hleader

theorem leader?_mem {key : α → κ} (hleader : leader? key items wanted = some item) : item ∈ items :=
  List.mem_of_find?_eq_some hleader

theorem exists_leader (key : α → κ) (hmem : item ∈ items) :
    ∃ first, leader? key items (key item) = some first := by
  have hsome : (leader? key items (key item)).isSome := by
    rw [leader?, List.find?_isSome]
    exact ⟨item, hmem, by simp⟩
  exact Option.isSome_iff_exists.mp hsome

theorem leader?_eq_some_iff {key : α → κ} (hdistinct : (items.map key).Nodup) :
    leader? key items wanted = some item ↔ item ∈ items ∧ key item = wanted := by
  constructor
  · intro hleader
    exact ⟨leader?_mem hleader, leader?_key hleader⟩
  · intro hitem
    have hexists := exists_leader key hitem.1
    rw [hitem.2] at hexists
    cases hfirst : leader? key items wanted with
    | none => simp [hfirst] at hexists
    | some first =>
        have hkey : key first = key item := (leader?_key hfirst).trans hitem.2.symm
        have heq := List.inj_on_of_nodup_map hdistinct (leader?_mem hfirst) hitem.1 hkey
        rw [heq]

theorem leader?_append_of_some {key : α → κ} {before after : List α}
    (hleader : leader? key before wanted = some item) :
    leader? key (before ++ after) wanted = some item := by
  rw [leader?, List.find?_append]
  rw [leader?] at hleader
  rw [hleader]
  rfl

theorem mem_dedupeFrom_iff {key : α → κ} {seen : List κ} :
    item ∈ dedupeFrom key seen items ↔
      key item ∉ seen ∧ leader? key items (key item) = some item := by
  induction items generalizing seen with
  | nil => simp [dedupeFrom, leader?]
  | cons head tail ih =>
      rw [dedupeFrom]
      by_cases hseen : key head ∈ seen
      · rw [if_pos hseen, ih]
        by_cases heq : key head = key item
        · constructor
          · rintro ⟨hfresh, -⟩
            exact absurd (heq ▸ hseen) hfresh
          · rintro ⟨hfresh, -⟩
            exact absurd (heq ▸ hseen) hfresh
        · simp [leader?, heq]
      · rw [if_neg hseen, List.mem_cons, ih]
        by_cases heq : key head = key item
        · simp only [leader?, List.mem_cons, heq, true_or, not_true_eq_false,
            false_and, or_false, List.find?_cons, decide_true, Option.some.injEq]
          constructor
          · rintro rfl
            exact ⟨hseen, rfl⟩
          · rintro ⟨-, rfl⟩
            rfl
        · have hne : item ≠ head := fun h => heq (by rw [h])
          have hne' : key item ≠ key head := fun h => heq h.symm
          simp [leader?, heq, hne, hne']

theorem mem_dedupeBy_iff {key : α → κ} :
    item ∈ dedupeBy key items ↔ leader? key items (key item) = some item := by
  simp [dedupeBy, mem_dedupeFrom_iff]

theorem mem_of_mem_dedupeBy {key : α → κ} (hmem : item ∈ dedupeBy key items) : item ∈ items :=
  leader?_mem (mem_dedupeBy_iff.mp hmem)

theorem leader_mem_dedupeBy {key : α → κ} (hleader : leader? key items wanted = some item) :
    item ∈ dedupeBy key items := by
  rw [mem_dedupeBy_iff, leader?_key hleader]
  exact hleader

theorem mem_map_dedupeBy_iff {key : α → κ} :
    wanted ∈ (dedupeBy key items).map key ↔ wanted ∈ items.map key := by
  simp only [List.mem_map]
  constructor
  · rintro ⟨item, hmem, rfl⟩
    exact ⟨item, mem_of_mem_dedupeBy hmem, rfl⟩
  · rintro ⟨item, hmem, rfl⟩
    obtain ⟨first, hfirst⟩ := exists_leader key hmem
    exact ⟨first, leader_mem_dedupeBy hfirst, leader?_key hfirst⟩

theorem mem_dedupeBy_id {items : List κ} {item : κ} :
    item ∈ dedupeBy id items ↔ item ∈ items := by
  have hkeys : item ∈ (dedupeBy id items).map id ↔ item ∈ items.map id :=
    mem_map_dedupeBy_iff
  simpa using hkeys

theorem nodup_map_dedupeFrom (key : α → κ) (seen : List κ) (items : List α) :
    ((dedupeFrom key seen items).map key).Nodup := by
  induction items generalizing seen with
  | nil => simp [dedupeFrom]
  | cons head tail ih =>
      rw [dedupeFrom]
      split
      · exact ih seen
      · rw [List.map_cons, List.nodup_cons]
        refine ⟨?_, ih _⟩
        intro hmem
        obtain ⟨item, hitem, heq⟩ := List.mem_map.mp hmem
        have hfresh := (mem_dedupeFrom_iff.mp hitem).1
        exact hfresh (heq ▸ List.mem_cons_self)

/-- No key is kept twice. -/
theorem nodup_map_dedupeBy (key : α → κ) (items : List α) :
    ((dedupeBy key items).map key).Nodup :=
  nodup_map_dedupeFrom key [] items

theorem eq_of_mem_dedupeBy {key : α → κ} {left right : α} (hleft : left ∈ dedupeBy key items)
    (hright : right ∈ dedupeBy key items) (hkey : key left = key right) : left = right := by
  have hl := mem_dedupeBy_iff.mp hleft
  have hr := mem_dedupeBy_iff.mp hright
  rw [hkey, hr] at hl
  exact (Option.some.inj hl).symm

theorem mem_of_mem_dedupeBy_append {key : α → κ} {before after : List α} {other : α}
    (hmem : item ∈ dedupeBy key (before ++ after)) (hother : other ∈ before)
    (hkey : key other = key item) : item ∈ before := by
  obtain ⟨first, hfirst⟩ := exists_leader key hother
  rw [hkey] at hfirst
  have hleader := mem_dedupeBy_iff.mp hmem
  rw [leader?_append_of_some hfirst] at hleader
  rw [← Option.some.inj hleader]
  exact leader?_mem hfirst

theorem mem_map_dedupeBy_flatMap_iff {key : α → κ} {items : σ → List α} :
    wanted ∈ (dedupeBy key (sources.flatMap items)).map key ↔
      ∃ source ∈ sources, wanted ∈ (items source).map key := by
  rw [mem_map_dedupeBy_iff, List.map_flatMap, List.mem_flatMap]

theorem exists_source_of_mem_dedupeBy {key : α → κ} {items : σ → List α}
    (hmem : item ∈ dedupeBy key (sources.flatMap items)) :
    ∃ source ∈ sources, item ∈ items source :=
  List.mem_flatMap.mp (mem_of_mem_dedupeBy hmem)

theorem exists_mem_dedupeBy (key : α → κ) (items : σ → List α) {source : σ}
    (hsource : source ∈ sources) (hmem : item ∈ items source) :
    ∃ kept ∈ dedupeBy key (sources.flatMap items), key kept = key item := by
  have hall : item ∈ sources.flatMap items := List.mem_flatMap.mpr ⟨source, hsource, hmem⟩
  obtain ⟨first, hfirst⟩ := exists_leader key hall
  exact ⟨first, leader_mem_dedupeBy hfirst, leader?_key hfirst⟩

theorem filter_key_eq_singleton {key : α → κ} (hnodup : (items.map key).Nodup) (hmem : item ∈ items) :
    items.filter (fun other => key other = key item) = [item] := by
  induction items with
  | nil => cases hmem
  | cons head tail ih =>
      rw [List.map_cons, List.nodup_cons] at hnodup
      rcases List.mem_cons.mp hmem with rfl | htail
      · have hnone : tail.filter (fun other => key other = key item) = [] := by
          rw [List.filter_eq_nil_iff]
          intro other hother heq
          apply hnodup.1
          rw [← of_decide_eq_true heq]
          exact List.mem_map_of_mem hother
        simp [hnone]
      · have hne : key head ≠ key item := by
          intro heq
          apply hnodup.1
          rw [heq]
          exact List.mem_map_of_mem htail
        simp [hne, ih hnodup.2 htail]

theorem eq_singleton_of_same_key (key : α → κ) (hnodup : (items.map key).Nodup)
    (hmem : item ∈ items) (hsame : ∀ other ∈ items, key other = key item) : items = [item] := by
  have hall : items.filter (fun other => key other = key item) = items := by
    rw [List.filter_eq_self]
    intro other hother
    exact decide_eq_true (hsame other hother)
  rw [← hall, filter_key_eq_singleton hnodup hmem]

/-! ## Permuted keys -/

theorem exists_perm_of_map_perm {ν : Type v} {key : σ → ν} {items : List σ} {keys : List ν}
    (hperm : keys.Perm (items.map key)) :
    ∃ items' : List σ, items'.Perm items ∧ items'.map key = keys := by
  have hall : List.Forall₂ (fun wanted item => wanted = key item) (items.map key) items := by
    rw [List.forall₂_map_left_iff]
    exact List.forall₂_same.mpr fun _ _ => rfl
  obtain ⟨items', hall', hperm'⟩ := List.perm_comp_forall₂ hperm hall
  refine ⟨items', hperm', ?_⟩
  rw [← List.forall₂_map_right_iff, List.forall₂_eq_eq_eq] at hall'
  exact hall'.symm

/-! ## Counters -/

section Counters

def itemCounter (items : List κ) : List (κ × ℕ) :=
  (dedupeBy id items).map fun item => (item, items.count item)

theorem lookup_itemCounter (items : List κ) (item : κ) :
    ((itemCounter items).lookup item).getD 0 = items.count item := by
  have hlookup : ∀ keys : List κ, (keys.map fun key => (key, items.count key)).lookup item =
      if item ∈ keys then some (items.count item) else none := by
    intro keys
    induction keys with
    | nil => simp
    | cons key keys ih =>
        by_cases hkey : item = key
        · simp [hkey]
        · have hbeq : (item == key) = false := by simpa using hkey
          rw [List.map_cons, List.lookup_cons, hbeq, ih]
          simp [hkey]
  unfold itemCounter
  rw [hlookup]
  simp only [mem_dedupeBy_id]
  by_cases hmem : item ∈ items
  · simp [hmem]
  · simp [hmem, List.count_eq_zero_of_not_mem hmem]

theorem mem_of_mem_itemCounter {items : List κ} {entry : κ × ℕ}
    (hentry : entry ∈ itemCounter items) : entry.1 ∈ items := by
  obtain ⟨item, hitem, heq⟩ := List.mem_map.mp hentry
  rw [← heq]
  exact mem_dedupeBy_id.mp hitem

end Counters

/-! ## Stable sorting by a key -/

section Sorting

variable {ν : Type v} [LinearOrder ν]

def sortedBy (key : α → ν) (items : List α) : List α :=
  items.insertionSort fun left right => key left ≤ key right

variable {key : α → ν}

@[simp] theorem mem_sortedBy :
    item ∈ sortedBy key items ↔ item ∈ items :=
  List.mem_insertionSort _

theorem sortedBy_perm (key : α → ν) (items : List α) :
    (sortedBy key items).Perm items :=
  List.perm_insertionSort _ _

@[simp] theorem sortedBy_eq_nil :
    sortedBy key items = [] ↔ items = [] := by
  constructor
  · intro hnil
    have hperm := sortedBy_perm key items
    rw [hnil] at hperm
    exact hperm.nil_eq.symm
  · rintro rfl
    rfl

theorem pairwise_sortedBy (key : α → ν) (items : List α) :
    (sortedBy key items).Pairwise fun left right => key left ≤ key right := by
  have : Std.Total fun left right : α => key left ≤ key right :=
    ⟨fun left right => le_total (key left) (key right)⟩
  have : IsTrans α fun left right : α => key left ≤ key right :=
    ⟨fun _ _ _ hab hbc => le_trans hab hbc⟩
  exact List.pairwise_insertionSort (fun left right : α => key left ≤ key right) items

theorem sortedBy_sortedBy (key : α → ν) (items : List α) :
    sortedBy key (sortedBy key items) = sortedBy key items :=
  List.Pairwise.insertionSort_eq (pairwise_sortedBy key items)

theorem sortedBy_eq_of_perm {left right : List α} (hperm : left.Perm right)
    (hkeys : (left.map key).Nodup) : sortedBy key left = sortedBy key right := by
  have hleft := sortedBy_perm key left
  have hright := sortedBy_perm key right
  refine (hleft.trans (hperm.trans hright.symm)).eq_of_pairwise ?_
    (pairwise_sortedBy key left) (pairwise_sortedBy key right)
  intro first second hfirst hsecond hle hge
  rw [mem_sortedBy] at hfirst hsecond
  exact List.inj_on_of_nodup_map hkeys hfirst (hperm.mem_iff.mpr hsecond) (le_antisymm hle hge)

theorem mem_take_iff_countP (hsorted : items.Pairwise fun left right => key left < key right)
    (hitem : item ∈ items) (count : ℕ) :
    item ∈ items.take count ↔ (items.countP fun other => key other < key item) < count := by
  induction items generalizing count with
  | nil => cases hitem
  | cons first items ih =>
      have hfirst := (List.pairwise_cons.mp hsorted).1
      have hrest := (List.pairwise_cons.mp hsorted).2
      rw [List.countP_cons]
      cases count with
      | zero => simp
      | succ count =>
          rw [List.take_succ_cons, List.mem_cons]
          cases List.mem_cons.mp hitem with
          | inl heq =>
              rw [heq]
              have hnone : (items.countP fun other => key other < key first) = 0 := by
                rw [List.countP_eq_zero]
                intro other hother
                simpa using (hfirst other hother).le
              simp [hnone]
          | inr hlater =>
              have hlt := hfirst item hlater
              have hne : item ≠ first := by
                rintro rfl
                exact lt_irrefl _ hlt
              have hiff := ih hrest hlater count
              simp only [hne, false_or, hlt, decide_true, if_true, hiff]
              omega

theorem mem_take_sortedBy_iff (hkeys : (items.map key).Nodup) (hitem : item ∈ items) (count : ℕ) :
    item ∈ (sortedBy key items).take count ↔
      (items.countP fun other => key other < key item) < count := by
  have hperm := sortedBy_perm key items
  have hnodup := (hperm.map key).nodup_iff.mpr hkeys
  have hsorted : (sortedBy key items).Pairwise fun left right => key left < key right := by
    have hne : (sortedBy key items).Pairwise fun left right => key left ≠ key right :=
      List.pairwise_map.mp hnodup
    exact (pairwise_sortedBy key items).imp₂ (fun _ _ hle hne => lt_of_le_of_ne hle hne) hne
  rw [mem_take_iff_countP hsorted (mem_sortedBy.mpr hitem), hperm.countP_eq]

theorem map_sortedBy {other : β → ν} {f : α → β} (hkey : ∀ item, other (f item) = key item)
    (items : List α) :
    (sortedBy key items).map f = sortedBy other (items.map f) := by
  apply List.map_insertionSort
  intro left _ right _
  rw [hkey, hkey]

theorem sortedBy_map_sortedBy (key : α → ν) (items : List α) :
    sortedBy id ((sortedBy key items).map key) = (sortedBy key items).map key := by
  have hkeys : ((sortedBy key items).map key).Pairwise fun left right => id left ≤ id right :=
    List.pairwise_map.mpr (pairwise_sortedBy key items)
  exact List.Pairwise.insertionSort_eq hkeys

theorem key_head_le {rest : List α} {head other : α} (hsorted : sortedBy key items = head :: rest)
    (hmem : other ∈ items) :
    key head ≤ key other := by
  have hpair := pairwise_sortedBy key items
  rw [hsorted, List.pairwise_cons] at hpair
  have hother : other ∈ sortedBy key items := mem_sortedBy.mpr hmem
  rw [hsorted] at hother
  rcases List.mem_cons.mp hother with rfl | htail
  · exact le_rfl
  · exact hpair.1 other htail

end Sorting

/-! ## One fresh key from each list -/

/-- The loop behind `representatives`, with the keys already taken. -/
def representativesFrom (key : α → κ) : List κ → List (List α) → List α
  | _, [] => []
  | taken, group :: groups =>
      match group.find? fun item => key item ∉ taken with
      | none => representativesFrom key taken groups
      | some item => item :: representativesFrom key (key item :: taken) groups

def representatives (key : α → κ) (groups : List (List α)) : List α :=
  representativesFrom key [] groups

theorem representativesFrom_spec
    (key : α → κ) (taken : List κ) (groups : List (List α)) :
    ((representativesFrom key taken groups).map key).Nodup ∧
      ∀ item ∈ representativesFrom key taken groups,
        key item ∉ taken ∧ ∃ group ∈ groups, item ∈ group := by
  induction groups generalizing taken with
  | nil => simp [representativesFrom]
  | cons group groups ih =>
      rw [representativesFrom]
      cases hfind : group.find? fun item => key item ∉ taken with
      | none =>
          obtain ⟨hnodup, hall⟩ := ih taken
          refine ⟨hnodup, fun item hitem => ?_⟩
          obtain ⟨hfresh, other, hother, hmem⟩ := hall item hitem
          exact ⟨hfresh, other, List.mem_cons_of_mem _ hother, hmem⟩
      | some chosen =>
          have hchosen : key chosen ∉ taken := by
            simpa using List.find?_some hfind
          obtain ⟨hnodup, hall⟩ := ih (key chosen :: taken)
          constructor
          · rw [List.map_cons, List.nodup_cons]
            refine ⟨?_, hnodup⟩
            intro hmem
            obtain ⟨item, hitem, heq⟩ := List.mem_map.mp hmem
            exact (hall item hitem).1 (heq ▸ List.mem_cons_self)
          · intro item hitem
            rcases List.mem_cons.mp hitem with rfl | htail
            · exact ⟨hchosen, group, List.mem_cons_self,
                List.mem_of_find?_eq_some hfind⟩
            · obtain ⟨hfresh, other, hother, hmem⟩ := hall item htail
              exact ⟨fun h => hfresh (List.mem_cons_of_mem _ h),
                other, List.mem_cons_of_mem _ hother, hmem⟩

theorem nodup_map_representatives (key : α → κ) (groups : List (List α)) :
    ((representatives key groups).map key).Nodup :=
  (representativesFrom_spec key [] groups).1

theorem exists_group_of_mem_representatives {key : α → κ} {groups : List (List α)}
    (hmem : item ∈ representatives key groups) :
    ∃ group ∈ groups, item ∈ group :=
  ((representativesFrom_spec key [] groups).2 item hmem).2

theorem map_representativesFrom (key : α → κ) (taken : List κ) (groups : List (List α)) :
    (representativesFrom key taken groups).map key =
      representativesFrom id taken (groups.map (List.map key)) := by
  induction groups generalizing taken with
  | nil => rfl
  | cons group groups ih =>
      simp only [List.map_cons, representativesFrom, List.find?_map]
      have hcomp : ((fun item : κ => decide (id item ∉ taken)) ∘ key) =
          fun item => decide (key item ∉ taken) := rfl
      rw [hcomp]
      cases hfind : group.find? fun item => key item ∉ taken with
      | none => simpa using ih taken
      | some chosen => simpa using ih (key chosen :: taken)

theorem map_representatives (key : α → κ) (groups : List (List α)) :
    (representatives key groups).map key = representatives id (groups.map (List.map key)) :=
  map_representativesFrom key [] groups

/-! ## Placing some elements first -/

def placedFirst (key : α → κ) (front back : List α) : List α :=
  front ++ back.filter fun item => key item ∉ front.map key

theorem mem_map_placedFirst_iff {key : α → κ} :
    wanted ∈ (placedFirst key front back).map key ↔
      wanted ∈ front.map key ∨ wanted ∈ back.map key := by
  rw [placedFirst, List.map_append, List.mem_append]
  constructor
  · intro hmem
    rcases hmem with hfront | hback
    · exact Or.inl hfront
    · obtain ⟨item, hitem, heq⟩ := List.mem_map.mp hback
      exact Or.inr (List.mem_map.mpr ⟨item, (List.mem_filter.mp hitem).1, heq⟩)
  · intro hmem
    by_cases hfront : wanted ∈ front.map key
    · exact Or.inl hfront
    · obtain ⟨item, hitem, heq⟩ := List.mem_map.mp (hmem.resolve_left hfront)
      refine Or.inr (List.mem_map.mpr ⟨item, List.mem_filter.mpr ⟨hitem, ?_⟩, heq⟩)
      rw [heq]
      exact decide_eq_true hfront

theorem nodup_map_placedFirst {key : α → κ} (hfront : (front.map key).Nodup)
    (hback : (back.map key).Nodup) :
    ((placedFirst key front back).map key).Nodup := by
  rw [placedFirst, List.map_append, List.nodup_append']
  refine ⟨hfront, hback.sublist (List.filter_sublist.map key), ?_⟩
  intro wanted hwanted hfiltered
  obtain ⟨item, hitem, heq⟩ := List.mem_map.mp hfiltered
  have hfresh := of_decide_eq_true (List.mem_filter.mp hitem).2
  rw [heq] at hfresh
  exact hfresh hwanted

theorem length_placedFirst_eq_iff {key : α → κ} (hfront : (front.map key).Nodup)
    (hback : (back.map key).Nodup) :
    (placedFirst key front back).length = back.length ↔
      ∀ wanted ∈ front.map key, wanted ∈ back.map key := by
  constructor
  · intro hlength wanted hwanted
    have hsubset : back.map key ⊆ (placedFirst key front back).map key := by
      intro other hother
      exact mem_map_placedFirst_iff.mpr (Or.inr hother)
    have hperm := (List.subperm_of_subset hback hsubset).perm_of_length_le
      (by rw [List.length_map, List.length_map, hlength])
    rw [hperm.mem_iff]
    exact mem_map_placedFirst_iff.mpr (Or.inl hwanted)
  · intro hsubset
    have hperm : ((placedFirst key front back).map key).Perm (back.map key) := by
      rw [List.perm_ext_iff_of_nodup (nodup_map_placedFirst hfront hback) hback]
      intro wanted
      rw [mem_map_placedFirst_iff]
      constructor
      · intro hmem
        exact hmem.elim (hsubset wanted) id
      · exact Or.inr
    have hlength := hperm.length_eq
    rwa [List.length_map, List.length_map] at hlength

end KeyedList
