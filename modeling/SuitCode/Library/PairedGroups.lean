import Mathlib.Algebra.BigOperators.Group.List.Basic
import Mathlib.Algebra.Order.Group.Multiset
import Mathlib.Data.List.Perm.Basic

/-!
# Groups compared by place

The items of a list fall into groups by key.  Two groups are compared item by item at the
places both of them have; the items behind those places are surplus.  An item which is in
both groups escapes the comparison exactly where it keeps its place.
-/

namespace PairedGroups

universe u v w

variable {α : Type u} {κ : Type v} {ν : Type w}

variable {items : List α} {key : α → κ}

/-! ## Groups -/

section Groups

variable [DecidableEq κ]

def groupOf (key : α → κ) (wanted : κ) (items : List α) : List α :=
  items.filter fun item => key item = wanted

theorem mem_groupOf {wanted : κ} {item : α} :
    item ∈ groupOf key wanted items ↔ item ∈ items ∧ key item = wanted := by
  simp [groupOf]

theorem flatMap_groupOf_perm {keys : List κ} (hnodup : keys.Nodup)
    (hall : ∀ item ∈ items, key item ∈ keys) :
    (keys.flatMap fun wanted => groupOf key wanted items).Perm items := by
  induction keys generalizing items with
  | nil =>
      cases items with
      | nil => exact List.Perm.refl []
      | cons item items => cases hall item List.mem_cons_self
  | cons first keys ih =>
      have hfirst := (List.nodup_cons.mp hnodup).1
      let others := items.filter fun item => !decide (key item = first)
      have hothers : ∀ item ∈ others, key item ∈ keys := by
        intro item hitem
        have hparts := List.mem_filter.mp hitem
        have hne : key item ≠ first := by simpa using hparts.2
        exact (List.mem_cons.mp (hall item hparts.1)).resolve_left hne
      have hgroups : (keys.flatMap fun wanted => groupOf key wanted items) =
          keys.flatMap fun wanted => groupOf key wanted others := by
        apply List.flatMap_congr
        intro wanted hwanted
        unfold groupOf
        rw [List.filter_filter]
        apply List.filter_congr
        intro item _
        have hne : wanted ≠ first := by
          rintro rfl
          exact hfirst hwanted
        by_cases hkey : key item = wanted
        · simp [hkey, hne]
        · simp [hkey]
      rw [List.flatMap_cons, hgroups]
      exact ((ih (List.nodup_cons.mp hnodup).2 hothers).append_left _).trans
        (List.filter_append_perm _ items)

/-- A count of a list which is the sum of the counts of its parts, in whatever order. -/
structure Adds {M : Type*} [AddCommMonoid M] (count : List α → M) : Prop where
  nil : count [] = 0
  append : ∀ left right, count (left ++ right) = count left + count right
  perm : ∀ left right, left.Perm right → count left = count right

theorem Adds.sum_groupOf {M : Type*} [AddCommMonoid M] {count : List α → M} (hadds : Adds count)
    {keys : List κ} (hnodup : keys.Nodup) (hall : ∀ item ∈ items, key item ∈ keys) :
    (keys.map fun wanted => count (groupOf key wanted items)).sum = count items := by
  have hparts : ∀ wanted : List κ, (wanted.map fun one => count (groupOf key one items)).sum =
      count (wanted.flatMap fun one => groupOf key one items) := by
    intro wanted
    induction wanted with
    | nil => exact hadds.nil.symm
    | cons one wanted ih =>
        rw [List.map_cons, List.sum_cons, ih, List.flatMap_cons, hadds.append]
  rw [hparts]
  exact hadds.perm _ _ (flatMap_groupOf_perm hnodup hall)

end Groups

/-! ## Counts -/

section Counts

variable {M : Type*} [AddCommMonoid M] {β : Type*}

theorem adds_length : Adds (List.length : List α → ℕ) where
  nil := rfl
  append _ _ := List.length_append
  perm _ _ hperm := hperm.length_eq

theorem adds_countP (p : α → Bool) : Adds (List.countP p) where
  nil := rfl
  append _ _ := List.countP_append
  perm _ _ hperm := hperm.countP_eq p

theorem adds_sum (f : α → M) : Adds fun items => (items.map f).sum where
  nil := rfl
  append _ _ := by rw [List.map_append, List.sum_append]
  perm _ _ hperm := (hperm.map f).sum_eq

theorem Adds.filterMap {count : List β → M} (hadds : Adds count) (f : α → Option β) :
    Adds fun items => count (items.filterMap f) where
  nil := hadds.nil
  append _ _ := by rw [List.filterMap_append, hadds.append]
  perm _ _ hperm := hadds.perm _ _ (hperm.filterMap f)

end Counts

/-! ## Comparisons -/

def changedPairs (differ : α → α → Bool) (before after : List α) : List (α × α) :=
  (before.zip after).filter fun pair => differ pair.1 pair.2

def keptPairs (differ : α → α → Bool) (before after : List α) : List (α × α) :=
  (before.zip after).filter fun pair => !differ pair.1 pair.2

def surplus (items other : List α) : List α := items.drop (min items.length other.length)

theorem map_fst_zip_eq_take (before after : List α) :
    (before.zip after).map Prod.fst = before.take (min before.length after.length) := by
  rw [List.zip_eq_zip_take_min, List.map_fst_zip]
  simp

theorem map_snd_zip_eq_take (before after : List α) :
    (before.zip after).map Prod.snd = after.take (min before.length after.length) := by
  rw [List.zip_eq_zip_take_min, List.map_snd_zip]
  simp

theorem before_perm (differ : α → α → Bool) (before after : List α) :
    ((keptPairs differ before after).map Prod.fst ++
      ((changedPairs differ before after).map Prod.fst ++ surplus before after)).Perm
        before := by
  have hpairs := (List.filter_append_perm (fun pair => !differ pair.1 pair.2)
    (before.zip after)).map Prod.fst
  simp only [Bool.not_not, List.map_append, map_fst_zip_eq_take] at hpairs
  rw [← List.append_assoc]
  have hwhole := hpairs.append_right (surplus before after)
  rwa [surplus, List.take_append_drop] at hwhole

theorem after_perm (differ : α → α → Bool) (before after : List α) :
    ((keptPairs differ before after).map Prod.snd ++
      ((changedPairs differ before after).map Prod.snd ++ surplus after before)).Perm after := by
  have hpairs := (List.filter_append_perm (fun pair => !differ pair.1 pair.2)
    (before.zip after)).map Prod.snd
  simp only [Bool.not_not, List.map_append, map_snd_zip_eq_take] at hpairs
  rw [← List.append_assoc]
  have hwhole := hpairs.append_right (after.drop (min before.length after.length))
  rw [List.take_append_drop] at hwhole
  rw [surplus, min_comm]
  exact hwhole

/-- What is removed and added accounts for the difference of the two lists. -/
theorem balance_of_perm [DecidableEq ν] {before after shared old removed updated added : List ν}
    (hbefore : before.Perm (shared ++ (old ++ removed)))
    (hafter : after.Perm (shared ++ (updated ++ added))) :
    (after : Multiset ν) = (before : Multiset ν) - (removed : Multiset ν) -
      (old : Multiset ν) + (added : Multiset ν) + (updated : Multiset ν) := by
  have hb : (before : Multiset ν) = (shared : Multiset ν) + old + removed := by
    rw [add_assoc, Multiset.coe_add, Multiset.coe_add]
    exact Multiset.coe_eq_coe.mpr hbefore
  have ha : (after : Multiset ν) = (shared : Multiset ν) + added + updated := by
    rw [add_assoc, add_comm (added : Multiset ν), Multiset.coe_add, Multiset.coe_add]
    exact Multiset.coe_eq_coe.mpr hafter
  rw [ha, hb, add_tsub_cancel_right, add_tsub_cancel_right]

theorem flatMap_parts_perm (keys : List κ) (first second third : κ → List α) :
    (keys.flatMap fun wanted => first wanted ++ (second wanted ++ third wanted)).Perm
      (keys.flatMap first ++ (keys.flatMap second ++ keys.flatMap third)) :=
  (List.flatMap_append_perm keys first fun wanted => second wanted ++ third wanted).symm.trans
    ((List.flatMap_append_perm keys second third).symm.append_left _)

theorem escapes_iff {before after : List ν} {value : ν} :
    (value ∉ surplus before after ∧ value ∉ surplus after before ∧
        ∀ pair ∈ before.zip after, pair.1 ≠ pair.2 → pair.2 ≠ value) ↔
      (∀ place : ℕ, after[place]? = some value → before[place]? = some value) ∧
        ∀ place : ℕ, before[place]? = some value → place < after.length := by
  have hsurplus : ∀ items other : List ν, value ∈ surplus items other ↔
      ∃ place : ℕ, items[place]? = some value ∧ other.length ≤ place := by
    intro items other
    unfold surplus
    rw [List.mem_iff_getElem?]
    simp only [List.getElem?_drop]
    constructor
    · rintro ⟨place, hplace⟩
      have hlt := (List.getElem?_eq_some_iff.mp hplace).1
      exact ⟨_, hplace, by omega⟩
    · rintro ⟨place, hplace, hle⟩
      have hlt := (List.getElem?_eq_some_iff.mp hplace).1
      refine ⟨place - min items.length other.length, ?_⟩
      rwa [show min items.length other.length + (place - min items.length other.length) = place
        by omega]
  rw [hsurplus, hsurplus]
  constructor
  · intro hescapes
    constructor
    · intro place hafter
      have hshared : place < before.length := by
        by_contra hle
        exact hescapes.2.1 ⟨place, hafter, by omega⟩
      have hbefore := List.getElem?_eq_getElem hshared
      by_contra hne
      rw [hbefore, Option.some.injEq] at hne
      have hpair : (before[place], value) ∈ before.zip after := by
        rw [List.mem_iff_getElem?]
        exact ⟨place, List.getElem?_zip_eq_some.mpr ⟨hbefore, hafter⟩⟩
      exact hescapes.2.2 _ hpair hne rfl
    · intro place hbefore
      by_contra hle
      exact hescapes.1 ⟨place, hbefore, by omega⟩
  · intro hplaces
    refine ⟨?_, ?_, ?_⟩
    · rintro ⟨place, hbefore, hle⟩
      have hlt := hplaces.2 place hbefore
      omega
    · rintro ⟨place, hafter, hle⟩
      have hlt := (List.getElem?_eq_some_iff.mp (hplaces.1 place hafter)).1
      omega
    · intro pair hpair hne hvalue
      obtain ⟨place, hplace⟩ := List.mem_iff_getElem?.mp hpair
      obtain ⟨hbefore, hafter⟩ := List.getElem?_zip_eq_some.mp hplace
      rw [hvalue] at hafter
      have hkept := hplaces.1 place hafter
      rw [hbefore, Option.some.injEq] at hkept
      exact hne (hkept.trans hvalue.symm)

end PairedGroups
