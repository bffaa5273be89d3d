import Mathlib.Data.Finset.Card
import Mathlib.Data.Finset.Dedup
import SuitCode.CodeQueries

/-!
# Walks which collect references

A walk keeps the locations of new keys until it has as many as it was asked for.
It has then either all keys there are, or as many keys as asked for.
-/

namespace SuitCode

open KeyedList ExceptList Repository

/-! ## Keys of locations -/

def keySet (locations : List CodeLocation) : Finset LocationKey :=
  (locations.map locationKey).toFinset

def distinctCount (locations : List CodeLocation) : ℕ := (keySet locations).card

theorem mem_keySet {locations : List CodeLocation} {key : LocationKey} :
    key ∈ keySet locations ↔ ∃ location ∈ locations, locationKey location = key := by
  simp [keySet]

theorem keySet_append (front back : List CodeLocation) :
    keySet (front ++ back) = keySet front ∪ keySet back := by
  simp [keySet, List.toFinset_append]

theorem distinctCount_of_nodup {locations : List CodeLocation}
    (hnodup : (locations.map locationKey).Nodup) :
    distinctCount locations = locations.length := by
  unfold distinctCount keySet
  rw [List.toFinset_card_of_nodup hnodup, List.length_map]

theorem distinctCount_le_of_subset {fewer more : List CodeLocation}
    (hsub : keySet fewer ⊆ keySet more) : distinctCount fewer ≤ distinctCount more :=
  Finset.card_le_card hsub

/-! ## What is kept -/

/-- What is kept of all locations met so far: no key twice, and while it is not full every
key, fewer than asked for. -/
structure KeptOf (maxLocations : Option ℕ) (met kept : List CodeLocation) (full : Bool) :
    Prop where
  nodup : (kept.map locationKey).Nodup
  sound : keySet kept ⊆ keySet met
  complete : full = false → keySet met ⊆ keySet kept
  room : full = false → ∀ limit ∈ maxLocations, kept.length < limit
  capped : full = true → kept.length ∈ maxLocations

/-- Found locations stand for the true ones: they have all of their keys, or as many keys
as asked for. -/
structure StandsFor (maxLocations : Option ℕ) (met found : List CodeLocation) : Prop where
  sound : keySet found ⊆ keySet met
  enough : keySet met ⊆ keySet found ∨ ∃ limit ∈ maxLocations, limit ≤ distinctCount found

section Walks

variable {maxLocations : Option ℕ} {met more kept found : List CodeLocation}

theorem standsFor_self : StandsFor maxLocations found found :=
  ⟨Finset.Subset.refl _, .inl (Finset.Subset.refl _)⟩

theorem KeptOf.standsFor {full : Bool} (hkept : KeptOf maxLocations met kept full) :
    StandsFor maxLocations met kept := by
  constructor
  case sound => exact hkept.sound
  case enough =>
    cases full with
    | false => exact .inl (hkept.complete rfl)
    | true =>
        refine .inr ⟨kept.length, hkept.capped rfl, ?_⟩
        rw [distinctCount_of_nodup hkept.nodup]

theorem keptOf_nil (hpositive : maxLocations ≠ some 0) :
    KeptOf maxLocations [] [] false := by
  constructor
  case nodup => exact List.nodup_nil
  case sound => exact Finset.Subset.refl _
  case complete =>
    intro _
    exact Finset.Subset.refl _
  case room =>
    intro _ limit hlimit
    rw [List.length_nil, Nat.pos_iff_ne_zero]
    rintro rfl
    exact hpositive hlimit
  case capped =>
    intro hfull
    cases hfull

theorem KeptOf.distinctCount_lt (hkept : KeptOf maxLocations met kept false)
    {limit : ℕ} (hlimit : limit ∈ maxLocations) : distinctCount met < limit := by
  have hsame : keySet met = keySet kept :=
    Finset.Subset.antisymm (hkept.complete rfl) hkept.sound
  have hcount : distinctCount met = kept.length := by
    rw [← distinctCount_of_nodup hkept.nodup]
    unfold distinctCount
    rw [hsame]
  rw [hcount]
  exact hkept.room rfl limit hlimit

/-- What `setdefault` makes of the kept locations. -/
def setDefaultLocation (kept : List CodeLocation) (location : CodeLocation) :
    List CodeLocation :=
  if kept.any fun other => locationKey other = locationKey location then kept
  else kept ++ [location]

theorem keySet_setDefaultLocation (kept : List CodeLocation) (location : CodeLocation) :
    keySet (setDefaultLocation kept location) = insert (locationKey location) (keySet kept) := by
  unfold setDefaultLocation
  split
  · next hany =>
      rw [List.any_eq_true] at hany
      obtain ⟨other, hother, hkey⟩ := hany
      rw [Finset.insert_eq_of_mem]
      exact mem_keySet.mpr ⟨other, hother, of_decide_eq_true hkey⟩
  · rw [keySet_append, Finset.union_comm]
    rfl

theorem nodup_setDefaultLocation (hnodup : (kept.map locationKey).Nodup)
    (location : CodeLocation) :
    ((setDefaultLocation kept location).map locationKey).Nodup := by
  unfold setDefaultLocation
  split
  · exact hnodup
  · next hany =>
      have hnew : locationKey location ∉ kept.map locationKey := by
        intro hmem
        obtain ⟨other, hother, hkey⟩ := List.mem_map.mp hmem
        apply hany
        rw [List.any_eq_true]
        exact ⟨other, hother, decide_eq_true hkey⟩
      rw [List.map_append, List.nodup_append]
      refine ⟨hnodup, List.nodup_singleton _, ?_⟩
      intro key hkey other hother heq
      rw [List.map_singleton, List.mem_singleton] at hother
      rw [heq, hother] at hkey
      exact hnew hkey

theorem length_setDefaultLocation_le (kept : List CodeLocation) (location : CodeLocation) :
    (setDefaultLocation kept location).length ≤ kept.length + 1 := by
  unfold setDefaultLocation
  split
  · omega
  · simp

theorem keepLocations_cons (location : CodeLocation) (locations : List CodeLocation) :
    keepLocations maxLocations kept (location :: locations) =
      if maxLocations.any fun limit => limit ≤ (setDefaultLocation kept location).length then
        (setDefaultLocation kept location, true)
      else
        keepLocations maxLocations (setDefaultLocation kept location) locations := rfl

theorem KeptOf.setDefault (hkept : KeptOf maxLocations met kept false)
    (location : CodeLocation) :
    KeptOf maxLocations (met ++ [location]) (setDefaultLocation kept location)
      (maxLocations.any fun limit => limit ≤ (setDefaultLocation kept location).length) := by
  have hkeys := keySet_setDefaultLocation kept location
  have hmet : keySet (met ++ [location]) = insert (locationKey location) (keySet met) := by
    rw [keySet_append, Finset.union_comm]
    rfl
  constructor
  case nodup => exact nodup_setDefaultLocation hkept.nodup location
  case sound =>
    rw [hkeys, hmet]
    exact Finset.insert_subset_insert _ hkept.sound
  case complete =>
    intro _
    rw [hkeys, hmet]
    exact Finset.insert_subset_insert _ (hkept.complete rfl)
  case room =>
    intro hroom limit hlimit
    rw [Option.mem_def.mp hlimit] at hroom
    simpa using hroom
  case capped =>
    intro hfull
    obtain ⟨limit, hlimit, hreached⟩ := Option.any_eq_true _ _ |>.mp hfull
    have hbefore := hkept.room rfl limit hlimit
    have hstep := length_setDefaultLocation_le kept location
    have hreached := of_decide_eq_true hreached
    have hlength : (setDefaultLocation kept location).length = limit := by omega
    rw [hlength]
    exact hlimit

theorem keepLocations_keptOf (hkept : KeptOf maxLocations met kept false) :
    ∃ front back, found = front ++ back ∧
      KeptOf maxLocations (met ++ front) (keepLocations maxLocations kept found).1
        (keepLocations maxLocations kept found).2 ∧
      ((keepLocations maxLocations kept found).2 = false → back = []) := by
  induction found generalizing met kept with
  | nil =>
      refine ⟨[], [], rfl, ?_, fun _ => rfl⟩
      rw [List.append_nil]
      exact hkept
  | cons location locations ih =>
      have hstep := hkept.setDefault location
      rw [keepLocations_cons]
      by_cases hfull : (maxLocations.any fun limit =>
          limit ≤ (setDefaultLocation kept location).length) = true
      · rw [if_pos hfull]
        rw [hfull] at hstep
        refine ⟨[location], locations, rfl, hstep, ?_⟩
        intro hroom
        cases hroom
      · rw [if_neg hfull]
        rw [Bool.not_eq_true] at hfull
        rw [hfull] at hstep
        obtain ⟨front, back, heq, hall, hback⟩ := ih hstep
        refine ⟨location :: front, back, ?_, ?_, hback⟩
        · rw [heq, List.cons_append]
        · rw [List.append_assoc] at hall
          exact hall

theorem keepLocations_of_standsFor (hkept : KeptOf maxLocations met kept false)
    (hfound : StandsFor maxLocations more found) :
    KeptOf maxLocations (met ++ more) (keepLocations maxLocations kept found).1
      (keepLocations maxLocations kept found).2 := by
  obtain ⟨front, back, heq, hall, hback⟩ := @keepLocations_keptOf _ met kept found hkept
  have hfront : keySet (met ++ front) ⊆ keySet (met ++ more) := by
    rw [keySet_append, keySet_append]
    apply Finset.union_subset_union (Finset.Subset.refl _)
    apply Finset.Subset.trans _ hfound.sound
    rw [heq, keySet_append]
    exact Finset.subset_union_left
  constructor
  case nodup => exact hall.nodup
  case sound => exact Finset.Subset.trans hall.sound hfront
  case complete =>
    intro hroom
    have hwhole : front = found := by rw [heq, hback hroom, List.append_nil]
    have hcomplete := hall.complete hroom
    rw [hwhole] at hcomplete
    cases hfound.enough with
    | inl hsub =>
        apply Finset.Subset.trans _ hcomplete
        rw [keySet_append, keySet_append]
        exact Finset.union_subset_union (Finset.Subset.refl _) hsub
    | inr hcapped =>
        obtain ⟨limit, hlimit, hle⟩ := hcapped
        have hroomy := hall.room hroom limit hlimit
        have hmore : distinctCount found ≤
            distinctCount (keepLocations maxLocations kept found).1 := by
          apply distinctCount_le_of_subset
          apply Finset.Subset.trans _ hcomplete
          rw [keySet_append]
          exact Finset.subset_union_right
        rw [distinctCount_of_nodup hall.nodup] at hmore
        omega
  case room => exact hall.room
  case capped => exact hall.capped

end Walks

/-! ## Walks over items -/

section Items

variable {α : Type} {maxLocations : Option ℕ} {find : α → PyResult (List CodeLocation)}
  {met kept : List CodeLocation} {all : α → List CodeLocation} {items : List α}

theorem walkLocations_cons_of_ok {item : α} {found : List CodeLocation}
    (hfound : find item = .ok found) :
    walkLocations maxLocations find kept (item :: items) =
      if (keepLocations maxLocations kept found).2 then
        .ok (keepLocations maxLocations kept found).1
      else
        walkLocations maxLocations find (keepLocations maxLocations kept found).1 items := by
  rw [walkLocations, hfound, ok_bind]
  cases hkeep : keepLocations maxLocations kept found with
  | mk kept full =>
      cases full with
      | false => rfl
      | true => rfl

theorem walkLocations_cons_of_error {item : α} {exception : PyError}
    (herror : find item = .error exception) :
    walkLocations maxLocations find kept (item :: items) = .error exception := by
  rw [walkLocations, herror, error_bind]

theorem walkLocations_ok (hkept : KeptOf maxLocations met kept false)
    (hfind : ∀ item ∈ items, ∀ found, find item = .ok found →
      StandsFor maxLocations (all item) found)
    {result : List CodeLocation} (hok : walkLocations maxLocations find kept items = .ok result) :
    ∃ full, KeptOf maxLocations (met ++ items.flatMap all) result full := by
  induction items generalizing met kept with
  | nil =>
      rw [walkLocations, Except.ok.injEq] at hok
      rw [← hok, List.flatMap_nil, List.append_nil]
      exact ⟨false, hkept⟩
  | cons item items ih =>
      cases hitem : find item with
      | error exception =>
          rw [walkLocations_cons_of_error hitem] at hok
          cases hok
      | ok found =>
          have hstep := keepLocations_of_standsFor hkept
            (hfind item List.mem_cons_self found hitem)
          rw [walkLocations_cons_of_ok hitem] at hok
          rw [List.flatMap_cons, ← List.append_assoc]
          by_cases hfull : (keepLocations maxLocations kept found).2 = true
          · rw [if_pos hfull, Except.ok.injEq] at hok
            rw [hfull, hok] at hstep
            refine ⟨true, ?_⟩
            constructor
            case nodup => exact hstep.nodup
            case sound =>
              apply Finset.Subset.trans hstep.sound
              rw [keySet_append (met ++ all item)]
              exact Finset.subset_union_left
            case complete =>
              intro hroom
              cases hroom
            case room =>
              intro hroom
              cases hroom
            case capped => exact hstep.capped
          · rw [if_neg hfull] at hok
            rw [Bool.not_eq_true] at hfull
            rw [hfull] at hstep
            exact ih hstep
              (fun other hother => hfind other (List.mem_cons_of_mem item hother)) hok

/-- A walk raises exactly where an item raises before the limit is reached. -/
theorem walkLocations_error_iff (hkept : KeptOf maxLocations met kept false)
    (hfind : ∀ item ∈ items, ∀ found, find item = .ok found →
      StandsFor maxLocations (all item) found) {exception : PyError} :
    walkLocations maxLocations find kept items = .error exception ↔
      ∃ front item back, items = front ++ item :: back ∧ find item = .error exception ∧
        (∀ other ∈ front, ∃ found, find other = .ok found) ∧
          ∀ limit ∈ maxLocations, distinctCount (met ++ front.flatMap all) < limit := by
  induction items generalizing met kept with
  | nil =>
      constructor
      · intro herror
        cases herror
      · rintro ⟨front, item, back, heq, -⟩
        simp at heq
  | cons item items ih =>
      have hrest : ∀ other ∈ items, ∀ found, find other = .ok found →
          StandsFor maxLocations (all other) found :=
        fun other hother => hfind other (List.mem_cons_of_mem item hother)
      cases hitem : find item with
      | error raised =>
          rw [walkLocations_cons_of_error hitem]
          constructor
          · intro heq
            refine ⟨[], item, items, rfl, ?_, ?_, ?_⟩
            · rw [hitem]
              exact heq
            · intro other hother
              cases hother
            · intro limit hlimit
              rw [List.flatMap_nil, List.append_nil]
              exact hkept.distinctCount_lt hlimit
          · rintro ⟨front, other, back, heq, hother, hfront, -⟩
            cases front with
            | nil =>
                rw [List.nil_append, List.cons.injEq] at heq
                rw [← hitem, heq.1, hother]
            | cons first front =>
                rw [List.cons_append, List.cons.injEq] at heq
                obtain ⟨found, hfound⟩ := hfront first List.mem_cons_self
                rw [← heq.1, hitem] at hfound
                cases hfound
      | ok found =>
          have hstep := keepLocations_of_standsFor hkept
            (hfind item List.mem_cons_self found hitem)
          rw [walkLocations_cons_of_ok hitem]
          by_cases hfull : (keepLocations maxLocations kept found).2 = true
          · rw [if_pos hfull]
            constructor
            · intro heq
              cases heq
            · rintro ⟨front, other, back, heq, hother, -, hroom⟩
              cases front with
              | nil =>
                  rw [List.nil_append, List.cons.injEq] at heq
                  rw [← heq.1, hitem] at hother
                  cases hother
              | cons first front =>
                  -- the walk is full behind the first item
                  rw [List.cons_append, List.cons.injEq] at heq
                  have hcapped := hstep.capped hfull
                  have hlt := hroom _ hcapped
                  have hle : (keepLocations maxLocations kept found).1.length ≤
                      distinctCount (met ++ (first :: front).flatMap all) := by
                    rw [← distinctCount_of_nodup hstep.nodup]
                    apply distinctCount_le_of_subset
                    apply Finset.Subset.trans hstep.sound
                    rw [List.flatMap_cons, ← List.append_assoc, ← heq.1,
                      keySet_append (met ++ all item)]
                    exact Finset.subset_union_left
                  omega
          · rw [if_neg hfull]
            rw [Bool.not_eq_true] at hfull
            rw [hfull] at hstep
            rw [ih hstep hrest]
            constructor
            · rintro ⟨front, other, back, heq, hother, hfront, hroom⟩
              refine ⟨item :: front, other, back, ?_, hother, ?_, ?_⟩
              · rw [heq, List.cons_append]
              · intro before hbefore
                cases List.mem_cons.mp hbefore with
                | inl hhead =>
                    rw [hhead]
                    exact ⟨found, hitem⟩
                | inr htail => exact hfront before htail
              · intro limit hlimit
                rw [List.flatMap_cons, ← List.append_assoc]
                exact hroom limit hlimit
            · rintro ⟨front, other, back, heq, hother, hfront, hroom⟩
              cases front with
              | nil =>
                  rw [List.nil_append, List.cons.injEq] at heq
                  rw [← heq.1, hitem] at hother
                  cases hother
              | cons first front =>
                  rw [List.cons_append, List.cons.injEq] at heq
                  refine ⟨front, other, back, heq.2, hother, ?_, ?_⟩
                  · intro before hbefore
                    exact hfront before (List.mem_cons_of_mem first hbefore)
                  · intro limit hlimit
                    have hlt := hroom limit hlimit
                    rw [List.flatMap_cons, ← List.append_assoc, ← heq.1] at hlt
                    exact hlt

theorem walkLocations_isOk_iff (hkept : KeptOf maxLocations met kept false)
    (hfind : ∀ item ∈ items, ∀ found, find item = .ok found →
      StandsFor maxLocations (all item) found) :
    (∃ result, walkLocations maxLocations find kept items = .ok result) ↔
      ∀ front item back, items = front ++ item :: back →
        (∀ limit ∈ maxLocations, distinctCount (met ++ front.flatMap all) < limit) →
          ∃ found, find item = .ok found := by
  constructor
  · rintro ⟨result, hok⟩ front
    -- the items before are answered, since the walk comes to them too
    induction hlength : front.length using Nat.strongRecOn generalizing front with
    | ind length ih =>
        intro item back heq hroom
        cases hitem : find item with
        | ok found => exact ⟨found, rfl⟩
        | error exception =>
            have hfront : ∀ other ∈ front, ∃ found, find other = .ok found := by
              intro other hother
              obtain ⟨before, after, hsplit⟩ := List.append_of_mem hother
              have hshorter : before.length < length := by
                rw [← hlength, hsplit]
                simp
              apply ih before.length hshorter before rfl other (after ++ item :: back)
              · rw [heq, hsplit, List.append_assoc, List.cons_append]
              · intro limit hlimit
                apply Nat.lt_of_le_of_lt _ (hroom limit hlimit)
                apply distinctCount_le_of_subset
                rw [hsplit, List.flatMap_append, ← List.append_assoc,
                  keySet_append (met ++ before.flatMap all)]
                exact Finset.subset_union_left
            have herror := (walkLocations_error_iff hkept hfind).mpr
              ⟨front, item, back, heq, hitem, hfront, hroom⟩
            rw [hok] at herror
            cases herror
  · intro hall
    cases hwalk : walkLocations maxLocations find kept items with
    | ok result => exact ⟨result, rfl⟩
    | error exception =>
        obtain ⟨front, item, back, heq, hitem, -, hroom⟩ :=
          (walkLocations_error_iff hkept hfind).mp hwalk
        obtain ⟨found, hfound⟩ := hall front item back heq hroom
        rw [hitem] at hfound
        cases hfound

end Items

end SuitCode
