import SuitCode.Library.KeyedList
import SuitCode.Library.PairedGroups
import Mathlib.Algebra.Order.Group.Int
import Mathlib.Data.String.Basic

/-!
# Entity deltas

A quality operation reports which symbols of a file it added, removed and updated.  The
symbols of one path, kind and name are sorted by where they start and compared place by
place, so a symbol which is inserted or deleted moves every later namesake.
-/

namespace SuitCode

open KeyedList PairedGroups

/-! ## Symbols -/

/-- `NpmWorkspaceSymbol`, and `PythonWorkspaceSymbol` with the same fields. -/
structure WorkspaceSymbol where
  name : String
  kind : String
  repositoryRelPath : String
  lineStart : Option ℤ := none
  lineEnd : Option ℤ := none
  columnStart : Option ℤ := none
  columnEnd : Option ℤ := none
  containerName : Option String := none
  signature : Option String := none
  deriving DecidableEq, Repr

namespace WorkspaceSymbol

abbrev Anchor := String × String × String

structure State where
  lineStart : Option ℤ
  lineEnd : Option ℤ
  columnStart : Option ℤ
  columnEnd : Option ℤ
  signature : Option String
  deriving DecidableEq, Repr

/-- The key of `_group_by_anchor`. -/
def anchor (symbol : WorkspaceSymbol) : Anchor :=
  (symbol.repositoryRelPath, symbol.kind, symbol.name)

def anchorKey (anchor : Anchor) : String ×ₗ String ×ₗ String :=
  toLex (anchor.1, toLex anchor.2)

def state (symbol : WorkspaceSymbol) : State :=
  ⟨symbol.lineStart, symbol.lineEnd, symbol.columnStart, symbol.columnEnd, symbol.signature⟩

def sortKey (symbol : WorkspaceSymbol) : String ×ₗ String ×ₗ ℤ ×ₗ ℤ ×ₗ String :=
  toLex (symbol.name, toLex (symbol.kind, toLex (symbol.lineStart.getD 0,
    toLex (symbol.columnStart.getD 0, symbol.repositoryRelPath))))

def version (symbol : WorkspaceSymbol) : Anchor × State := (symbol.anchor, symbol.state)

end WorkspaceSymbol

/-! ## The builder -/

/-- `NpmQualityEntityDelta` and `PythonQualityEntityDelta`. -/
structure QualityEntityDelta where
  added : List WorkspaceSymbol
  removed : List WorkspaceSymbol
  updated : List WorkspaceSymbol
  deriving DecidableEq, Repr

variable {after before symbols : List WorkspaceSymbol} {wanted : Anchor}

namespace EntityDeltaBuilder

open WorkspaceSymbol

def sortedGroup (wanted : Anchor) (symbols : List WorkspaceSymbol) : List WorkspaceSymbol :=
  sortedBy sortKey (groupOf anchor wanted symbols)

def anchors (before after : List WorkspaceSymbol) : List Anchor :=
  sortedBy anchorKey (dedupeBy id ((before ++ after).map anchor))

/-- `_state(...) != _state(...)`. -/
def stateDiffers (left right : WorkspaceSymbol) : Bool := left.state ≠ right.state

def changedAt (before after : List WorkspaceSymbol) (wanted : Anchor) :
    List (WorkspaceSymbol × WorkspaceSymbol) :=
  changedPairs stateDiffers (sortedGroup wanted before) (sortedGroup wanted after)

def removedAt (before after : List WorkspaceSymbol) (wanted : Anchor) : List WorkspaceSymbol :=
  surplus (sortedGroup wanted before) (sortedGroup wanted after)

def addedAt (before after : List WorkspaceSymbol) (wanted : Anchor) : List WorkspaceSymbol :=
  surplus (sortedGroup wanted after) (sortedGroup wanted before)

/-- `build` of both providers. -/
def build (before after : List WorkspaceSymbol) : QualityEntityDelta where
  added := sortedBy sortKey ((anchors before after).flatMap (addedAt before after))
  removed := sortedBy sortKey ((anchors before after).flatMap (removedAt before after))
  updated := sortedBy sortKey
    ((anchors before after).flatMap fun wanted => (changedAt before after wanted).map Prod.snd)

/-- The symbols of `before` which the updated ones stand for. -/
def oldVersions (before after : List WorkspaceSymbol) : List WorkspaceSymbol :=
  (anchors before after).flatMap fun wanted => (changedAt before after wanted).map Prod.fst

/-! ## Deltas which agree with their tables -/

/-- What a delta promises about the symbols before and after an operation. -/
structure Agrees (before after : List WorkspaceSymbol) : Prop where
  unreported : ∀ kept ∈ before.map version, kept ∈ after.map version →
    kept ∉ (build before after).removed.map version ∧
      kept ∉ (build before after).added.map version ∧
        kept ∉ (build before after).updated.map version
  balance : (after.map version : Multiset (Anchor × State)) =
    (before.map version : Multiset (Anchor × State)) -
        ((build before after).removed.map version : Multiset (Anchor × State)) -
        ((oldVersions before after).map version : Multiset (Anchor × State)) +
      ((build before after).added.map version : Multiset (Anchor × State)) +
      ((build before after).updated.map version : Multiset (Anchor × State))

/-- A symbol of both tables is in `after` only at places of its group where it is in `before`,
and in `before` only at places which `after` reaches. -/
def KeepsPlaces (before after : List WorkspaceSymbol) : Prop :=
  ∀ symbol ∈ before, symbol.version ∈ after.map version →
    let earlier := (sortedGroup symbol.anchor before).map state
    let later := (sortedGroup symbol.anchor after).map state
    (∀ place : ℕ, later[place]? = some symbol.state → earlier[place]? = some symbol.state) ∧
      ∀ place : ℕ, earlier[place]? = some symbol.state → place < later.length

theorem mem_anchors :
    wanted ∈ anchors before after ↔ wanted ∈ (before ++ after).map anchor := by
  rw [anchors, mem_sortedBy, mem_dedupeBy_id]

theorem nodup_anchors (before after : List WorkspaceSymbol) : (anchors before after).Nodup := by
  have hnodup := nodup_map_dedupeBy id ((before ++ after).map anchor)
  rw [List.map_id] at hnodup
  exact (sortedBy_perm anchorKey _).nodup_iff.mpr hnodup

theorem mem_sortedGroup {symbol : WorkspaceSymbol} :
    symbol ∈ sortedGroup wanted symbols ↔ symbol ∈ symbols ∧ symbol.anchor = wanted := by
  rw [sortedGroup, mem_sortedBy, mem_groupOf]

theorem flatMap_sortedGroup_perm {keys : List Anchor} (hnodup : keys.Nodup)
    (hall : ∀ symbol ∈ symbols, symbol.anchor ∈ keys) :
    (keys.flatMap fun wanted => sortedGroup wanted symbols).Perm symbols :=
  (List.Perm.flatMap_left keys fun _ _ => sortedBy_perm sortKey _).trans
    (flatMap_groupOf_perm hnodup hall)

/-! ## The balance -/

def keptAt (before after : List WorkspaceSymbol) (wanted : Anchor) :
    List (WorkspaceSymbol × WorkspaceSymbol) :=
  keptPairs stateDiffers (sortedGroup wanted before) (sortedGroup wanted after)

theorem anchors_of_mem_zip {pair : WorkspaceSymbol × WorkspaceSymbol}
    (hpair : pair ∈ (sortedGroup wanted before).zip (sortedGroup wanted after)) :
    pair.1.anchor = wanted ∧ pair.2.anchor = wanted := by
  have hmem := List.of_mem_zip hpair
  exact ⟨(mem_sortedGroup.mp hmem.1).2, (mem_sortedGroup.mp hmem.2).2⟩

theorem version_of_mem_keptAt {pair : WorkspaceSymbol × WorkspaceSymbol}
    (hpair : pair ∈ keptAt before after wanted) :
    pair.1.version = pair.2.version := by
  have hparts := List.mem_filter.mp hpair
  have hanchors := anchors_of_mem_zip hparts.1
  have hstate : pair.1.state = pair.2.state := by simpa [stateDiffers] using hparts.2
  rw [version, version, hanchors.1, hanchors.2, hstate]

theorem before_perm_parts (before after : List WorkspaceSymbol) :
    before.Perm (((anchors before after).flatMap fun wanted =>
        (keptAt before after wanted).map Prod.fst) ++
      (oldVersions before after ++ (anchors before after).flatMap (removedAt before after))) := by
  have hall : ∀ symbol ∈ before, symbol.anchor ∈ anchors before after := by
    intro symbol hsymbol
    rw [mem_anchors]
    exact List.mem_map_of_mem (List.mem_append_left _ hsymbol)
  have hgroups := flatMap_sortedGroup_perm (nodup_anchors before after) hall
  have hparts := List.Perm.flatMap_left (anchors before after) fun wanted _ =>
    before_perm stateDiffers (sortedGroup wanted before) (sortedGroup wanted after)
  exact (hparts.trans hgroups).symm.trans (flatMap_parts_perm _ _ _ _)

theorem after_perm_parts (before after : List WorkspaceSymbol) :
    after.Perm (((anchors before after).flatMap fun wanted =>
        (keptAt before after wanted).map Prod.snd) ++
      (((anchors before after).flatMap fun wanted =>
          (changedAt before after wanted).map Prod.snd) ++
        (anchors before after).flatMap (addedAt before after))) := by
  have hall : ∀ symbol ∈ after, symbol.anchor ∈ anchors before after := by
    intro symbol hsymbol
    rw [mem_anchors]
    exact List.mem_map_of_mem (List.mem_append_right _ hsymbol)
  have hgroups := flatMap_sortedGroup_perm (nodup_anchors before after) hall
  have hparts := List.Perm.flatMap_left (anchors before after) fun wanted _ =>
    after_perm stateDiffers (sortedGroup wanted before) (sortedGroup wanted after)
  exact (hparts.trans hgroups).symm.trans (flatMap_parts_perm _ _ _ _)

theorem balance (before after : List WorkspaceSymbol) :
    (after.map version : Multiset (Anchor × State)) =
      (before.map version : Multiset (Anchor × State)) -
          ((build before after).removed.map version : Multiset (Anchor × State)) -
          ((oldVersions before after).map version : Multiset (Anchor × State)) +
        ((build before after).added.map version : Multiset (Anchor × State)) +
        ((build before after).updated.map version : Multiset (Anchor × State)) := by
  have hkept : ((anchors before after).flatMap fun wanted =>
        (keptAt before after wanted).map Prod.fst).map version =
      ((anchors before after).flatMap fun wanted =>
        (keptAt before after wanted).map Prod.snd).map version := by
    rw [List.map_flatMap, List.map_flatMap]
    apply List.flatMap_congr
    intro wanted _
    rw [List.map_map, List.map_map]
    exact List.map_congr_left fun pair hpair => version_of_mem_keptAt hpair
  have hremoved := (sortedBy_perm sortKey
    ((anchors before after).flatMap (removedAt before after))).map version
  have hadded := (sortedBy_perm sortKey
    ((anchors before after).flatMap (addedAt before after))).map version
  have hupdated := (sortedBy_perm sortKey ((anchors before after).flatMap fun wanted =>
    (changedAt before after wanted).map Prod.snd)).map version
  have hbefore := (before_perm_parts before after).map version
  have hafter := (after_perm_parts before after).map version
  simp only [List.map_append] at hbefore hafter
  rw [hkept] at hbefore
  apply balance_of_perm
  · exact hbefore.trans ((hremoved.symm.append_left _).append_left _)
  · exact hafter.trans ((hupdated.symm.append hadded.symm).append_left _)

/-! ## What is reported -/

theorem mem_flatMap_version_iff {keys : List Anchor} {part : Anchor → List WorkspaceSymbol}
    (hpart : ∀ wanted, ∀ symbol ∈ part wanted, symbol.anchor = wanted) (hwanted : wanted ∈ keys)
    {found : State} :
    (wanted, found) ∈ (keys.flatMap part).map version ↔
      found ∈ (part wanted).map state := by
  simp only [List.mem_map, List.mem_flatMap, version, Prod.mk.injEq]
  constructor
  · rintro ⟨symbol, ⟨key, -, hmem⟩, hanchor, hstate⟩
    rw [hpart key symbol hmem] at hanchor
    rw [hanchor] at hmem
    exact ⟨symbol, hmem, hstate⟩
  · rintro ⟨symbol, hmem, hstate⟩
    exact ⟨symbol, ⟨wanted, hwanted, hmem⟩, hpart wanted symbol hmem, hstate⟩

theorem mem_map_sortedBy {value : Anchor × State} :
    value ∈ (sortedBy sortKey symbols).map version ↔ value ∈ symbols.map version :=
  ((sortedBy_perm sortKey symbols).map version).mem_iff

theorem map_surplus {α β : Type} (f : α → β) (items other : List α) :
    (surplus items other).map f = surplus (items.map f) (other.map f) := by
  rw [surplus, surplus, List.map_drop, List.length_map, List.length_map]

theorem anchor_of_mem_surplus {other : List WorkspaceSymbol} :
    ∀ symbol ∈ surplus (sortedGroup wanted symbols) (sortedGroup wanted other),
      symbol.anchor = wanted := by
  intro symbol hsymbol
  exact (mem_sortedGroup.mp (List.mem_of_mem_drop hsymbol)).2

theorem unreported_iff (hwanted : wanted ∈ anchors before after) (found : State) :
    ((wanted, found) ∉ (build before after).removed.map version ∧
        (wanted, found) ∉ (build before after).added.map version ∧
          (wanted, found) ∉ (build before after).updated.map version) ↔
      (∀ place : ℕ, ((sortedGroup wanted after).map state)[place]? = some found →
        ((sortedGroup wanted before).map state)[place]? = some found) ∧
        ∀ place : ℕ, ((sortedGroup wanted before).map state)[place]? = some found →
          place < ((sortedGroup wanted after).map state).length := by
  have hremoved : (wanted, found) ∈ (build before after).removed.map version ↔
      found ∈ surplus ((sortedGroup wanted before).map state)
        ((sortedGroup wanted after).map state) := by
    have hpart : ∀ wanted, ∀ symbol ∈ removedAt before after wanted, symbol.anchor = wanted :=
      fun _ => anchor_of_mem_surplus
    rw [build, mem_map_sortedBy, mem_flatMap_version_iff hpart hwanted, removedAt, map_surplus]
  have hadded : (wanted, found) ∈ (build before after).added.map version ↔
      found ∈ surplus ((sortedGroup wanted after).map state)
        ((sortedGroup wanted before).map state) := by
    have hpart : ∀ wanted, ∀ symbol ∈ addedAt before after wanted, symbol.anchor = wanted :=
      fun _ => anchor_of_mem_surplus
    rw [build, mem_map_sortedBy, mem_flatMap_version_iff hpart hwanted, addedAt, map_surplus]
  have hupdated : (wanted, found) ∈ (build before after).updated.map version ↔
      ∃ pair ∈ ((sortedGroup wanted before).map state).zip ((sortedGroup wanted after).map state),
        pair.1 ≠ pair.2 ∧ pair.2 = found := by
    have hpart : ∀ wanted, ∀ symbol ∈ (changedAt before after wanted).map Prod.snd,
        symbol.anchor = wanted := by
      intro wanted symbol hsymbol
      obtain ⟨pair, hpair, rfl⟩ := List.mem_map.mp hsymbol
      exact (anchors_of_mem_zip (List.mem_filter.mp hpair).1).2
    rw [build, mem_map_sortedBy, mem_flatMap_version_iff hpart hwanted, changedAt, changedPairs,
      List.zip_map]
    simp only [stateDiffers, List.mem_map, List.mem_filter, decide_eq_true_eq, Prod.map]
    constructor
    · rintro ⟨symbol, ⟨pair, ⟨hpair, hne⟩, rfl⟩, hstate⟩
      exact ⟨_, ⟨pair, hpair, rfl⟩, hne, hstate⟩
    · rintro ⟨states, ⟨pair, hpair, rfl⟩, hne, hstate⟩
      exact ⟨pair.2, ⟨pair, ⟨hpair, hne⟩, rfl⟩, hstate⟩
  rw [hremoved, hadded, hupdated, ← escapes_iff]
  simp only [not_exists, not_and]

/-- A delta agrees with its tables exactly where what is in both keeps its places. -/
theorem agrees_iff (before after : List WorkspaceSymbol) :
    Agrees before after ↔ KeepsPlaces before after := by
  have hwanted : ∀ symbol ∈ before, symbol.anchor ∈ anchors before after := by
    intro symbol hsymbol
    rw [mem_anchors]
    exact List.mem_map_of_mem (List.mem_append_left _ hsymbol)
  constructor
  · intro hagrees symbol hsymbol hafter
    have hkept := hagrees.unreported symbol.version (List.mem_map_of_mem hsymbol) hafter
    exact (unreported_iff (hwanted symbol hsymbol) symbol.state).mp hkept
  · intro hplaces
    constructor
    case unreported =>
      intro kept hbefore hafter
      obtain ⟨symbol, hsymbol, rfl⟩ := List.mem_map.mp hbefore
      exact (unreported_iff (hwanted symbol hsymbol) symbol.state).mpr
        (hplaces symbol hsymbol hafter)
    case balance => exact balance before after

def namesake (line : ℤ) : WorkspaceSymbol :=
  { name := "run", kind := "function", repositoryRelPath := "a.ts", lineStart := some line }

/-- The first of two namesakes is deleted, and the second one is reported twice. -/
theorem not_always_agrees :
    ¬ ∀ before after : List WorkspaceSymbol, Agrees before after := by
  intro hall
  have hunreported := (hall [namesake 1, namesake 5] [namesake 5]).unreported (namesake 5).version
    (by decide) (by decide)
  exact hunreported.1 (by decide)

end EntityDeltaBuilder

end SuitCode
