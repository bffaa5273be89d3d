import SuitCode.Library.ExceptList
import SuitCode.Library.KeyedList
import Mathlib.Data.List.Induction
import Mathlib.Data.Nat.Find

/-!
# Ranked claims

Claims on keys are recorded one after another.  A claim of a smaller rank takes
the key over, one of a larger rank is passed over, and two owners of one rank
raise.  What is recorded is then a claim of the least rank on its key, and a run
over claims in the order of their ranks raises exactly where two claims of the
least rank disagree.
-/

namespace RankedClaims

open KeyedList ExceptList

universe u

variable {α κ ο ε : Type u}

def record [DecidableEq κ] [DecidableEq ο] (key : α → κ) (owner : α → ο) (rank : α → ℕ)
    (raised : α → α → ε) (held : List α) (claim : α) : Except ε (List α) :=
  match leader? key held (key claim) with
  | none => .ok (held ++ [claim])
  | some current =>
      if rank claim < rank current then
        .ok (held.map fun item => if key item = key claim then claim else item)
      else if rank claim = rank current && owner current ≠ owner claim then
        .error (raised current claim)
      else
        .ok held

def Precedes (owner : α → ο) (rank : α → ℕ) (item claim : α) : Prop :=
  rank item < rank claim ∨ rank item = rank claim ∧ owner item = owner claim

structure Best (key : α → κ) (rank : α → ℕ) (claims : List α) (claim : α) : Prop where
  mem : claim ∈ claims
  least : ∀ other ∈ claims, key other = key claim → rank claim ≤ rank other

/-- Claims which are best on their keys have one owner where the keys stand for one
thing. -/
def Settled {φ : Type u} (thing : κ → φ) (key : α → κ) (owner : α → ο) (rank : α → ℕ)
    (claims : List α) : Prop :=
  ∀ left right, Best key rank claims left → Best key rank claims right →
    thing (key left) = thing (key right) → owner left = owner right

structure Recorded (key : α → κ) (owner : α → ο) (rank : α → ℕ) (claims held : List α) :
    Prop where
  keys_nodup : (held.map key).Nodup
  covers : ∀ claim ∈ claims, ∃ item ∈ held, key item = key claim
  mem : ∀ item ∈ held, item ∈ claims
  precedes : ∀ item ∈ held, ∀ claim ∈ claims, key claim = key item →
    Precedes owner rank item claim

variable {item : α}

section Recording

variable {key : α → κ} {owner : α → ο} {rank : α → ℕ} {claims held : List α} {claim : α}

theorem Precedes.rank_le (hprecedes : Precedes owner rank item claim) :
    rank item ≤ rank claim := by
  cases hprecedes with
  | inl hlt => exact hlt.le
  | inr hsame => exact hsame.1.le

theorem Precedes.of_lt {other : α} (hlt : rank item < rank other)
    (hprecedes : Precedes owner rank other claim) : Precedes owner rank item claim :=
  .inl (hlt.trans_le hprecedes.rank_le)

theorem Recorded.best (hheld : Recorded key owner rank claims held) (hitem : item ∈ held) :
    Best key rank claims item := by
  constructor
  case mem => exact hheld.mem item hitem
  case least =>
    intro other hother hkey
    exact (hheld.precedes item hitem other hother hkey).rank_le

theorem Recorded.owner_eq (hheld : Recorded key owner rank claims held) (hitem : item ∈ held)
    (hbest : Best key rank claims claim) (hkey : key item = key claim) :
    owner item = owner claim := by
  have hle : rank claim ≤ rank item := hbest.least item (hheld.mem item hitem) hkey
  cases hheld.precedes item hitem claim hbest.mem hkey.symm with
  | inl hlt => omega
  | inr hsame => exact hsame.2

theorem Recorded.nil : Recorded key owner rank [] [] := by
  constructor <;> simp

theorem Recorded.perm {arranged : List α} (hheld : Recorded key owner rank claims held)
    (hperm : arranged.Perm held) : Recorded key owner rank claims arranged := by
  constructor
  case keys_nodup => exact (hperm.map key).nodup_iff.mpr hheld.keys_nodup
  case covers =>
    intro claim hclaim
    obtain ⟨item, hitem, hkey⟩ := hheld.covers claim hclaim
    exact ⟨item, hperm.mem_iff.mpr hitem, hkey⟩
  case mem =>
    intro item hitem
    exact hheld.mem item (hperm.mem_iff.mp hitem)
  case precedes =>
    intro item hitem
    exact hheld.precedes item (hperm.mem_iff.mp hitem)

theorem Recorded.new (hheld : Recorded key owner rank claims held)
    (hnew : ∀ item ∈ held, key item ≠ key claim) :
    Recorded key owner rank (claims ++ [claim]) (held ++ [claim]) := by
  have hclaims : ∀ other ∈ claims, key other ≠ key claim := by
    intro other hmem heq
    obtain ⟨item, hitem, hkey⟩ := hheld.covers other hmem
    exact hnew item hitem (hkey.trans heq)
  constructor
  case keys_nodup =>
    rw [List.map_append, List.map_singleton, List.nodup_append']
    refine ⟨hheld.keys_nodup, List.nodup_singleton _, ?_⟩
    rw [List.disjoint_singleton]
    intro hmem
    obtain ⟨item, hitem, hkey⟩ := List.mem_map.mp hmem
    exact hnew item hitem hkey
  case covers =>
    rw [List.forall_mem_append, List.forall_mem_singleton]
    constructor
    · intro other hmem
      obtain ⟨item, hitem, hkey⟩ := hheld.covers other hmem
      exact ⟨item, List.mem_append_left _ hitem, hkey⟩
    · exact ⟨claim, by simp, rfl⟩
  case mem =>
    rw [List.forall_mem_append, List.forall_mem_singleton]
    constructor
    · intro item hitem
      exact List.mem_append_left _ (hheld.mem item hitem)
    · simp
  case precedes =>
    rw [List.forall_mem_append, List.forall_mem_singleton]
    constructor
    · intro item hitem
      rw [List.forall_mem_append, List.forall_mem_singleton]
      constructor
      · exact hheld.precedes item hitem
      · intro heq
        exact absurd heq.symm (hnew item hitem)
    · rw [List.forall_mem_append, List.forall_mem_singleton]
      constructor
      · intro other hmem heq
        exact absurd heq (hclaims other hmem)
      · intro _
        exact .inr ⟨rfl, rfl⟩

theorem Recorded.kept (hheld : Recorded key owner rank claims held) {current : α}
    (hcurrent : current ∈ held) (hkey : key current = key claim)
    (hprecedes : Precedes owner rank current claim) :
    Recorded key owner rank (claims ++ [claim]) held := by
  constructor
  case keys_nodup => exact hheld.keys_nodup
  case covers =>
    rw [List.forall_mem_append, List.forall_mem_singleton]
    exact ⟨hheld.covers, current, hcurrent, hkey⟩
  case mem =>
    intro item hitem
    exact List.mem_append_left _ (hheld.mem item hitem)
  case precedes =>
    intro item hitem
    rw [List.forall_mem_append, List.forall_mem_singleton]
    constructor
    · exact hheld.precedes item hitem
    · intro heq
      have hsame : item = current :=
        List.inj_on_of_nodup_map hheld.keys_nodup hitem hcurrent (heq.symm.trans hkey.symm)
      rw [hsame]
      exact hprecedes

theorem Recorded.replaced [DecidableEq κ] (hheld : Recorded key owner rank claims held) {current : α}
    (hcurrent : current ∈ held) (hkey : key current = key claim)
    (hlt : rank claim < rank current) :
    Recorded key owner rank (claims ++ [claim])
      (held.map fun item => if key item = key claim then claim else item) := by
  have hkeys : ∀ item, key (if key item = key claim then claim else item) = key item := by
    intro item
    split
    · rename_i heq
      exact heq.symm
    · rfl
  have hmem : ∀ item ∈ held.map fun item => if key item = key claim then claim else item,
      item = claim ∨ item ∈ held ∧ key item ≠ key claim := by
    intro item hitem
    obtain ⟨origin, horigin, rfl⟩ := List.mem_map.mp hitem
    by_cases heq : key origin = key claim
    · exact .inl (if_pos heq)
    · rw [if_neg heq]
      exact .inr ⟨horigin, heq⟩
  constructor
  case keys_nodup =>
    have hsame : (held.map fun item => if key item = key claim then claim else item).map key =
        held.map key := by
      rw [List.map_map]
      exact List.map_congr_left fun item _ => hkeys item
    rw [hsame]
    exact hheld.keys_nodup
  case covers =>
    have hcovers : ∀ item ∈ held, ∃ other ∈ held.map fun item =>
        if key item = key claim then claim else item, key other = key item := by
      intro item hitem
      exact ⟨_, List.mem_map_of_mem hitem, hkeys item⟩
    rw [List.forall_mem_append, List.forall_mem_singleton]
    constructor
    · intro other hother
      obtain ⟨item, hitem, heq⟩ := hheld.covers other hother
      rw [← heq]
      exact hcovers item hitem
    · obtain ⟨item, hitem, heq⟩ := hcovers current hcurrent
      exact ⟨item, hitem, heq.trans hkey⟩
  case mem =>
    intro item hitem
    cases hmem item hitem with
    | inl heq => simp [heq]
    | inr hkept => exact List.mem_append_left _ (hheld.mem item hkept.1)
  case precedes =>
    intro item hitem
    rw [List.forall_mem_append, List.forall_mem_singleton]
    cases hmem item hitem with
    | inl heq =>
        rw [heq]
        constructor
        · intro other hother hsame
          apply Precedes.of_lt hlt
          exact hheld.precedes current hcurrent other hother (hsame.trans hkey.symm)
        · intro _
          exact .inr ⟨rfl, rfl⟩
    | inr hkept =>
        constructor
        · exact hheld.precedes item hkept.1
        · intro heq
          exact absurd heq.symm hkept.2

theorem Best.snoc (hbest : Best key rank claims item) (hle : rank item ≤ rank claim) :
    Best key rank (claims ++ [claim]) item := by
  constructor
  case mem => exact List.mem_append_left _ hbest.mem
  case least =>
    rw [List.forall_mem_append, List.forall_mem_singleton]
    exact ⟨hbest.least, fun _ => hle⟩

end Recording

/-! ## Runs -/

section Running

variable [DecidableEq κ] [DecidableEq ο] {key : α → κ} {owner : α → ο} {rank : α → ℕ}
  {raised : α → α → ε} {claims held next : List α} {claim : α}

/-- Recording one more claim keeps the best claim of each key. -/
theorem Recorded.step (hheld : Recorded key owner rank claims held)
    (hstep : record key owner rank raised held claim = .ok next) :
    Recorded key owner rank (claims ++ [claim]) next := by
  unfold record at hstep
  cases hleader : leader? key held (key claim) with
  | none =>
      simp only [hleader, Except.ok.injEq] at hstep
      rw [← hstep]
      apply hheld.new
      intro item hitem heq
      have hsome := exists_leader key hitem
      rw [heq, hleader] at hsome
      simp at hsome
  | some current =>
      have hcurrent := leader?_mem hleader
      have hkey := leader?_key hleader
      simp only [hleader] at hstep
      by_cases hlt : rank claim < rank current
      · rw [if_pos hlt, Except.ok.injEq] at hstep
        rw [← hstep]
        exact hheld.replaced hcurrent hkey hlt
      · rw [if_neg hlt] at hstep
        split at hstep
        · cases hstep
        · rename_i hclash
          rw [Except.ok.injEq] at hstep
          rw [← hstep]
          apply hheld.kept hcurrent hkey
          by_cases hrank : rank claim = rank current
          · exact .inr ⟨hrank.symm, by simpa [hrank] using hclash⟩
          · exact .inl (by omega)

theorem exists_record
    (hagree : ∀ item ∈ held, key item = key claim → rank claim = rank item →
      owner item = owner claim) :
    ∃ next, record key owner rank raised held claim = .ok next := by
  unfold record
  cases hleader : leader? key held (key claim) with
  | none => exact ⟨_, rfl⟩
  | some current =>
      simp only
      split
      · exact ⟨_, rfl⟩
      · split
        · rename_i hclash
          have howner := hagree current (leader?_mem hleader) (leader?_key hleader)
          simp only [Bool.and_eq_true, decide_eq_true_eq, ne_eq, decide_not,
            Bool.not_eq_true', decide_eq_false_iff_not] at hclash
          exact absurd (howner hclash.1) hclash.2
        · exact ⟨_, rfl⟩

theorem recorded_of_run
    (hrun : claims.foldlM (record key owner rank raised) [] = .ok held) :
    Recorded key owner rank claims held := by
  apply foldlM_induction (motive := Recorded key owner rank) Recorded.nil _ hrun
  intro taken claim state next hstate hstep
  exact hstate.step hstep

theorem exists_run (raised : α → α → ε)
    (hordered : claims.Pairwise fun left right => rank left ≤ rank right)
    (hsettled : Settled id key owner rank claims) :
    ∃ held, claims.foldlM (record key owner rank raised) [] = .ok held := by
  induction claims using List.reverseRecOn with
  | nil => exact ⟨[], rfl⟩
  | append_singleton claims claim ih =>
      rw [List.pairwise_append] at hordered
      have hlast : ∀ item ∈ claims, rank item ≤ rank claim := by
        intro item hitem
        exact hordered.2.2 item hitem claim (List.mem_singleton_self claim)
      have hearlier : Settled id key owner rank claims := by
        intro left right hleft hright hkey
        exact hsettled left right (hleft.snoc (hlast left hleft.mem))
          (hright.snoc (hlast right hright.mem)) hkey
      obtain ⟨state, hstate⟩ := ih hordered.1 hearlier
      have hrecorded := recorded_of_run hstate
      have hnext : ∃ next, record key owner rank raised state claim = .ok next := by
        apply exists_record
        intro item hitem hkey hrank
        have hbest := (hrecorded.best hitem).snoc (hlast item (hrecorded.mem item hitem))
        apply hsettled item claim hbest _ hkey
        constructor
        case mem => simp
        case least =>
          intro other hother hsame
          rw [hrank]
          exact hbest.least other hother (hsame.trans hkey.symm)
      obtain ⟨next, hnext⟩ := hnext
      exact ⟨next, foldlM_snoc_eq_ok.mpr ⟨state, hstate, hnext⟩⟩

end Running

/-! ## Keys which stand for one thing -/

/-- What is recorded has one owner for each thing which the keys stand for: the owner of
a claim which no other claim on the thing undercuts. -/
structure OneOwner {φ : Type u} (thing : κ → φ) (key : α → κ) (owner : α → ο) (rank : α → ℕ)
    (claims held : List α) : Prop where
  same : ∀ left ∈ held, ∀ right ∈ held, thing (key left) = thing (key right) →
    owner left = owner right
  least : ∀ item ∈ held, ∃ claim, Best (fun other => thing (key other)) rank claims claim ∧
    thing (key claim) = thing (key item) ∧ owner claim = owner item

section Things

variable {φ : Type u} {thing : κ → φ} {key : α → κ} {owner : α → ο} {rank : α → ℕ}
  {claims held : List α}

theorem Settled.keys (hsettled : Settled thing key owner rank claims) :
    Settled id key owner rank claims := by
  intro left right hleft hright hkey
  exact hsettled left right hleft hright (congrArg thing hkey)

theorem exists_best (key : α → φ) (rank : α → ℕ) (hitem : item ∈ claims) :
    ∃ claim, Best key rank claims claim ∧ key claim = key item := by
  classical
  have hsome : ∃ n, ∃ claim ∈ claims, key claim = key item ∧ rank claim = n :=
    ⟨rank item, item, hitem, rfl, rfl⟩
  obtain ⟨claim, hmem, hkey, hrank⟩ := Nat.find_spec hsome
  refine ⟨claim, ⟨hmem, ?_⟩, hkey⟩
  intro other hother hsame
  rw [hrank]
  exact Nat.find_min' hsome ⟨other, hother, hsame.trans hkey, rfl⟩

theorem Best.of_thing {claim : α} (hbest : Best (fun other => thing (key other)) rank claims claim) :
    Best key rank claims claim := by
  constructor
  case mem => exact hbest.mem
  case least =>
    intro other hother hkey
    exact hbest.least other hother (congrArg thing hkey)

theorem Recorded.oneOwner_iff (hheld : Recorded key owner rank claims held) :
    OneOwner thing key owner rank claims held ↔ Settled thing key owner rank claims := by
  constructor
  · intro hone left right hleft hright hthing
    obtain ⟨first, hfirst, hkey⟩ := hheld.covers left hleft.mem
    obtain ⟨second, hsecond, hkey'⟩ := hheld.covers right hright.mem
    calc
      owner left = owner first := (hheld.owner_eq hfirst hleft hkey).symm
      _ = owner second := hone.same first hfirst second hsecond (by rw [hkey, hkey', hthing])
      _ = owner right := hheld.owner_eq hsecond hright hkey'
  · intro hsettled
    constructor
    case same =>
      intro left hleft right hright hthing
      exact hsettled left right (hheld.best hleft) (hheld.best hright) hthing
    case least =>
      intro item hitem
      obtain ⟨claim, hbest, hthing⟩ :=
        exists_best (fun other => thing (key other)) rank (hheld.mem item hitem)
      have howner := hsettled claim item hbest.of_thing (hheld.best hitem) hthing
      exact ⟨claim, hbest, hthing, howner⟩

end Things

end RankedClaims
