import Mathlib.Data.List.Count
import Mathlib.Data.List.Perm.Basic
import Mathlib.Data.List.Nodup
import Mathlib.Algebra.BigOperators.Group.List.Basic
import Mathlib.Algebra.GroupWithZero.Nat
import Mathlib.Tactic.ByContra

/-!
# Serving queues in turn

Every queue that is not empty gives its first item in each round, until all queues are empty.
What is served keeps the order of each queue, and queues which are not empty yet have given
numbers of items that differ by at most one.
-/

namespace RoundRobin

variable {κ τ : Type}

def turn (order : List κ) (queues : κ → List τ) : List τ :=
  order.filterMap fun key => (queues key).head?

def behind (queues : κ → List τ) : κ → List τ := fun key => (queues key).tail

def size (order : List κ) (queues : κ → List τ) : ℕ :=
  (order.map fun key => (queues key).length).sum

theorem turn_eq_nil_iff {order : List κ} {queues : κ → List τ} :
    turn order queues = [] ↔ ∀ key ∈ order, queues key = [] := by
  simp [turn, List.filterMap_eq_nil_iff]

theorem size_eq_add (order : List κ) (queues : κ → List τ) :
    size order queues = (turn order queues).length + size order (behind queues) := by
  induction order with
  | nil => rfl
  | cons key order ih =>
      unfold size turn at *
      rw [List.map_cons, List.sum_cons, ih, List.filterMap_cons, List.map_cons, List.sum_cons]
      cases hqueue : queues key with
      | nil => simp [behind, hqueue]
      | cons item items =>
          simp only [behind, hqueue, List.head?_cons, List.length_cons, List.tail_cons]
          omega

theorem size_behind_lt {order : List κ} {queues : κ → List τ} (hturn : turn order queues ≠ []) :
    size order (behind queues) < size order queues := by
  have hlength := List.length_pos_iff.mpr hturn
  rw [size_eq_add order queues]
  omega

def serve (order : List κ) (queues : κ → List τ) : List τ :=
  if turn order queues = [] then [] else turn order queues ++ serve order (behind queues)
termination_by size order queues
decreasing_by exact size_behind_lt ‹_›

/-- Every item is in the queue of its key, and every queue with an item has its turn. -/
structure Sorted (key : τ → κ) (order : List κ) (queues : κ → List τ) : Prop where
  nodup : order.Nodup
  mem_order : ∀ wanted, queues wanted ≠ [] → wanted ∈ order
  key_eq : ∀ wanted, ∀ item ∈ queues wanted, key item = wanted

namespace Sorted

variable {key : τ → κ} {order : List κ} {queues : κ → List τ}

theorem behind (hsorted : Sorted key order queues) :
    Sorted key order (RoundRobin.behind queues) := by
  constructor
  case nodup => exact hsorted.nodup
  case mem_order =>
    intro wanted hsome
    apply hsorted.mem_order wanted
    intro hnil
    exact hsome (by simp [RoundRobin.behind, hnil])
  case key_eq =>
    intro wanted item hitem
    exact hsorted.key_eq wanted item (List.mem_of_mem_tail hitem)

variable [DecidableEq κ]

theorem filter_turn (hsorted : Sorted key order queues) (wanted : κ) :
    (turn order queues).filter (fun item => key item = wanted) =
      if wanted ∈ order then (queues wanted).head?.toList else [] := by
  have hnodup := hsorted.nodup
  have hkey := hsorted.key_eq
  clear hsorted
  induction order with
  | nil => rfl
  | cons first order ih =>
      have htail := ih (List.nodup_cons.mp hnodup).2
      have hfirst := (List.nodup_cons.mp hnodup).1
      unfold turn at htail ⊢
      rw [List.filterMap_cons]
      by_cases heq : first = wanted
      · rw [heq] at hfirst ⊢
        rw [if_neg hfirst] at htail
        cases hqueue : queues wanted with
        | nil => simp [htail]
        | cons item items =>
            have hitem : key item = wanted := hkey wanted item (by simp [hqueue])
            simp [hitem, htail]
      · have hmem : wanted ∈ first :: order ↔ wanted ∈ order := by
          simp [List.mem_cons, Ne.symm heq]
        simp only [hmem, ← htail]
        cases hqueue : queues first with
        | nil => simp
        | cons item items =>
            have hitem : key item ≠ wanted := by
              rw [hkey first item (by simp [hqueue])]
              exact heq
            simp [hitem]

theorem filter_turn_eq (hsorted : Sorted key order queues) (wanted : κ) :
    (turn order queues).filter (fun item => key item = wanted) =
      (queues wanted).head?.toList := by
  rw [hsorted.filter_turn]
  split
  · rfl
  · rename_i habsent
    have hnil : queues wanted = [] := by
      by_contra hsome
      exact habsent (hsorted.mem_order wanted hsome)
    rw [hnil]
    rfl

/-- Serving keeps every queue, in its order. -/
theorem filter_serve (hsorted : Sorted key order queues) (wanted : κ) :
    (serve order queues).filter (fun item => key item = wanted) = queues wanted := by
  fun_induction serve order queues with
  | case1 queues hturn =>
      by_cases hmem : wanted ∈ order
      · rw [turn_eq_nil_iff.mp hturn wanted hmem]
        rfl
      · by_contra hne
        exact hmem (hsorted.mem_order wanted (Ne.symm hne))
  | case2 queues hturn ih =>
      rw [List.filter_append, hsorted.filter_turn_eq, ih hsorted.behind]
      cases hqueue : queues wanted with
      | nil => simp [RoundRobin.behind, hqueue]
      | cons item items => simp [RoundRobin.behind, hqueue]

theorem countP_turn (hsorted : Sorted key order queues) {wanted : κ}
    (hsome : queues wanted ≠ []) :
    (turn order queues).countP (fun item => key item = wanted) = 1 := by
  rw [List.countP_eq_length_filter, hsorted.filter_turn_eq]
  cases hqueue : queues wanted with
  | nil => exact absurd hqueue hsome
  | cons item items => rfl

theorem countP_take_turn_le (hsorted : Sorted key order queues) (wanted : κ) (count : ℕ) :
    ((turn order queues).take count).countP (fun item => key item = wanted) ≤ 1 := by
  have htake := @List.Sublist.countP_le _ (fun item => decide (key item = wanted)) _ _
    (List.take_sublist count (turn order queues))
  apply Nat.le_trans htake
  rw [List.countP_eq_length_filter, hsorted.filter_turn_eq]
  cases queues wanted with
  | nil => exact Nat.zero_le 1
  | cons item items => exact Nat.le_refl 1

/-- No queue is served twice while another one still waits. -/
theorem served_le (hsorted : Sorted key order queues) {left right : κ} (count : ℕ)
    (hright : ((serve order queues).take count).countP (fun item => key item = right) <
      (queues right).length) :
    ((serve order queues).take count).countP (fun item => key item = left) ≤
      ((serve order queues).take count).countP (fun item => key item = right) + 1 := by
  fun_induction serve order queues generalizing count with
  | case1 queues hturn => simp
  | case2 queues hturn ih =>
      have hsome : queues right ≠ [] := by
        intro hnil
        rw [hnil] at hright
        exact Nat.not_lt_zero _ hright
      rw [List.take_append, List.countP_append, List.countP_append] at *
      by_cases hcount : count ≤ (turn order queues).length
      · have hleft := hsorted.countP_take_turn_le left count
        rw [Nat.sub_eq_zero_of_le hcount, List.take_zero, List.countP_nil, List.countP_nil]
        omega
      · rw [List.take_of_length_le (Nat.le_of_not_le hcount)] at hright ⊢
        have hround := hsorted.countP_turn hsome
        have hleft := hsorted.countP_take_turn_le left (turn order queues).length
        rw [List.take_length] at hleft
        have hlength : (queues right).length = (RoundRobin.behind queues right).length + 1 := by
          cases hqueue : queues right with
          | nil => exact absurd hqueue hsome
          | cons item items => simp [RoundRobin.behind, hqueue]
        have hrest := ih hsorted.behind (count - (turn order queues).length) (by omega)
        omega

end Sorted

theorem perm_of_filter_eq [DecidableEq κ] {key : τ → κ} {left right : List τ}
    (heq : ∀ wanted, left.filter (fun item => key item = wanted) =
      right.filter (fun item => key item = wanted)) : left.Perm right := by
  classical
  rw [List.perm_iff_count]
  intro item
  have hcount : ∀ items : List τ, items.count item =
      (items.filter fun other => key other = key item).count item := by
    intro items
    rw [List.count_filter]
    simp
  rw [hcount left, hcount right, heq]

end RoundRobin
