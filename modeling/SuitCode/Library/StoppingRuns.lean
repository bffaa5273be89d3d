import SuitCode.Library.ExceptList

/-!
# Runs which stop at an error

Items are run one behind the other over a state until one fails.  Where no outcome depends on
the state, the run is the traversal of the outcomes.
-/

namespace StoppingRuns

open ExceptList

universe u v w

variable {α β γ : Type u} {ε : Type v} {σ : Type w}

def runUntilError (step : α → σ → Except ε β × σ) : σ → List α → Except ε (List β) × σ
  | state, [] => (.ok [], state)
  | state, item :: items =>
      match step item state with
      | (.error exception, after) => (.error exception, after)
      | (.ok value, after) =>
          match runUntilError step after items with
          | (.error exception, final) => (.error exception, final)
          | (.ok values, final) => (.ok (value :: values), final)

def Evaluated (outcome : α → Except ε β) (items : List α) (item : α) : Prop :=
  ∃ front back, items = front ++ item :: back ∧
    ∀ earlier ∈ front, ∃ value, outcome earlier = .ok value

/-- A run which stops at the first error returns what its items return on their own. -/
theorem runUntilError_fst {step : α → σ → Except ε β × σ} {outcome : α → Except ε β}
    {items : List α} (hstep : ∀ item ∈ items, ∀ state, (step item state).1 = outcome item)
    (state : σ) : (runUntilError step state items).1 = items.mapM outcome := by
  induction items generalizing state with
  | nil => rfl
  | cons item items ih =>
      have hlater : ∀ later ∈ items, ∀ state, (step later state).1 = outcome later := by
        intro later hmem
        exact hstep later (List.mem_cons_of_mem _ hmem)
      rw [List.mapM_cons, runUntilError, ← hstep item List.mem_cons_self state]
      cases step item state with
      | mk result after =>
          cases result with
          | error exception => rfl
          | ok value =>
              simp only [ok_bind]
              rw [← ih hlater after]
              cases runUntilError step after items with
              | mk results final =>
                  cases results with
                  | error exception => rfl
                  | ok values => rfl

theorem Evaluated.of_cons {outcome : α → Except ε β} {first item : α} {items : List α}
    (hevaluated : Evaluated outcome (first :: items) item) :
    item = first ∨ ∃ value, outcome first = .ok value := by
  obtain ⟨front, back, heq, hfront⟩ := hevaluated
  cases front with
  | nil => exact .inl (List.cons.inj heq).1.symm
  | cons earlier front =>
      right
      rw [(List.cons.inj heq).1]
      exact hfront earlier List.mem_cons_self

theorem evaluated_first (outcome : α → Except ε β) (first : α) (items : List α) :
    Evaluated outcome (first :: items) first :=
  ⟨[], items, rfl, by simp⟩

theorem mapM_map_of_step {f : α → Except ε β} {change : β → γ}
    {g : α → Except ε γ} {inputs : List α} {outputs : List β}
    (hrun : inputs.mapM f = .ok outputs)
    (hstep : ∀ input ∈ inputs, ∀ output, f input = .ok output → g input = .ok (change output)) :
    inputs.mapM g = .ok (outputs.map change) := by
  have hall := mapM_eq_ok_iff.mp hrun
  clear hrun
  rw [mapM_eq_ok_iff]
  induction hall with
  | nil => exact .nil
  | cons hhead _ ih =>
      apply List.Forall₂.cons
      · exact hstep _ List.mem_cons_self _ hhead
      · exact ih fun input hinput => hstep input (List.mem_cons_of_mem _ hinput)

end StoppingRuns
