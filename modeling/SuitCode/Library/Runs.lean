import Mathlib.Data.List.Basic

/-!
# Runs of a step function

The states a run reaches, conditions which every step of a run meets, and the
rule which turns a fact about one step into a fact about the whole run.
-/

namespace Runs

variable {σ ω : Type} (step : σ → ω → σ)

def reached : σ → List ω → List σ
  | _, [] => []
  | state, operation :: operations =>
      step state operation :: reached (step state operation) operations

/-- Every step of a run meets a condition in the state it starts from. -/
inductive EveryStep (meets : σ → ω → Prop) : σ → List ω → Prop where
  | nil {state : σ} : EveryStep meets state []
  | cons {state : σ} {operation : ω} {operations : List ω} (hhead : meets state operation)
      (htail : EveryStep meets (step state operation) operations) :
      EveryStep meets state (operation :: operations)

variable {step}

variable {meets : σ → ω → Prop} {operations : List ω} {state : σ}

theorem everyStep_cons_iff {operation : ω} :
    EveryStep step meets state (operation :: operations) ↔
      meets state operation ∧ EveryStep step meets (step state operation) operations := by
  constructor
  · intro hall
    cases hall with
    | cons hhead htail => exact ⟨hhead, htail⟩
  · intro hall
    exact .cons hall.1 hall.2

instance decidableEveryStep {meets : σ → ω → Prop}
    [hdecidable : ∀ state operation, Decidable (meets state operation)] :
    (state : σ) → (operations : List ω) → Decidable (EveryStep step meets state operations)
  | _, [] => isTrue .nil
  | state, operation :: operations =>
      have : Decidable (EveryStep step meets (step state operation) operations) :=
        decidableEveryStep (step state operation) operations
      decidable_of_iff
        (meets state operation ∧ EveryStep step meets (step state operation) operations)
        everyStep_cons_iff.symm

theorem EveryStep.of_forall (hall : ∀ state operation, meets state operation) (state : σ)
    (operations : List ω) :
    EveryStep step meets state operations := by
  induction operations generalizing state with
  | nil => exact .nil
  | cons operation operations ih => exact .cons (hall state operation) (ih _)

/-- Where, from a good state, an assumed step reaches an observed state exactly
under a condition, and observed states are good, every state of an assumed run
is observed exactly when every step meets the condition. -/
theorem forall_reached_iff (good : σ → Prop) {observed : σ → Prop} {assumed : σ → ω → Prop}
    (hstep : ∀ state operation, good state → assumed state operation →
      (observed (step state operation) ↔ meets state operation))
    (hgood : ∀ state operation, good state → assumed state operation →
      observed (step state operation) → good (step state operation)) (hstate : good state)
    (hassumed : EveryStep step assumed state operations) :
    (∀ later ∈ reached step state operations, observed later) ↔
      EveryStep step meets state operations := by
  induction operations generalizing state with
  | nil =>
      simp only [reached, List.not_mem_nil, false_implies, implies_true, true_iff]
      exact .nil
  | cons operation operations ih =>
      rw [everyStep_cons_iff] at hassumed ⊢
      simp only [reached, List.forall_mem_cons]
      have hone := hstep state operation hstate hassumed.1
      constructor
      · intro hall
        have hnext := hgood state operation hstate hassumed.1 hall.1
        exact ⟨hone.mp hall.1, (ih hnext hassumed.2).mp hall.2⟩
      · intro hall
        have hobserved := hone.mpr hall.1
        have hnext := hgood state operation hstate hassumed.1 hobserved
        exact ⟨hobserved, (ih hnext hassumed.2).mpr hall.2⟩

/-- An invariant which every step that meets a condition keeps holds in every
state of a run whose steps all meet it. -/
theorem forall_reached_of_everyStep {good : σ → Prop}
    (hstep : ∀ state operation, good state → meets state operation →
      good (step state operation)) (hstate : good state)
    (hmeets : EveryStep step meets state operations) :
    ∀ later ∈ reached step state operations, good later := by
  induction hmeets with
  | nil => simp [reached]
  | cons hhead htail ih =>
      have hnext := hstep _ _ hstate hhead
      simp only [reached, List.forall_mem_cons]
      exact ⟨hnext, ih hnext⟩

end Runs
