import SuitCode.Library.ExceptList

/-!
# Exceptions and validated models

The code raises `ValueError` from its own checks and from the validators of
its data models; the other exception classes are the interpreter's.  A model
value is built by listing the checks of its validators in source order.
-/

namespace SuitCode

inductive PyError where
  | valueError (message : String)
  | attributeError (message : String)
  | indexError
  | stopIteration
  | assertionError
  | runtimeError (message : String)
  | typeError (message : String)
  | mcpNotFoundError (message : String)
  | mcpValidationError (message : String)
  deriving DecidableEq, Repr

abbrev PyResult := Except PyError

/-- The computation returns a value with the property. -/
inductive PyResult.Yields {α : Type} : PyResult α → (α → Prop) → Prop where
  | ok {value : α} {property : α → Prop} (hproperty : property value) :
      PyResult.Yields (.ok value) property

variable {α : Type} {value : α} {checks : List (Bool × String)}

theorem PyResult.Yields.exists_ok {result : PyResult α} {property : α → Prop}
    (hyields : result.Yields property) : ∃ value, result = .ok value ∧ property value := by
  cases hyields with
  | ok hproperty => exact ⟨_, rfl, hproperty⟩

instance PyResult.decidableYields {α : Type} (result : PyResult α) (property : α → Prop)
    [DecidablePred property] : Decidable (result.Yields property) :=
  match result with
  | .ok value =>
      decidable_of_iff (property value)
        ⟨fun hproperty => .ok hproperty, fun hyields => by
          cases hyields with
          | ok hproperty => exact hproperty⟩
  | .error _ => isFalse fun hyields => by cases hyields

/-- `raise ValueError(message)`. -/
def raiseValueError {α : Type} (message : String) : PyResult α :=
  .error (.valueError message)

def firstFailure : List (Bool × String) → Option String
  | [] => none
  | (true, message) :: _ => some message
  | (false, _) :: checks => firstFailure checks

def validated {α : Type} (checks : List (Bool × String)) (value : α) : PyResult α :=
  match firstFailure checks with
  | some message => raiseValueError message
  | none => .ok value

@[simp] theorem raiseValueError_ne_ok {message : String} :
    raiseValueError message ≠ .ok value := by
  simp [raiseValueError]

theorem firstFailure_eq_none_iff :
    firstFailure checks = none ↔ ∀ check ∈ checks, check.1 = false := by
  induction checks with
  | nil => simp [firstFailure]
  | cons check checks ih =>
      obtain ⟨failed, message⟩ := check
      cases failed <;> simp [firstFailure, ih]

/-- A value is returned unchanged exactly where all checks pass. -/
theorem validated_eq_ok {result : α} :
    validated checks value = .ok result ↔
      value = result ∧ ∀ check ∈ checks, check.1 = false := by
  unfold validated
  cases hfailure : firstFailure checks with
  | some message =>
      have hnot : ¬ ∀ check ∈ checks, check.1 = false := by
        rw [← firstFailure_eq_none_iff, hfailure]
        simp
      constructor
      · intro hok
        simp at hok
      · rintro ⟨-, hall⟩
        exact absurd hall hnot
  | none =>
      have hall := firstFailure_eq_none_iff.mp hfailure
      simp only [Except.ok.injEq]
      exact ⟨fun heq => ⟨heq, hall⟩, And.left⟩

theorem eq_of_validated {result : α} (hok : validated checks value = .ok result) : result = value :=
  (validated_eq_ok.mp hok).1.symm

end SuitCode
