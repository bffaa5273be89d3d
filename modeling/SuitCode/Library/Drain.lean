import Mathlib.Data.List.Basic
import Mathlib.Data.Nat.Notation

/-!
# Reading values until reading fails

A reader takes one value from what is still to be read, or fails; every value
it gives uses something up.  Reading on until it fails therefore ends, with
finitely many values and one failure.
-/

namespace Drain

/-- A reader of values of type `α` from a source of type `σ`. -/
structure Reader (σ ε α : Type) where
  read : σ → Except ε α × σ
  size : σ → ℕ
  size_read : ∀ {source value}, (read source).1 = .ok value →
    size (read source).2 < size source

structure Drained (σ ε α : Type) where
  values : List α
  error : ε
  rest : σ

variable {σ ε α : Type}

namespace Reader

def drain (reader : Reader σ ε α) (source : σ) : Drained σ ε α :=
  match _hread : (reader.read source).1 with
  | .error error => ⟨[], error, (reader.read source).2⟩
  | .ok value =>
      let later := drain reader (reader.read source).2
      { later with values := value :: later.values }
termination_by reader.size source
decreasing_by exact reader.size_read _hread

theorem drain_of_error {reader : Reader σ ε α} {source rest : σ} {error : ε}
    (hread : reader.read source = (.error error, rest)) :
    reader.drain source = ⟨[], error, rest⟩ := by
  rw [drain]
  split
  · rename_i error' herror
    rw [hread] at herror ⊢
    simp only [Except.error.injEq] at herror
    rw [herror]
  · rename_i value hvalue
    rw [hread] at hvalue
    cases hvalue

theorem drain_of_ok {reader : Reader σ ε α} {source rest : σ} {value : α}
    (hread : reader.read source = (.ok value, rest)) :
    reader.drain source =
      { reader.drain rest with values := value :: (reader.drain rest).values } := by
  rw [drain]
  split
  · rename_i error herror
    rw [hread] at herror
    cases herror
  · rename_i value' hvalue
    rw [hread] at hvalue ⊢
    simp only [Except.ok.injEq] at hvalue
    rw [hvalue]

end Reader

end Drain
