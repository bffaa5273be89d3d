import Mathlib.Logic.Function.Basic
import Mathlib.Data.Nat.Notation

/-!
# Cells computed once over a changing world

A program reads a world and a set of cells; a cell is computed by a program of
its own when it is first read, and its value is kept.  The cells are ranked, so
that a computation terminates.  While the kept values are the ones the world
still gives, a run with the cache and a run without it have the same result.
-/

namespace Memo

variable {σ κ : Type} {β : κ → Type} {ε α γ : Type}

inductive Program (σ κ : Type) (β : κ → Type) (ε α : Type) where
  | done (value : α)
  | fail (exception : ε)
  | look (next : σ → Program σ κ β ε α)
  | read (cell : κ) (next : Except ε (β cell) → Program σ κ β ε α)

/-- The values kept so far. -/
abbrev Cache (κ : Type) (β : κ → Type) := (cell : κ) → Option (β cell)

def Cache.empty : Cache κ β := fun _ => none

variable {allowed : κ → Prop} {bound : ℕ} {cell : κ} {program : Program σ κ β ε α} {rank : κ → ℕ}
  {world : σ} {cache : Cache κ β}

namespace Program

def bind (program : Program σ κ β ε α) (next : α → Program σ κ β ε γ) :
    Program σ κ β ε γ :=
  match program with
  | .done value => next value
  | .fail exception => .fail exception
  | .look rest => .look fun world => (rest world).bind next
  | .read cell rest => .read cell fun result => (rest result).bind next

instance : Monad (Program σ κ β ε) where
  pure := .done
  bind := bind

def readCell (cell : κ) : Program σ κ β ε (β cell) :=
  .read cell fun result =>
    match result with
    | .ok value => .done value
    | .error exception => .fail exception

def ask (query : σ → Except ε α) : Program σ κ β ε α :=
  .look fun world =>
    match query world with
    | .ok value => .done value
    | .error exception => .fail exception

inductive ReadsBelow (rank : κ → ℕ) (bound : ℕ) : Program σ κ β ε α → Prop where
  | done {value : α} : ReadsBelow rank bound (.done value)
  | fail {exception : ε} : ReadsBelow rank bound (.fail exception)
  | look {next : σ → Program σ κ β ε α} (hnext : ∀ world, ReadsBelow rank bound (next world)) :
      ReadsBelow rank bound (.look next)
  | read {cell : κ} {next : Except ε (β cell) → Program σ κ β ε α}
      (hcell : rank cell < bound) (hnext : ∀ result, ReadsBelow rank bound (next result)) :
      ReadsBelow rank bound (.read cell next)

theorem readsBelow_ask {query : σ → Except ε α} :
    ReadsBelow rank bound (ask query : Program σ κ β ε α) := by
  apply ReadsBelow.look
  intro world
  cases query world with
  | ok value => exact .done
  | error exception => exact .fail

theorem ReadsBelow.bind {next : α → Program σ κ β ε γ} (hprogram : program.ReadsBelow rank bound)
    (hnext : ∀ value, (next value).ReadsBelow rank bound) :
    (program >>= next).ReadsBelow rank bound := by
  induction hprogram with
  | done => exact hnext _
  | fail => exact .fail
  | look _ ih => exact .look ih
  | read hcell _ ih => exact .read hcell ih

theorem ReadsBelow.mono {low high : ℕ} (hprogram : program.ReadsBelow rank low) (hle : low ≤ high) :
    program.ReadsBelow rank high := by
  induction hprogram with
  | done => exact .done
  | fail => exact .fail
  | look _ ih => exact .look ih
  | read hcell _ ih => exact .read (by omega) ih

def eval (value : (cell : κ) → Except ε (β cell)) (world : σ) :
    Program σ κ β ε α → Except ε α
  | .done result => .ok result
  | .fail exception => .error exception
  | .look next => (next world).eval value world
  | .read cell next => (next (value cell)).eval value world

theorem eval_ask (value : (cell : κ) → Except ε (β cell)) (world : σ)
    (query : σ → Except ε α) :
    (ask query : Program σ κ β ε α).eval value world = query world := by
  rw [ask, eval]
  cases query world with
  | ok result => rfl
  | error exception => rfl

theorem eval_readCell (value : (cell : κ) → Except ε (β cell)) (world : σ) (cell : κ) :
    (readCell cell : Program σ κ β ε (β cell)).eval value world = value cell := by
  rw [readCell, eval]
  cases value cell with
  | ok result => rfl
  | error exception => rfl

theorem eval_bind (value : (cell : κ) → Except ε (β cell)) (world : σ)
    (program : Program σ κ β ε α) (next : α → Program σ κ β ε γ) :
    (program >>= next).eval value world =
      program.eval value world >>= fun result => (next result).eval value world := by
  induction program with
  | done result => rfl
  | fail exception => rfl
  | look rest ih => exact ih world
  | read cell rest ih => exact ih (value cell)

/-- The program reads cells of a kind only and does not look at the world. -/
inductive ReadsOnly (allowed : κ → Prop) : Program σ κ β ε α → Prop where
  | done {value : α} : ReadsOnly allowed (.done value)
  | fail {exception : ε} : ReadsOnly allowed (.fail exception)
  | read {cell : κ} {next : Except ε (β cell) → Program σ κ β ε α}
      (hcell : allowed cell) (hnext : ∀ result, ReadsOnly allowed (next result)) :
      ReadsOnly allowed (.read cell next)

theorem readsOnly_readCell (hcell : allowed cell) :
    ReadsOnly allowed (readCell cell : Program σ κ β ε (β cell)) := by
  apply ReadsOnly.read hcell
  intro result
  cases result with
  | ok value => exact .done
  | error exception => exact .fail

theorem ReadsOnly.bind {next : α → Program σ κ β ε γ} (hprogram : program.ReadsOnly allowed)
    (hnext : ∀ value, (next value).ReadsOnly allowed) :
    (program >>= next).ReadsOnly allowed := by
  induction hprogram with
  | done => exact hnext _
  | fail => exact .fail
  | read hcell _ ih => exact .read hcell ih

theorem ReadsOnly.readsBelow (hprogram : program.ReadsOnly allowed)
    (hrank : ∀ cell, allowed cell → rank cell < bound) : program.ReadsBelow rank bound := by
  induction hprogram with
  | done => exact .done
  | fail => exact .fail
  | read hcell _ ih => exact .read (hrank _ hcell) ih

theorem ReadsOnly.eval_congr {left right : (cell : κ) → Except ε (β cell)} {other : σ}
    (hprogram : program.ReadsOnly allowed) (hsame : ∀ cell, allowed cell → left cell = right cell) :
    program.eval left world = program.eval right other := by
  induction hprogram with
  | done => rfl
  | fail => rfl
  | @read cell next hcell _ ih =>
      unfold eval
      rw [hsame cell hcell]
      exact ih (right cell)

variable [DecidableEq κ]

/-- A run with a cache; `compute` fills a cell which has no value yet. -/
def run (compute : (cell : κ) → Cache κ β → Except ε (β cell) × Cache κ β) (world : σ) :
    Program σ κ β ε α → Cache κ β → Except ε α × Cache κ β
  | .done result, cache => (.ok result, cache)
  | .fail exception, cache => (.error exception, cache)
  | .look next, cache => (next world).run compute world cache
  | .read cell next, cache =>
      match cache cell with
      | some value => (next (.ok value)).run compute world cache
      | none =>
          match compute cell cache with
          | (.ok value, filled) =>
              (next (.ok value)).run compute world
                (Function.update filled cell (some value))
          | (.error exception, filled) =>
              (next (.error exception)).run compute world filled

end Program

/-! ## Ranked cells -/

structure System (σ κ : Type) (β : κ → Type) (ε : Type) where
  rank : κ → ℕ
  compute : (cell : κ) → Program σ κ β ε (β cell)
  ranked : ∀ cell, (compute cell).ReadsBelow rank (rank cell)
  recursionError : ε

namespace System

variable {system : System σ κ β ε}

/-- The value of a cell by computations nested at most `depth` deep. -/
def valueWithin (system : System σ κ β ε) (world : σ) :
    ℕ → (cell : κ) → Except ε (β cell)
  | 0, _ => .error system.recursionError
  | depth + 1, cell => (system.compute cell).eval (system.valueWithin world depth) world

def value (system : System σ κ β ε) (world : σ) (cell : κ) : Except ε (β cell) :=
  system.valueWithin world (system.rank cell + 1) cell

/-- The kept values are those which the world gives. -/
def Coherent (system : System σ κ β ε) (world : σ) (cache : Cache κ β) : Prop :=
  ∀ cell kept, cache cell = some kept → system.value world cell = .ok kept

theorem coherent_empty (system : System σ κ β ε) (world : σ) :
    system.Coherent world Cache.empty := by
  intro cell kept hkept
  simp [Cache.empty] at hkept

theorem eval_congr {left right : (cell : κ) → Except ε (β cell)}
    (hbelow : program.ReadsBelow rank bound)
    (hsame : ∀ cell, rank cell < bound → left cell = right cell) :
    program.eval left world = program.eval right world := by
  induction hbelow with
  | done => rfl
  | fail => rfl
  | look _ ih => exact ih world
  | @read cell next hcell _ ih =>
      unfold Program.eval
      rw [← hsame cell hcell]
      exact ih (left cell)

theorem valueWithin_eq
    (system : System σ κ β ε) (world : σ) (depth : ℕ) (cell : κ)
    (hdepth : system.rank cell < depth) :
    system.valueWithin world depth cell = system.value world cell := by
  induction depth using Nat.strongRecOn generalizing cell with
  | ind depth ih =>
      cases depth with
      | zero => omega
      | succ depth =>
          unfold value
          simp only [valueWithin]
          apply eval_congr (system.ranked cell)
          intro lower hlower
          have hleft : system.valueWithin world depth lower = system.value world lower :=
            ih depth (by omega) lower (by omega)
          by_cases heq : system.rank cell = depth
          · rw [heq]
          · rw [hleft, ih (system.rank cell) (by omega) lower hlower]

theorem value_eq_eval
    (system : System σ κ β ε) (world : σ) (cell : κ) :
    system.value world cell = (system.compute cell).eval (system.value world) world := by
  unfold value
  simp only [valueWithin]
  apply eval_congr (system.ranked cell)
  intro lower hlower
  rw [system.valueWithin_eq world (system.rank cell) lower hlower]
  rfl

variable [DecidableEq κ]

/-- Fill a cell by computations nested at most `depth` deep. -/
def fillWithin (system : System σ κ β ε) (world : σ) :
    ℕ → (cell : κ) → Cache κ β → Except ε (β cell) × Cache κ β
  | 0, _, cache => (.error system.recursionError, cache)
  | depth + 1, cell, cache =>
      (system.compute cell).run (system.fillWithin world depth) world cache

def run (system : System σ κ β ε) (bound : ℕ) (world : σ) (program : Program σ κ β ε α)
    (cache : Cache κ β) : Except ε α × Cache κ β :=
  program.run (system.fillWithin world bound) world cache

theorem Coherent.update {kept : β cell} (hcoherent : system.Coherent world cache)
    (hvalue : system.value world cell = .ok kept) :
    system.Coherent world (Function.update cache cell (some kept)) := by
  intro other found hfound
  by_cases heq : other = cell
  · subst heq
    have hkept : kept = found := by simpa using hfound
    rw [hvalue, hkept]
  · rw [Function.update_of_ne heq] at hfound
    exact hcoherent other found hfound

/-- A step of a run: a program over a coherent cache has the result which it has
without a cache, and leaves the cache coherent. -/
theorem program_run_eq {compute : (cell : κ) → Cache κ β → Except ε (β cell) × Cache κ β}
    (hbelow : program.ReadsBelow system.rank bound) (hcoherent : system.Coherent world cache)
    (hcompute : ∀ cell cache, system.rank cell < bound → system.Coherent world cache →
      (compute cell cache).1 = system.value world cell ∧
        system.Coherent world (compute cell cache).2) :
    (program.run compute world cache).1 = program.eval (system.value world) world ∧
      system.Coherent world (program.run compute world cache).2 := by
  induction hbelow generalizing cache with
  | done => exact ⟨rfl, hcoherent⟩
  | fail => exact ⟨rfl, hcoherent⟩
  | look _ ih => exact ih world hcoherent
  | @read cell next hcell _ ih =>
      unfold Program.run Program.eval
      cases hkept : cache cell with
      | some kept =>
          have hvalue := hcoherent cell kept hkept
          rw [hvalue]
          exact ih (.ok kept) hcoherent
      | none =>
          have hfilled := hcompute cell cache hcell hcoherent
          cases hresult : compute cell cache with
          | mk result filled =>
              rw [hresult] at hfilled
              cases result with
              | ok kept =>
                  have hvalue : system.value world cell = .ok kept := hfilled.1.symm
                  rw [hvalue]
                  exact ih (.ok kept) (hfilled.2.update hvalue)
              | error exception =>
                  have hvalue : system.value world cell = .error exception :=
                    hfilled.1.symm
                  rw [hvalue]
                  exact ih (.error exception) hfilled.2

theorem fillWithin_eq
    (world : σ) (depth : ℕ) (cell : κ) (cache : Cache κ β)
    (hdepth : system.rank cell < depth) (hcoherent : system.Coherent world cache) :
    (system.fillWithin world depth cell cache).1 = system.value world cell ∧
      system.Coherent world (system.fillWithin world depth cell cache).2 := by
  induction depth generalizing cell cache with
  | zero => omega
  | succ depth ih =>
      rw [system.value_eq_eval]
      apply program_run_eq (system.ranked cell) hcoherent
      intro lower cache hlower hcoherent
      exact ih lower cache (by omega) hcoherent

theorem run_eq (hbelow : program.ReadsBelow system.rank bound)
    (hcoherent : system.Coherent world cache) :
    (system.run bound world program cache).1 = program.eval (system.value world) world ∧
      system.Coherent world (system.run bound world program cache).2 :=
  program_run_eq hbelow hcoherent fun cell cache hcell hcoherent =>
    fillWithin_eq world bound cell cache hcell hcoherent

end System

/-! ## Services -/

structure Service (σ κ : Type) (β : κ → Type) (ε ω α : Type)
    extends System σ κ β ε where
  bound : ℕ
  program : ω → Program σ κ β ε α
  program_below : ∀ operation, (program operation).ReadsBelow rank bound
  rewrite : ω → Except ε α → σ → σ

structure State (σ κ : Type) (β : κ → Type) where
  world : σ
  cache : Cache κ β

namespace Service

variable [DecidableEq κ] {ω : Type} {service : Service σ κ β ε ω α}

def step (service : Service σ κ β ε ω α) (state : State σ κ β) (operation : ω) :
    Except ε α × State σ κ β :=
  let result := service.toSystem.run service.bound state.world (service.program operation)
    state.cache
  (result.1, ⟨service.rewrite operation result.1 state.world, result.2⟩)

def freshAnswer (service : Service σ κ β ε ω α) (world : σ) (operation : ω) :
    Except ε α :=
  (service.step ⟨world, Cache.empty⟩ operation).1

/-- Every operation answers as a fresh service would over the same world. -/
def AnswersFresh (service : Service σ κ β ε ω α) : State σ κ β → List ω → Prop
  | _, [] => True
  | state, operation :: operations =>
      (service.step state operation).1 = service.freshAnswer state.world operation ∧
        service.AnswersFresh (service.step state operation).2 operations

/-- No rewriting changes the value of a cell which has been kept. -/
def RewritesKeepCells (service : Service σ κ β ε ω α) : State σ κ β → List ω → Prop
  | _, [] => True
  | state, operation :: operations =>
      (∀ cell, ((service.step state operation).2.cache cell).isSome = true →
          service.value (service.step state operation).2.world cell =
            service.value state.world cell) ∧
        service.RewritesKeepCells (service.step state operation).2 operations

theorem step_eq (service : Service σ κ β ε ω α)
    {state : State σ κ β} (operation : ω)
    (hcoherent : service.Coherent state.world state.cache) :
    (service.step state operation).1 = service.freshAnswer state.world operation ∧
      service.Coherent state.world (service.step state operation).2.cache := by
  have hrun := System.run_eq (service.program_below operation) hcoherent
  have hfresh := System.run_eq (service.program_below operation)
    (System.coherent_empty service.toSystem state.world)
  exact ⟨hrun.1.trans hfresh.1.symm, hrun.2⟩

theorem answersFresh_of_rewritesKeepCells
    {state : State σ κ β} {operations : List ω}
    (hcoherent : service.Coherent state.world state.cache)
    (hkeep : service.RewritesKeepCells state operations) :
    service.AnswersFresh state operations := by
  induction operations generalizing state with
  | nil => trivial
  | cons operation operations ih =>
      have hstep := service.step_eq operation hcoherent
      refine ⟨hstep.1, ih ?_ hkeep.2⟩
      intro cell kept hkept
      have hsame := hkeep.1 cell (by rw [hkept]; rfl)
      rw [hsame]
      exact hstep.2 cell kept hkept

end Service

end Memo
