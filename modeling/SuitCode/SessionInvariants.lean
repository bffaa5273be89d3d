import SuitCode.ManagedSessions
import SuitCode.Library.Runs

/-!
# Ready sessions hold the client they have probed

A warm-up worker releases the lock of the session between its steps, so the
session may drop or replace its client while the worker goes on with the old
one.  What a step keeps is stated for the session together with the clients
whose probe has completed.
-/

namespace SuitCode

open Runs

namespace ManagedSession

def HoldsProbed (session : ManagedSession) (probed : List ℕ) : Prop :=
  ∃ client ∈ probed, session.client = some client

structure Sound (session : ManagedSession) (probed : List ℕ) : Prop where
  ready : session.state = .ready → session.HoldsProbed probed
  retry : session.client ≠ none → session.nextRetryAt = none

/-- What the steps keep besides: the flag of a completed probe is about the
client which is held. -/
structure Consistent (session : ManagedSession) (probed : List ℕ) : Prop where
  sound : session.Sound probed
  completed : session.warmProbeCompleted = true → session.HoldsProbed probed

variable {session : ManagedSession} {probed : List ℕ}

theorem consistent_of_none (hclient : session.client = none) (hstate : session.state ≠ .ready)
    (hprobe : session.warmProbeCompleted = false) : session.Consistent probed where
  sound :=
    { ready := fun hready => absurd hready hstate
      retry := fun hheld => absurd hclient hheld }
  completed := by
    intro hcompleted
    rw [hprobe] at hcompleted
    cases hcompleted

theorem Consistent.update (hconsistent : session.Consistent probed) {later : ManagedSession}
    (hclient : later.client = session.client) (hretry : later.nextRetryAt = session.nextRetryAt)
    (hprobe : later.warmProbeCompleted = session.warmProbeCompleted)
    (hready : later.state = .ready →
      session.state = .ready ∨ session.warmProbeCompleted = true) :
    later.Consistent probed where
  sound :=
    { ready := by
        intro hstate
        unfold HoldsProbed
        rw [hclient]
        cases hready hstate with
        | inl hold => exact hconsistent.sound.ready hold
        | inr hcompleted => exact hconsistent.completed hcompleted
      retry := by
        rw [hclient, hretry]
        exact hconsistent.sound.retry }
  completed := by
    intro hcompleted
    unfold HoldsProbed
    rw [hclient]
    exact hconsistent.completed (hprobe ▸ hcompleted)

/-! ## One method -/

theorem markFailure_consistent (now : ℚ) : (session.markFailure now).Consistent probed :=
  consistent_of_none rfl (by simp [markFailure, shutdownLocked]) rfl

theorem failWith_consistent {α : Type} (now : ℚ) (start finish : String) (error : LspError) :
    (session.failWith (α := α) now start finish error).2.Consistent probed := by
  unfold failWith
  by_cases htimeout : error.errorClass = .lspTimeoutError
  · rw [if_pos htimeout]
    exact markFailure_consistent now
  · rw [if_neg htimeout]
    exact markFailure_consistent now

theorem shutdown_consistent : session.shutdown.Consistent probed :=
  consistent_of_none rfl (by simp [shutdown]) rfl

theorem closeIfIdle_consistent (now : ℚ) (hconsistent : session.Consistent probed) :
    (session.closeIfIdle now).Consistent probed := by
  unfold closeIfIdle
  by_cases hidle : session.isIdle now = true
  · rw [if_pos hidle]
    exact consistent_of_none rfl (by simp) rfl
  · rw [if_neg hidle]
    exact hconsistent

theorem requestWarmup_consistent (now : ℚ) (hconsistent : session.Consistent probed) :
    (session.requestWarmup now).2.Consistent probed := by
  unfold requestWarmup
  split
  · rename_i hheld
    refine hconsistent.update rfl rfl rfl ?_
    intro _
    simp only [Bool.and_eq_true] at hheld
    exact .inr hheld.2
  · split
    · exact hconsistent
    · split
      · exact hconsistent.update rfl rfl rfl (by simp)
      · exact hconsistent.update rfl rfl rfl (by simp)

theorem cancelWarmupRequest_consistent (hconsistent : session.Consistent probed) :
    session.cancelWarmupRequest.Consistent probed := by
  unfold cancelWarmupRequest
  split
  · exact hconsistent.update rfl rfl rfl (by simp)
  · exact hconsistent.update rfl rfl rfl (fun hready => .inl hready)

theorem ensureInitialized_consistent (now : ℚ) (markWarming : Bool)
    (launched : LspResult Unit) (failedAt : ℚ) (hconsistent : session.Consistent probed) :
    (session.ensureInitialized now markWarming launched failedAt).2.Consistent probed := by
  have hawake := closeIfIdle_consistent now hconsistent
  unfold closeIfIdle at hawake
  unfold ensureInitialized
  generalize (if session.isIdle now then { session.shutdownLocked with state := .stopped }
    else session) = awake at hawake
  dsimp only
  split
  · exact hawake
  · split
    · refine hawake.update rfl rfl rfl ?_
      intro hready
      by_cases hcompleted : awake.warmProbeCompleted = true
      · exact .inr hcompleted
      · simp [hcompleted] at hready
    · split
      · exact failWith_consistent failedAt _ _ _
      · exact
          { sound :=
              { ready := fun hready => by cases hready
                retry := fun _ => rfl }
            completed := fun hcompleted => by cases hcompleted }

theorem invoke_consistent {α : Type} (now : ℚ) (launched : LspResult Unit)
    (operation : LspResult α) (finishedAt : ℚ) (hconsistent : session.Consistent probed) :
    (session.invoke now launched operation finishedAt).2.Consistent probed := by
  have hensured := ensureInitialized_consistent now false launched finishedAt hconsistent
  unfold invoke
  cases hcase : session.ensureInitialized now false launched finishedAt with
  | mk outcome ensured =>
      rw [hcase] at hensured
      cases outcome with
      | error error => exact hensured
      | ok client =>
          dsimp only
          by_cases hcompleted : ensured.warmProbeCompleted = true
          · rw [if_pos hcompleted]
            cases operation with
            | error error => exact failWith_consistent finishedAt _ _ _
            | ok result => exact hensured.update rfl rfl rfl (fun _ => .inr hcompleted)
          · rw [if_neg hcompleted]
            exact hensured.update rfl rfl rfl (by simp)

theorem runProbeOperation_consistent {α : Type} (operation : LspResult α) (finishedAt : ℚ)
    (hconsistent : session.Consistent probed) :
    (session.runProbeOperation operation finishedAt).2.Consistent probed := by
  unfold runProbeOperation
  cases operation with
  | error error => exact failWith_consistent finishedAt _ _ _
  | ok result => exact hconsistent.update rfl rfl rfl (by simp)

theorem markProbeComplete_sound_iff (now : ℚ) (client : ℕ)
    (hconsistent : session.Consistent probed) :
    (session.markProbeComplete now).Sound (client :: probed) ↔
      session.HoldsProbed (client :: probed) := by
  constructor
  · intro hsound
    exact hsound.ready rfl
  · intro hholds
    exact
      { ready := fun _ => hholds
        retry := hconsistent.sound.retry }

end ManagedSession

/-! ## Runs -/

inductive WarmupPhase where
  | queued
  | selecting (client : ℕ)
  | documentSymbols (client : ℕ)
  | definitions (client : ℕ)
  | references (client : ℕ)
  | completing (client : ℕ)
  | leaving
  | finished
  deriving DecidableEq, Repr

/-- A session, the workers which warm it and the clients whose probe has completed. -/
structure WarmedSession where
  session : ManagedSession
  workers : List WarmupPhase
  probed : List ℕ

inductive WarmupStep where
  | ensure (now : ℚ) (launched : LspResult Unit) (failedAt : ℚ)
  /-- Whether there is a representative file, or what the search for one raises. -/
  | select (found : LspResult Bool) (now : ℚ)
  /-- An operation of the probe on a client which is still held; for the document
  symbols, whether there is a symbol to go on with. -/
  | probe (operation : LspResult Bool) (now : ℚ)
  | complete (now : ℚ)
  | leave

inductive SessionEvent where
  | requestWarmup (now : ℚ)
  | cancelWarmupRequest
  /-- A worker is submitted which calls `warm`. -/
  | warm
  | worker (index : ℕ) (step : WarmupStep)
  | invoke (now : ℚ) (launched operation : LspResult Unit) (finishedAt : ℚ)
  | closeIfIdle (now : ℚ)
  | shutdown

namespace WarmedSession

def new (family : ServerFamily) (attachmentRoot : String) (idleTtlSeconds : ℚ) :
    WarmedSession :=
  ⟨.new family attachmentRoot idleTtlSeconds, [], []⟩

def operationOn (world : WarmedSession) (client : ℕ) (operation : LspResult Bool) :
    LspResult Bool :=
  if world.session.client = some client then operation
  else .error ⟨.lspProcessError, "language server process has not been started"⟩

def proceed (world : WarmedSession) (index : ℕ) (phase : WarmupPhase)
    (session : ManagedSession) : WarmedSession :=
  { world with session := session, workers := world.workers.set index phase }

/-- `_run_probe_operation`, and the phase behind it. -/
def probe (world : WarmedSession) (index client : ℕ) (operation : LspResult Bool) (now : ℚ)
    (next : Bool → WarmupPhase) : WarmedSession :=
  match world.session.runProbeOperation (world.operationOn client operation) now with
  | (.error _, session) => world.proceed index .leaving session
  | (.ok found, session) => world.proceed index (next found) session

def workerStep (world : WarmedSession) (index : ℕ) :
    WarmupPhase → WarmupStep → WarmedSession
  | .queued, .ensure now launched failedAt =>
      match world.session.ensureInitialized now true launched failedAt with
      | (.error _, session) => world.proceed index .leaving session
      | (.ok client, session) => world.proceed index (.selecting client) session
  | .selecting client, .select found now =>
      match found with
      | .error _ => world.proceed index .leaving (world.session.markFailure now)
      | .ok true => world.proceed index (.documentSymbols client) world.session
      | .ok false => world.proceed index (.completing client) world.session
  | .documentSymbols client, .probe operation now =>
      world.probe index client operation now fun found =>
        if found then .definitions client else .completing client
  | .definitions client, .probe operation now =>
      world.probe index client operation now fun _ => .references client
  | .references client, .probe operation now =>
      world.probe index client operation now fun _ => .completing client
  | .completing client, .complete now =>
      { world.proceed index .leaving (world.session.markProbeComplete now) with
        probed := client :: world.probed }
  | .leaving, .leave => world.proceed index .finished world.session.cancelWarmupRequest
  | _, _ => world

/-- One event; a step which its worker cannot make changes nothing. -/
def step (world : WarmedSession) : SessionEvent → WarmedSession
  | .requestWarmup now => { world with session := (world.session.requestWarmup now).2 }
  | .cancelWarmupRequest => { world with session := world.session.cancelWarmupRequest }
  | .warm => { world with workers := world.workers ++ [.queued] }
  | .worker index step =>
      match world.workers[index]? with
      | some phase => world.workerStep index phase step
      | none => world
  | .invoke now launched operation finishedAt =>
      { world with session := (world.session.invoke now launched operation finishedAt).2 }
  | .closeIfIdle now => { world with session := world.session.closeIfIdle now }
  | .shutdown => { world with session := world.session.shutdown }

def Sound (world : WarmedSession) : Prop := world.session.Sound world.probed

def Consistent (world : WarmedSession) : Prop := world.session.Consistent world.probed

/-- A worker completes its warm-up only while the session holds the client the
worker has probed, or another client whose probe has completed. -/
def CompletesOnHeld (world : WarmedSession) : SessionEvent → Prop
  | .worker index (.complete _) =>
      ∀ client, world.workers[index]? = some (.completing client) →
        world.session.HoldsProbed (client :: world.probed)
  | _ => True

variable {world : WarmedSession}

theorem probe_consistent (index client : ℕ) (operation : LspResult Bool) (now : ℚ)
    (next : Bool → WarmupPhase) (hconsistent : world.Consistent) :
    (world.probe index client operation now next).Consistent := by
  have hrun := ManagedSession.runProbeOperation_consistent
    (world.operationOn client operation) now hconsistent
  unfold probe
  cases hcase : world.session.runProbeOperation (world.operationOn client operation) now with
  | mk outcome session =>
      rw [hcase] at hrun
      cases outcome with
      | error error => exact hrun
      | ok found => exact hrun

theorem workerStep_consistent (index : ℕ) (phase : WarmupPhase) (step : WarmupStep)
    (hconsistent : world.Consistent) (hother : ∀ now, step ≠ .complete now) :
    (world.workerStep index phase step).Consistent := by
  cases step with
  | ensure now launched failedAt =>
      cases phase with
      | queued =>
          have hensured := ManagedSession.ensureInitialized_consistent now true launched
            failedAt hconsistent
          dsimp only [workerStep]
          cases hcase : world.session.ensureInitialized now true launched failedAt with
          | mk outcome session =>
              rw [hcase] at hensured
              cases outcome with
              | error error => exact hensured
              | ok client => exact hensured
      | _ => exact hconsistent
  | select found now =>
      cases phase with
      | selecting client =>
          cases found with
          | error error => exact ManagedSession.markFailure_consistent now
          | ok found => cases found <;> exact hconsistent
      | _ => exact hconsistent
  | probe operation now =>
      cases phase with
      | documentSymbols client => exact probe_consistent _ _ _ _ _ hconsistent
      | definitions client => exact probe_consistent _ _ _ _ _ hconsistent
      | references client => exact probe_consistent _ _ _ _ _ hconsistent
      | _ => exact hconsistent
  | complete now => exact absurd rfl (hother now)
  | leave =>
      cases phase with
      | leaving => exact ManagedSession.cancelWarmupRequest_consistent hconsistent
      | _ => exact hconsistent

theorem step_sound_iff (event : SessionEvent) (hconsistent : world.Consistent) :
    (world.step event).Sound ↔ world.CompletesOnHeld event := by
  cases event with
  | requestWarmup now =>
      exact iff_true_intro (ManagedSession.requestWarmup_consistent now hconsistent).sound
  | cancelWarmupRequest =>
      exact iff_true_intro (ManagedSession.cancelWarmupRequest_consistent hconsistent).sound
  | warm => exact iff_true_intro hconsistent.sound
  | invoke now launched operation finishedAt =>
      exact iff_true_intro
        (ManagedSession.invoke_consistent now launched operation finishedAt hconsistent).sound
  | closeIfIdle now =>
      exact iff_true_intro (ManagedSession.closeIfIdle_consistent now hconsistent).sound
  | shutdown => exact iff_true_intro ManagedSession.shutdown_consistent.sound
  | worker index step =>
      dsimp only [WarmedSession.step]
      cases hphase : world.workers[index]? with
      | none =>
          cases step with
          | complete now =>
              simp only [CompletesOnHeld, hphase, reduceCtorEq, false_implies, implies_true,
                iff_true]
              exact hconsistent.sound
          | _ => exact iff_true_intro hconsistent.sound
      | some phase =>
          cases step with
          | complete now =>
              cases phase with
              | completing client =>
                  have hlast := ManagedSession.markProbeComplete_sound_iff now client hconsistent
                  simp only [CompletesOnHeld, hphase, Option.some.injEq,
                    WarmupPhase.completing.injEq, forall_eq']
                  exact hlast
              | _ =>
                  simp only [CompletesOnHeld, hphase, Option.some.injEq, reduceCtorEq,
                    false_implies, implies_true, iff_true]
                  exact hconsistent.sound
          | _ =>
              refine iff_true_intro (workerStep_consistent index phase _ hconsistent ?_).sound
              simp

theorem step_consistent (event : SessionEvent) (hconsistent : world.Consistent)
    (hsound : (world.step event).Sound) : (world.step event).Consistent := by
  cases event with
  | requestWarmup now => exact ManagedSession.requestWarmup_consistent now hconsistent
  | cancelWarmupRequest => exact ManagedSession.cancelWarmupRequest_consistent hconsistent
  | warm => exact hconsistent
  | invoke now launched operation finishedAt =>
      exact ManagedSession.invoke_consistent now launched operation finishedAt hconsistent
  | closeIfIdle now => exact ManagedSession.closeIfIdle_consistent now hconsistent
  | shutdown => exact ManagedSession.shutdown_consistent
  | worker index step =>
      revert hsound
      dsimp only [WarmedSession.step]
      cases hphase : world.workers[index]? with
      | none => exact fun _ => hconsistent
      | some phase =>
          intro hsound
          cases step with
          | complete now =>
              cases phase with
              | completing client => exact ⟨hsound, fun _ => hsound.ready rfl⟩
              | _ => exact hconsistent
          | _ =>
              apply workerStep_consistent index phase _ hconsistent
              simp

theorem new_consistent (family : ServerFamily) (attachmentRoot : String)
    (idleTtlSeconds : ℚ) : (new family attachmentRoot idleTtlSeconds).Consistent :=
  ManagedSession.consistent_of_none rfl (by simp [new, ManagedSession.new]) rfl

end WarmedSession

/-- Over whole runs: a ready session always holds a client whose probe has
completed, and a held client is never put off, exactly when every warm-up is
completed while the session holds a probed client. -/
theorem ready_sessions_probed_iff (family : ServerFamily) (attachmentRoot : String)
    (idleTtlSeconds : ℚ) (events : List SessionEvent) :
    (∀ later ∈ reached WarmedSession.step (.new family attachmentRoot idleTtlSeconds) events,
        later.Sound) ↔
      EveryStep WarmedSession.step WarmedSession.CompletesOnHeld
        (.new family attachmentRoot idleTtlSeconds) events := by
  have hassumed : EveryStep WarmedSession.step (fun _ _ => True)
      (.new family attachmentRoot idleTtlSeconds) events :=
    EveryStep.of_forall (fun _ _ => trivial) _ _
  refine forall_reached_iff WarmedSession.Consistent ?_ ?_
    (WarmedSession.new_consistent family attachmentRoot idleTtlSeconds) hassumed
  · intro world event hconsistent _
    exact WarmedSession.step_sound_iff event hconsistent
  · intro world event hconsistent _ hsound
    exact WarmedSession.step_consistent event hconsistent hsound

/-! ## A session which is closed before its warm-up completes -/

def ReadySessionsAreProbed : Prop :=
  ∀ (family : ServerFamily) (attachmentRoot : String) (idleTtlSeconds : ℚ)
    (events : List SessionEvent),
    ∀ later ∈ reached WarmedSession.step (.new family attachmentRoot idleTtlSeconds) events,
      later.Sound

def lateWarmup : List SessionEvent :=
  [.requestWarmup 0, .warm, .worker 0 (.ensure 1 (.ok ()) 1), .closeIfIdle 1000,
    .worker 0 (.select (.ok false) 1001), .worker 0 (.complete 1001)]

/-- A warm-up which comes late makes a session ready whose client is gone. -/
theorem ready_without_client : ¬ ReadySessionsAreProbed := by
  intro hall
  let world := lateWarmup.foldl WarmedSession.step (.new .gopls "/repo" 900)
  have hsound := hall .gopls "/repo" 900 lateWarmup world (by
    simp [world, lateWarmup, reached])
  have hready : world.session.state = .ready := by decide +kernel
  have hclient : world.session.client = none := by decide +kernel
  obtain ⟨client, _, hheld⟩ := hsound.ready hready
  rw [hclient] at hheld
  cases hheld

end SuitCode
