import SuitCode.SessionInvariants

/-!
# Warm-up requests

A request which is accepted sets the flag of its session and leaves the submission of a
worker to the caller.  The worker clears the flag, or the caller does when the executor
refuses the worker.  Shutting the executor down cancels the workers which have not begun,
and nobody clears the flag for those.
-/

namespace SuitCode

open Runs

variable {α : Type}

namespace ManagedSession

variable {session : ManagedSession}

@[simp] theorem failWith_warmupInProgress (now : ℚ) (start finish : String) (error : LspError) :
    (session.failWith (α := α) now start finish error).2.warmupInProgress =
      session.warmupInProgress := by
  unfold failWith
  dsimp only
  split
  · rfl
  · rfl

@[simp] theorem closeIfIdle_warmupInProgress (now : ℚ) :
    (session.closeIfIdle now).warmupInProgress = session.warmupInProgress := by
  unfold closeIfIdle
  split
  · rfl
  · rfl

@[simp] theorem cancelWarmupRequest_warmupInProgress :
    session.cancelWarmupRequest.warmupInProgress = false := by
  unfold cancelWarmupRequest
  split
  · rfl
  · rfl

theorem ensureInitialized_warmupInProgress (now : ℚ) (markWarming : Bool)
    (launched : LspResult Unit) (failedAt : ℚ) :
    (session.ensureInitialized now markWarming launched failedAt).2.warmupInProgress =
      session.warmupInProgress := by
  have hawake := session.closeIfIdle_warmupInProgress now
  unfold closeIfIdle at hawake
  unfold ensureInitialized
  generalize (if session.isIdle now then { session.shutdownLocked with state := .stopped }
    else session) = awake at hawake
  dsimp only
  rw [← hawake]
  split
  · rfl
  · split
    · rfl
    · split
      · exact failWith_warmupInProgress failedAt _ _ _
      · rfl

theorem invoke_warmupInProgress (now : ℚ) (launched : LspResult Unit) (operation : LspResult α)
    (finishedAt : ℚ) :
    (session.invoke now launched operation finishedAt).2.warmupInProgress =
      session.warmupInProgress := by
  have hensured := session.ensureInitialized_warmupInProgress now false launched finishedAt
  unfold invoke
  cases hcase : session.ensureInitialized now false launched finishedAt with
  | mk outcome ensured =>
      rw [hcase] at hensured
      rw [← hensured]
      cases outcome with
      | error error => rfl
      | ok client =>
          dsimp only
          split
          · cases operation with
            | error error => exact failWith_warmupInProgress finishedAt _ _ _
            | ok result => rfl
          · rfl

theorem runProbeOperation_warmupInProgress (operation : LspResult α) (finishedAt : ℚ) :
    (session.runProbeOperation operation finishedAt).2.warmupInProgress =
      session.warmupInProgress := by
  unfold runProbeOperation
  cases operation with
  | error error => exact failWith_warmupInProgress finishedAt _ _ _
  | ok result => rfl

/-- A request is accepted only while the flag is not set, and sets it. -/
theorem requestWarmup_warmupInProgress (now : ℚ) :
    (session.requestWarmup now).2.warmupInProgress =
        ((session.requestWarmup now).1 || session.warmupInProgress) ∧
      (session.warmupInProgress = true → (session.requestWarmup now).1 = false) := by
  unfold requestWarmup
  by_cases hready : (session.client.isSome && session.warmProbeCompleted) = true
  · simp [hready]
  · by_cases hflag : session.warmupInProgress = true
    · simp [hready, hflag]
    · by_cases hwait : session.mustWait now = true
      · simp [hready, hflag, hwait]
      · simp [hready, hflag, hwait]

end ManagedSession

/-! ## Workers -/

def WarmupPhase.isActive (phase : WarmupPhase) : Bool := phase ≠ .finished

namespace WarmedSession

variable {world : WarmedSession}

theorem workerStep_cases (index : ℕ) (phase : WarmupPhase) (step : WarmupStep) :
    ((world.workerStep index phase step).session.warmupInProgress =
        world.session.warmupInProgress ∧ phase.isActive = true ∧
      ∃ next : WarmupPhase, next.isActive = true ∧
        (world.workerStep index phase step).workers = world.workers.set index next) ∨
    (phase.isActive = true ∧ world.workerStep index phase step =
      world.proceed index .finished world.session.cancelWarmupRequest) ∨
    world.workerStep index phase step = world := by
  have hprobe : ∀ (client : ℕ) (operation : LspResult Bool) (now : ℚ)
      (next : Bool → WarmupPhase), (∀ found, (next found).isActive = true) →
      (world.probe index client operation now next).session.warmupInProgress =
          world.session.warmupInProgress ∧
        ∃ later : WarmupPhase, later.isActive = true ∧
          (world.probe index client operation now next).workers =
            world.workers.set index later := by
    intro client operation now next hnext
    have hflag := world.session.runProbeOperation_warmupInProgress
      (world.operationOn client operation) now
    unfold probe
    cases hcase : world.session.runProbeOperation (world.operationOn client operation) now with
    | mk outcome session =>
        rw [hcase] at hflag
        cases outcome with
        | error error => exact ⟨hflag, .leaving, rfl, rfl⟩
        | ok found => exact ⟨hflag, next found, hnext found, rfl⟩
  cases phase with
  | queued =>
      cases step with
      | ensure now launched failedAt =>
          have hflag := world.session.ensureInitialized_warmupInProgress now true launched failedAt
          left
          cases hcase : world.session.ensureInitialized now true launched failedAt with
          | mk outcome session =>
              rw [hcase] at hflag
              simp only [workerStep, hcase]
              cases outcome with
              | error error => exact ⟨hflag, rfl, .leaving, rfl, rfl⟩
              | ok client => exact ⟨hflag, rfl, .selecting client, rfl, rfl⟩
      | _ => exact .inr (.inr rfl)
  | selecting client =>
      cases step with
      | select found now =>
          left
          cases found with
          | error error => exact ⟨rfl, rfl, .leaving, rfl, rfl⟩
          | ok found =>
              cases found with
              | true => exact ⟨rfl, rfl, .documentSymbols client, rfl, rfl⟩
              | false => exact ⟨rfl, rfl, .completing client, rfl, rfl⟩
      | _ => exact .inr (.inr rfl)
  | documentSymbols client =>
      cases step with
      | probe operation now =>
          obtain ⟨hflag, hnext⟩ := hprobe client operation now
            (fun found => if found then .definitions client else .completing client) (by
              intro found
              cases found with
              | true => rfl
              | false => rfl)
          exact .inl ⟨hflag, rfl, hnext⟩
      | _ => exact .inr (.inr rfl)
  | definitions client =>
      cases step with
      | probe operation now =>
          obtain ⟨hflag, hnext⟩ := hprobe client operation now (fun _ => .references client)
            fun _ => rfl
          exact .inl ⟨hflag, rfl, hnext⟩
      | _ => exact .inr (.inr rfl)
  | references client =>
      cases step with
      | probe operation now =>
          obtain ⟨hflag, hnext⟩ := hprobe client operation now (fun _ => .completing client)
            fun _ => rfl
          exact .inl ⟨hflag, rfl, hnext⟩
      | _ => exact .inr (.inr rfl)
  | completing client =>
      cases step with
      | complete now => exact .inl ⟨rfl, rfl, .leaving, rfl, rfl⟩
      | _ => exact .inr (.inr rfl)
  | leaving =>
      cases step with
      | leave => exact .inr (.inl ⟨rfl, rfl⟩)
      | _ => exact .inr (.inr rfl)
  | finished => exact .inr (.inr rfl)

end WarmedSession

/-! ## Requests of the coordinator -/

/-- A session, the accepted requests whose worker is not submitted yet, and the number of
workers which were cancelled before they began. -/
structure WarmupQueue where
  world : WarmedSession
  submitting : ℕ
  cancelled : ℕ

inductive WarmupEvent where
  | request (now : ℚ)
  | submitted
  | submitFailed
  | worker (index : ℕ) (step : WarmupStep)
  | invoke (now : ℚ) (launched operation : LspResult Unit) (finishedAt : ℚ)
  | closeIfIdle (now : ℚ)
  | shutdown
  /-- `executor.shutdown(cancel_futures=True)` on a worker which has not begun. -/
  | cancelFuture (index : ℕ)

variable {phase : WarmupPhase}

namespace WarmupQueue

def new (family : ServerFamily) (attachmentRoot : String) (idleTtlSeconds : ℚ) : WarmupQueue :=
  ⟨.new family attachmentRoot idleTtlSeconds, 0, 0⟩

/-- One event; without an accepted request there is nothing to submit. -/
def step (queue : WarmupQueue) : WarmupEvent → WarmupQueue
  | .request now =>
      { queue with
        world := queue.world.step (.requestWarmup now)
        submitting := queue.submitting + if (queue.world.session.requestWarmup now).1 then 1 else 0 }
  | .submitted =>
      if queue.submitting = 0 then queue
      else { queue with world := queue.world.step .warm, submitting := queue.submitting - 1 }
  | .submitFailed =>
      if queue.submitting = 0 then queue
      else
        { queue with
          world := queue.world.step .cancelWarmupRequest
          submitting := queue.submitting - 1 }
  | .worker index step => { queue with world := queue.world.step (.worker index step) }
  | .invoke now launched operation finishedAt =>
      { queue with world := queue.world.step (.invoke now launched operation finishedAt) }
  | .closeIfIdle now => { queue with world := queue.world.step (.closeIfIdle now) }
  | .shutdown => { queue with world := queue.world.step .shutdown }
  | .cancelFuture index =>
      if queue.world.workers[index]? = some .queued then
        { queue with
          world := queue.world.proceed index .finished queue.world.session
          cancelled := queue.cancelled + 1 }
      else queue

def warming (queue : WarmupQueue) : Bool := queue.world.session.warmupInProgress

def outstanding (queue : WarmupQueue) : ℕ :=
  queue.submitting + queue.world.workers.countP WarmupPhase.isActive

/-- The flag is set for one warm-up, which is outstanding or was cancelled. -/
def Tracked (queue : WarmupQueue) : Prop :=
  queue.outstanding + queue.cancelled = queue.warming.toNat

def Clears (queue : WarmupQueue) : Prop :=
  ∃ events : List WarmupEvent, (events.foldl step queue).warming = false

variable {queue : WarmupQueue}

theorem active_pos {index : ℕ} (hphase : queue.world.workers[index]? = some phase)
    (hactive : phase.isActive = true) :
    0 < queue.world.workers.countP WarmupPhase.isActive :=
  List.countP_pos_iff.mpr ⟨phase, List.mem_of_getElem? hphase, hactive⟩

theorem Tracked.worker {world : WarmedSession} {index : ℕ} {next : WarmupPhase}
    (htracked : queue.Tracked) (hphase : queue.world.workers[index]? = some phase)
    (hactive : phase.isActive = true)
    (hworkers : world.workers = queue.world.workers.set index next)
    (hflag : world.session.warmupInProgress = next.isActive) :
    Tracked { queue with world := world } := by
  obtain ⟨hindex, hget⟩ := List.getElem?_eq_some_iff.mp hphase
  have hpos := active_pos hphase hactive
  unfold Tracked outstanding warming at htracked ⊢
  dsimp only
  rw [hworkers, List.countP_set hindex, hget, if_pos hactive, hflag]
  have hone := Bool.toNat_le queue.world.session.warmupInProgress
  cases next.isActive with
  | false =>
      simp only [Bool.false_eq_true, if_false, Bool.toNat_false]
      omega
  | true =>
      simp only [if_true, Bool.toNat_true]
      omega

theorem Tracked.step (htracked : queue.Tracked) (event : WarmupEvent) :
    (queue.step event).Tracked := by
  cases event with
  | request now =>
      obtain ⟨hflag, hrefused⟩ := queue.world.session.requestWarmup_warmupInProgress now
      unfold Tracked outstanding warming at htracked ⊢
      simp only [WarmupQueue.step, WarmedSession.step, hflag]
      cases haccepted : (queue.world.session.requestWarmup now).1 with
      | false => simpa [haccepted] using htracked
      | true =>
          have hclear : queue.world.session.warmupInProgress = false := by
            rw [← Bool.not_eq_true]
            intro hset
            rw [hrefused hset] at haccepted
            cases haccepted
          rw [hclear, Bool.toNat_false] at htracked
          simp only [if_true, Bool.true_or, Bool.toNat_true]
          omega
  | submitted =>
      unfold WarmupQueue.step
      dsimp only
      split
      · exact htracked
      · unfold Tracked outstanding warming at htracked ⊢
        have hqueued : [WarmupPhase.queued].countP WarmupPhase.isActive = 1 := rfl
        simp only [WarmedSession.step, List.countP_append, hqueued]
        omega
  | submitFailed =>
      unfold WarmupQueue.step
      dsimp only
      split
      · exact htracked
      · unfold Tracked outstanding warming at htracked ⊢
        have hone := Bool.toNat_le queue.world.session.warmupInProgress
        simp only [WarmedSession.step, ManagedSession.cancelWarmupRequest_warmupInProgress,
          Bool.toNat_false]
        omega
  | worker index step =>
      unfold WarmupQueue.step WarmedSession.step
      dsimp only
      cases hphase : queue.world.workers[index]? with
      | none => exact htracked
      | some phase =>
          dsimp only
          obtain hgoes | hends | hstays := queue.world.workerStep_cases index phase step
          · obtain ⟨hflag, hactive, next, hnext, hworkers⟩ := hgoes
            apply htracked.worker hphase hactive hworkers
            rw [hflag, hnext]
            have hpos := active_pos hphase hactive
            unfold Tracked outstanding warming at htracked
            cases hset : queue.world.session.warmupInProgress with
            | true => rfl
            | false =>
                rw [hset, Bool.toNat_false] at htracked
                omega
          · obtain ⟨hactive, hworld⟩ := hends
            rw [hworld]
            apply htracked.worker hphase hactive rfl
            exact queue.world.session.cancelWarmupRequest_warmupInProgress
          · rw [hstays]
            exact htracked
  | invoke now launched operation finishedAt =>
      unfold Tracked outstanding warming at htracked ⊢
      simp only [WarmupQueue.step, WarmedSession.step, ManagedSession.invoke_warmupInProgress]
      exact htracked
  | closeIfIdle now =>
      unfold Tracked outstanding warming at htracked ⊢
      simp only [WarmupQueue.step, WarmedSession.step, ManagedSession.closeIfIdle_warmupInProgress]
      exact htracked
  | shutdown => exact htracked
  | cancelFuture index =>
      unfold WarmupQueue.step
      dsimp only
      split
      · rename_i hphase
        obtain ⟨hindex, hget⟩ := List.getElem?_eq_some_iff.mp hphase
        have hpos := active_pos hphase rfl
        unfold Tracked outstanding warming at htracked ⊢
        have hqueued : WarmupPhase.queued.isActive = true := rfl
        have hfinished : WarmupPhase.finished.isActive = false := rfl
        simp only [WarmedSession.proceed, List.countP_set hindex, hget, hqueued, hfinished,
          if_true, Bool.false_eq_true, if_false]
        omega
      · exact htracked

theorem Clears.of_step (event : WarmupEvent) (hclears : (queue.step event).Clears) :
    queue.Clears := by
  obtain ⟨events, hclear⟩ := hclears
  use event :: events
  exact hclear

/-! ### Ending a warm-up -/

def failure : LspError := ⟨.lspProcessError, "language server has stopped"⟩

section Ending

variable {index client : ℕ}

theorem clears_leaving (hphase : queue.world.workers[index]? = some .leaving) : queue.Clears := by
  use [.worker index .leave]
  simp [step, WarmedSession.step, hphase, WarmedSession.workerStep, WarmedSession.proceed, warming]

theorem clears_of_moved (taken : WarmupStep) {next : WarmupPhase}
    (hphase : queue.world.workers[index]? = some phase)
    (hmoved : (queue.world.workerStep index phase taken).workers =
      queue.world.workers.set index next)
    (hnext : ∀ later : WarmupQueue, later.world.workers[index]? = some next → later.Clears) :
    queue.Clears := by
  obtain ⟨hindex, -⟩ := List.getElem?_eq_some_iff.mp hphase
  apply Clears.of_step (.worker index taken)
  apply hnext
  simp only [step, WarmedSession.step, hphase, hmoved]
  exact List.getElem?_set_self hindex

theorem probe_failure_workers (world : WarmedSession) (now : ℚ) (next : Bool → WarmupPhase) :
    (world.probe index client (.error failure) now next).workers =
      world.workers.set index .leaving := by
  have herror : ∃ error, world.operationOn client (.error failure) = .error error := by
    unfold WarmedSession.operationOn
    split
    · exact ⟨_, rfl⟩
    · exact ⟨_, rfl⟩
  obtain ⟨error, herror⟩ := herror
  simp only [WarmedSession.probe, ManagedSession.runProbeOperation, herror,
    ManagedSession.failWith]
  split
  · rfl
  · rename_i hfound
    split at hfound
    · cases hfound
    · cases hfound

theorem clears_selecting (hphase : queue.world.workers[index]? = some (.selecting client)) :
    queue.Clears :=
  clears_of_moved (.select (.error failure) 0) hphase rfl fun _ => clears_leaving

/-- Whatever an active worker waits for, a failure of it ends the worker. -/
theorem clears_active (hphase : queue.world.workers[index]? = some phase)
    (hactive : phase.isActive = true) : queue.Clears := by
  cases phase with
  | queued =>
      cases hcase : queue.world.session.ensureInitialized 0 true (.error failure) 0 with
      | mk outcome session =>
          cases outcome with
          | error error =>
              apply clears_of_moved (.ensure 0 (.error failure) 0) hphase
              · simp only [WarmedSession.workerStep, hcase]
                rfl
              · exact fun _ => clears_leaving
          | ok client =>
              apply clears_of_moved (.ensure 0 (.error failure) 0) hphase
              · simp only [WarmedSession.workerStep, hcase]
                rfl
              · exact fun _ => clears_selecting
  | selecting client => exact clears_selecting hphase
  | documentSymbols client =>
      exact clears_of_moved (.probe (.error failure) 0) hphase
        (probe_failure_workers queue.world 0 _) fun _ => clears_leaving
  | definitions client =>
      exact clears_of_moved (.probe (.error failure) 0) hphase
        (probe_failure_workers queue.world 0 _) fun _ => clears_leaving
  | references client =>
      exact clears_of_moved (.probe (.error failure) 0) hphase
        (probe_failure_workers queue.world 0 _) fun _ => clears_leaving
  | completing client =>
      exact clears_of_moved (.complete 0) hphase rfl fun _ => clears_leaving
  | leaving => exact clears_leaving hphase
  | finished => cases hactive

end Ending

/-- Without a cancelled worker the warm-up which holds the flag can end. -/
theorem Tracked.clears (htracked : queue.Tracked) (hcancelled : queue.cancelled = 0) :
    queue.Clears := by
  by_cases hsubmitting : queue.submitting = 0
  · by_cases hactive : ∃ phase ∈ queue.world.workers, phase.isActive = true
    · obtain ⟨phase, hmem, hactive⟩ := hactive
      obtain ⟨index, hphase⟩ := List.mem_iff_getElem?.mp hmem
      exact clears_active hphase hactive
    · have hnone : queue.world.workers.countP WarmupPhase.isActive = 0 := by
        rw [List.countP_eq_zero]
        intro phase hmem hset
        exact hactive ⟨phase, hmem, hset⟩
      use []
      unfold Tracked outstanding at htracked
      rw [hsubmitting, hnone, hcancelled] at htracked
      exact Bool.toNat_eq_zero.mp htracked.symm
  · apply Clears.of_step .submitFailed
    use []
    simp [WarmupQueue.step, hsubmitting, WarmedSession.step, warming]

theorem cancelled_le_step (queue : WarmupQueue) (event : WarmupEvent) :
    queue.cancelled ≤ (queue.step event).cancelled := by
  cases event with
  | cancelFuture index =>
      unfold step
      dsimp only
      split
      · exact Nat.le_succ _
      · exact le_rfl
  | request now | worker index step | invoke now launched operation finishedAt
  | closeIfIdle now | shutdown => exact le_rfl
  | submitted | submitFailed =>
      unfold step
      dsimp only
      split
      · exact le_rfl
      · exact le_rfl

/-- What holds of the requests for a session. -/
structure InStep (queue : WarmupQueue) : Prop where
  atMostOne : queue.outstanding + queue.cancelled ≤ 1
  flag_iff : queue.warming = true ↔ queue.outstanding = 1 ∨ queue.cancelled = 1
  clears : queue.cancelled = 0 → queue.Clears
  refused : queue.cancelled = 1 → ∀ events, ∀ later ∈ reached step queue events, ∀ now,
    (later.world.session.requestWarmup now).1 = false

theorem Tracked.run (htracked : queue.Tracked) (events : List WarmupEvent) :
    ∀ later ∈ reached WarmupQueue.step queue events, later.Tracked ∧ queue.cancelled ≤ later.cancelled := by
  induction events generalizing queue with
  | nil =>
      intro later hlater
      cases hlater
  | cons event events ih =>
      intro later hlater
      have hnext := htracked.step event
      have hle := queue.cancelled_le_step event
      cases hlater with
      | head => exact ⟨hnext, hle⟩
      | tail _ hrest => exact ⟨(ih hnext later hrest).1, hle.trans (ih hnext later hrest).2⟩

theorem Tracked.refused (htracked : queue.Tracked) (hcancelled : 0 < queue.cancelled) (now : ℚ) :
    (queue.world.session.requestWarmup now).1 = false := by
  apply (queue.world.session.requestWarmup_warmupInProgress now).2
  unfold Tracked warming at htracked
  rw [← Bool.toNat_eq_one]
  have hone := Bool.toNat_le queue.world.session.warmupInProgress
  omega

theorem Tracked.inStep (htracked : queue.Tracked) : queue.InStep where
  atMostOne := by
    have hone := Bool.toNat_le queue.warming
    unfold Tracked at htracked
    omega
  flag_iff := by
    have hone := Bool.toNat_le queue.warming
    unfold Tracked at htracked
    rw [← Bool.toNat_eq_one]
    omega
  clears := htracked.clears
  refused := by
    intro hcancelled events later hlater now
    obtain ⟨hlaterTracked, hle⟩ := htracked.run events later hlater
    apply hlaterTracked.refused
    omega

end WarmupQueue

/-- In every interleaving the flag of a session is in step with its one warm-up. -/
theorem warmupRequests_inStep (family : ServerFamily) (attachmentRoot : String)
    (idleTtlSeconds : ℚ) (events : List WarmupEvent) :
    (WarmupQueue.new family attachmentRoot idleTtlSeconds).InStep ∧
      ∀ queue ∈ reached WarmupQueue.step (.new family attachmentRoot idleTtlSeconds) events,
        queue.InStep := by
  have hnew : (WarmupQueue.new family attachmentRoot idleTtlSeconds).Tracked := rfl
  constructor
  · exact hnew.inStep
  · intro queue hqueue
    exact (hnew.run events queue hqueue).1.inStep

end SuitCode
