import SuitCode.Library.Runs
import Mathlib.Data.Rat.Defs
import Mathlib.Data.Nat.Notation

/-!
# Coordinator instances and their endpoint

The instances of a project share one socket path and one discovery file, and
clients replace an instance under a lock which its shutdown does not take.  An
instance which stops unlinks the path with its listener and once more at the
end of every `shutdown`, and a signal starts a `shutdown` at any place of its
program, also before it has bound the path.
-/

namespace SuitCode

open Runs

/-! ## Instances -/

/-- The place of the main thread in `run`. -/
inductive RunPhase where
  | starting
  /-- The socket at the path was found not to answer; it will be unlinked. -/
  | staleSocket
  | binding
  /-- The socket is bound and does not listen yet. -/
  | bound
  /-- The listener is constructed, but not yet an attribute of the server. -/
  | constructed
  | serving
  /-- Behind `serve`: the `shutdown` of the `finally` clause. -/
  | finishing
  | exited
  deriving DecidableEq, Repr

/-- The place in one call of `shutdown`. -/
inductive ShutdownPhase where
  | entered
  /-- The listening socket is closed; `Listener.close` unlinks the path next. -/
  | closing
  /-- The sessions shut down; the discovery record is removed next. -/
  | closed
  /-- `cleanup_endpoint` is next. -/
  | removed
  deriving DecidableEq, Repr

structure Stopping where
  /-- The calls of `shutdown`; a signal handler runs its own before the one it interrupts. -/
  shutdowns : List ShutdownPhase := []
  /-- The listening socket is closed. -/
  socketClosed : Bool := false
  /-- The idle thread has closed it and unlinks the path next. -/
  idleCloses : Bool := false
  deriving DecidableEq, Repr

structure CoordinatorInstance where
  program : RunPhase
  stopping : Option Stopping
  deriving DecidableEq, Repr

namespace CoordinatorInstance

def exited : CoordinatorInstance := ⟨.exited, none⟩

def accepts (coordinator : CoordinatorInstance) : Bool :=
  coordinator.program ∈ [RunPhase.constructed, .serving, .finishing] &&
    coordinator.stopping.all fun stopping => !stopping.socketClosed

def owns (coordinator : CoordinatorInstance) : Bool :=
  coordinator.program ∈ [RunPhase.bound, .constructed, .serving] && coordinator.stopping.isNone

def unlinksLater (coordinator : CoordinatorInstance) : Bool :=
  coordinator.program = .staleSocket || coordinator.stopping.isSome

/-- The main thread goes on with `run`: no signal handler runs, and no `shutdown`. -/
def isFree (coordinator : CoordinatorInstance) : Bool :=
  coordinator.stopping.all fun stopping => stopping.shutdowns.isEmpty

def stop (coordinator : CoordinatorInstance) : CoordinatorInstance :=
  { coordinator with stopping := some (coordinator.stopping.getD {}) }

/-- A call of `shutdown` begins. -/
def shutdown (coordinator : CoordinatorInstance) : CoordinatorInstance :=
  let stopping := coordinator.stopping.getD {}
  { coordinator with
    stopping := some { stopping with shutdowns := .entered :: stopping.shutdowns } }

theorem owns_of_stopping (program : RunPhase) (stopping : Stopping) :
    owns ⟨program, some stopping⟩ = false := by
  simp [owns]

theorem unlinksLater_of_stopping (program : RunPhase) (stopping : Stopping) :
    unlinksLater ⟨program, some stopping⟩ = true := by
  simp [unlinksLater]

theorem stopping_of_owns {coordinator : CoordinatorInstance} (howns : coordinator.owns = true) :
    coordinator.stopping = none := by
  unfold owns at howns
  simpa using (Bool.and_eq_true_iff.mp howns).2

theorem owns_or_unlinksLater {coordinator : CoordinatorInstance}
    (hserving : coordinator.program = .serving) :
    coordinator.owns = true ∨ coordinator.unlinksLater = true := by
  unfold owns unlinksLater
  cases coordinator.stopping with
  | none => simp [hserving]
  | some stopping => simp

end CoordinatorInstance

structure DiscoveryEntry where
  instanceId : ℕ
  expiresAt : ℚ
  /-- Protocol and build version are those of the client. -/
  current : Bool
  deriving DecidableEq, Repr

/-- A client on its way through `_ensure_coordinator`. -/
inductive ClientPhase where
  | outside
  | locked
  | electing
  | terminating (instanceId : ℕ)
  | cleared
  | waiting (instanceId : ℕ)
  deriving DecidableEq, Repr

structure EndpointWorld where
  instances : List CoordinatorInstance
  /-- The instance whose socket is at the endpoint path. -/
  socket : Option ℕ
  discovery : Option DiscoveryEntry
  lock : Option ℕ
  clients : List ClientPhase
  deriving DecidableEq, Repr

/-- A step of `run`. -/
inductive RunStep where
  | probe
  | unlinkStale
  | bind
  | listen
  | assignListener
  /-- It comes to its `finally` clause. -/
  | finish
  | exit
  deriving DecidableEq, Repr

/-- A step of `shutdown`, or of the idle thread behind the stop event. -/
inductive StoppingStep where
  | closeListener
  | unlinkListener
  | removeIfOwned
  | cleanupEndpoint
  | idleClose
  | idleUnlink
  deriving DecidableEq, Repr

inductive InstanceStep where
  | run (step : RunStep)
  | stopping (step : StoppingStep)
  | publish (expiresAt : ℚ) (current : Bool)
  /-- Idle, or a shutdown request. -/
  | stop
  /-- `SIGTERM` or `SIGINT`. -/
  | signal
  | killed
  deriving DecidableEq, Repr

inductive ClientStep where
  | acquire
  | probeAgain
  | replaceOrCleanup (now : ℚ)
  | reap
  | spawnCandidate
  | release
  deriving DecidableEq, Repr

inductive EndpointEvent where
  /-- An instance is started by hand. -/
  | launch
  /-- A client has found no instance which answers. -/
  | arrive
  | instance (index : ℕ) (step : InstanceStep)
  | client (index : ℕ) (step : ClientStep)
  deriving DecidableEq, Repr

variable {changed : CoordinatorInstance} {later : EndpointWorld}

namespace EndpointWorld

def new : EndpointWorld := ⟨[], none, none, none, []⟩

def put (world : EndpointWorld) (index : ℕ) (coordinator : CoordinatorInstance) : EndpointWorld :=
  { world with instances := world.instances.set index coordinator }

def clientTo (world : EndpointWorld) (index : ℕ) (phase : ClientPhase) : EndpointWorld :=
  { world with clients := world.clients.set index phase }

def isServed (world : EndpointWorld) : Bool :=
  match world.socket with
  | some owner => (world.instances.getD owner .exited).accepts
  | none => false

def removeIfOwned (world : EndpointWorld) (instanceId : ℕ) : EndpointWorld :=
  match world.discovery with
  | some entry =>
      if entry.instanceId = instanceId then { world with discovery := none } else world
  | none => world

def hasExited (world : EndpointWorld) (index : ℕ) : Bool :=
  (world.instances.getD index .exited).program = .exited

/-- `SIGTERM`; a process which has ended does not receive it. -/
def terminate (world : EndpointWorld) (index : ℕ) : EndpointWorld :=
  match world.instances[index]? with
  | some coordinator =>
      if coordinator.program = .exited then world else world.put index coordinator.shutdown
  | none => world

def runStep (world : EndpointWorld) (index : ℕ) (coordinator : CoordinatorInstance) :
    RunPhase → RunStep → EndpointWorld
  | .starting, .probe =>
      match world.socket with
      | none => world.put index { coordinator with program := .binding }
      | some _ =>
          if world.isServed then world.put index .exited
          else world.put index { coordinator with program := .staleSocket }
  | .staleSocket, .unlinkStale =>
      { world.put index { coordinator with program := .binding } with socket := none }
  | .binding, .bind =>
      match world.socket with
      | none => { world.put index { coordinator with program := .bound } with socket := some index }
      | some _ => world.put index .exited
  | .bound, .listen => world.put index { coordinator with program := .constructed }
  | .constructed, .assignListener => world.put index { coordinator with program := .serving }
  | .serving, .finish => world.put index { coordinator.shutdown with program := .finishing }
  | .finishing, .exit => world.put index .exited
  | _, _ => world

/-- The innermost `shutdown` is the first of the list; it closes what `self._listener` is. -/
def stoppingStep (world : EndpointWorld) (index : ℕ) (program : RunPhase) (stopping : Stopping) :
    List ShutdownPhase → StoppingStep → EndpointWorld
  | .entered :: outer, .closeListener =>
      if (program = .serving ∨ program = .finishing) ∧ stopping.socketClosed = false then
        world.put index
          ⟨program, some { stopping with shutdowns := .closing :: outer, socketClosed := true }⟩
      else world.put index ⟨program, some { stopping with shutdowns := .closed :: outer }⟩
  | .closing :: outer, .unlinkListener =>
      { world.put index ⟨program, some { stopping with shutdowns := .closed :: outer }⟩ with
        socket := none }
  | .closed :: outer, .removeIfOwned =>
      (world.removeIfOwned index).put index
        ⟨program, some { stopping with shutdowns := .removed :: outer }⟩
  | .removed :: outer, .cleanupEndpoint =>
      { world.put index ⟨program, some { stopping with shutdowns := outer }⟩ with socket := none }
  | _, .idleClose =>
      if (program = .serving ∨ program = .finishing) ∧ stopping.socketClosed = false then
        world.put index ⟨program, some { stopping with socketClosed := true, idleCloses := true }⟩
      else world
  | _, .idleUnlink =>
      if stopping.idleCloses then
        { world.put index ⟨program, some { stopping with idleCloses := false }⟩ with
          socket := none }
      else world
  | _, _ => world

def instanceStep (world : EndpointWorld) (index : ℕ) (coordinator : CoordinatorInstance) :
    InstanceStep → EndpointWorld
  | .run step =>
      if coordinator.isFree then world.runStep index coordinator coordinator.program step
      else world
  | .stopping step =>
      match coordinator.stopping with
      | some stopping =>
          world.stoppingStep index coordinator.program stopping stopping.shutdowns step
      | none => world
  | .publish expiresAt current =>
      if coordinator.program = .serving ∨ coordinator.program = .finishing then
        { world with discovery := some ⟨index, expiresAt, current⟩ }
      else world
  | .stop => if coordinator.program = .serving then world.put index coordinator.stop else world
  | .signal => world.terminate index
  | .killed => world.put index .exited

def clientStep (world : EndpointWorld) (index : ℕ) : ClientPhase → ClientStep → EndpointWorld
  | .outside, .acquire =>
      match world.lock with
      | none => { world.clientTo index .locked with lock := some index }
      | some _ => world
  | .locked, .probeAgain =>
      if world.isServed then { world.clientTo index .outside with lock := none }
      else world.clientTo index .electing
  | .electing, .replaceOrCleanup now =>
      match world.discovery with
      | none => world.clientTo index .cleared
      | some entry =>
          if entry.current && (world.hasExited entry.instanceId || entry.expiresAt ≤ now) then
            (world.removeIfOwned entry.instanceId).clientTo index .cleared
          else
            (world.terminate entry.instanceId).clientTo index (.terminating entry.instanceId)
  | .terminating instanceId, .reap =>
      ((world.put instanceId .exited).removeIfOwned instanceId).clientTo index .cleared
  | .cleared, .spawnCandidate =>
      { world.clientTo index (.waiting world.instances.length) with
        instances := world.instances ++ [⟨.starting, none⟩] }
  | .waiting instanceId, .release =>
      if world.isServed || world.hasExited instanceId then
        { world.clientTo index .outside with lock := none }
      else world
  | _, _ => world

/-- One event; a step which its party cannot make changes nothing. -/
def step (world : EndpointWorld) : EndpointEvent → EndpointWorld
  | .launch => { world with instances := world.instances ++ [⟨.starting, none⟩] }
  | .arrive => { world with clients := world.clients ++ [.outside] }
  | .instance index step =>
      match world.instances[index]? with
      | some coordinator => world.instanceStep index coordinator step
      | none => world
  | .client index step =>
      match world.clients[index]? with
      | some phase => world.clientStep index phase step
      | none => world

/-! ## Ownership -/

/-- The socket at the path is the one of the instance which has bound it and does not stop. -/
def EndpointOwned (world : EndpointWorld) : Prop :=
  ∀ (index : ℕ) (coordinator : CoordinatorInstance),
    world.instances[index]? = some coordinator → coordinator.owns = true →
      world.socket = some index

/-- A signal does not reach an instance which is neither an owner nor about to unlink, while
another instance owns the path. -/
def SignalsSafely (world : EndpointWorld) (index : ℕ) : Prop :=
  (world.instances.getD index .exited).owns = true ∨
    (world.instances.getD index .exited).unlinksLater = true ∨
      (world.instances.getD index .exited).program = .exited ∨
        ∀ other ∈ world.instances, other.owns = false

/-- An instance which is not stopping binds only while no instance may still unlink the path;
none probes it between the `bind` and the `listen` of an owner, and no signal makes an instance
which has not bound unlink it. -/
def BindsAlone (world : EndpointWorld) : EndpointEvent → Prop
  | .instance index (.run .bind) =>
      (world.instances.getD index .exited).program = .binding →
        (world.instances.getD index .exited).stopping = none →
          ∀ other ∈ world.instances, other.unlinksLater = false
  | .instance index (.run .probe) =>
      (world.instances.getD index .exited).program = .starting →
        ∀ other ∈ world.instances, other.owns = true → other.program ≠ .bound
  | .instance index .signal => world.SignalsSafely index
  | .client _ (.replaceOrCleanup _) =>
      world.SignalsSafely ((world.discovery.map DiscoveryEntry.instanceId).getD
        world.instances.length)
  | _ => True

instance (world : EndpointWorld) (event : EndpointEvent) :
    Decidable (world.BindsAlone event) := by
  unfold BindsAlone SignalsSafely
  split <;> infer_instance

/-- While an instance owns the path its socket is there and nobody will unlink it. -/
structure Sole (world : EndpointWorld) : Prop where
  owned : world.EndpointOwned
  alone : ∀ coordinator ∈ world.instances, coordinator.owns = true →
    ∀ other ∈ world.instances, other.unlinksLater = false

def Unowned (world : EndpointWorld) : Prop :=
  ∀ coordinator ∈ world.instances, coordinator.owns = false

theorem Unowned.sole {world : EndpointWorld} (hunowned : world.Unowned) : world.Sole where
  owned index coordinator hcoordinator howns := by
    rw [hunowned coordinator (List.mem_of_getElem? hcoordinator)] at howns
    cases howns
  alone coordinator hmem howns := by
    rw [hunowned coordinator hmem] at howns
    cases howns

variable {world : EndpointWorld} {index : ℕ} {coordinator : CoordinatorInstance}

theorem Sole.unowned_of_unlinksLater (hsole : world.Sole)
    (hcoordinator : world.instances[index]? = some coordinator)
    (hlater : coordinator.unlinksLater = true) : world.Unowned := by
  intro owner howner
  by_contra howns
  have hquiet := hsole.alone owner howner (by simpa using howns) coordinator
    (List.mem_of_getElem? hcoordinator)
  rw [hlater] at hquiet
  cases hquiet

theorem Unowned.put (hunowned : world.Unowned) (howns : changed.owns = false)
    (hlater : later.instances = world.instances.set index changed) : later.Unowned := by
  intro member hmember
  rw [hlater] at hmember
  cases List.mem_or_eq_of_mem_set hmember with
  | inl hmem => exact hunowned member hmem
  | inr heq =>
      rw [heq]
      exact howns

/-- An instance which is about to unlink the path does whatever it does to an unowned one. -/
theorem Sole.unlinking (hsole : world.Sole)
    (hcoordinator : world.instances[index]? = some coordinator)
    (hlater : coordinator.unlinksLater = true) (howns : changed.owns = false)
    (hinstances : later.instances = world.instances.set index changed) : later.Sole :=
  ((hsole.unowned_of_unlinksLater hcoordinator hlater).put howns hinstances).sole

/-- The owner itself gives the path up. -/
theorem Sole.giveUp (hsole : world.Sole) (hcoordinator : world.instances[index]? = some coordinator)
    (howns : coordinator.owns = true) (hchanged : changed.owns = false)
    (hinstances : later.instances = world.instances.set index changed) : later.Sole := by
  apply Unowned.sole
  intro member hmember
  rw [hinstances] at hmember
  obtain ⟨other, hother⟩ := List.getElem?_of_mem hmember
  rw [List.getElem?_set] at hother
  by_cases heq : index = other
  · rw [if_pos heq] at hother
    split at hother
    · rw [← Option.some.inj hother]
      exact hchanged
    · cases hother
  · rw [if_neg heq] at hother
    by_contra hmemberOwns
    have hsame := (hsole.owned index coordinator hcoordinator howns).symm.trans
      (hsole.owned other member hother (by simpa using hmemberOwns))
    exact heq (Option.some.inj hsame)

theorem Sole.stopped (hsole : world.Sole)
    (hcoordinator : world.instances[index]? = some coordinator)
    (heither : coordinator.owns = true ∨ coordinator.unlinksLater = true)
    (howns : changed.owns = false)
    (hinstances : later.instances = world.instances.set index changed) : later.Sole := by
  cases heither with
  | inl howner => exact hsole.giveUp hcoordinator howner howns hinstances
  | inr hlater => exact hsole.unlinking hcoordinator hlater howns hinstances

/-- A step which takes no part in the ownership of the path. -/
theorem Sole.quiet (hsole : world.Sole)
    (howns : changed.owns = true →
      ∃ coordinator, world.instances[index]? = some coordinator ∧ coordinator.owns = true)
    (hquiet : changed.unlinksLater = false) (hsocket : later.socket = world.socket)
    (hinstances : later.instances = world.instances.set index changed) : later.Sole := by
  have hold : ∀ (other : ℕ) (member : CoordinatorInstance),
      later.instances[other]? = some member → member.owns = true →
        ∃ owner, world.instances[other]? = some owner ∧ owner.owns = true := by
    intro other member hmember hmemberOwns
    rw [hinstances, List.getElem?_set] at hmember
    by_cases heq : index = other
    · rw [if_pos heq] at hmember
      split at hmember
      · rw [← Option.some.inj hmember] at hmemberOwns
        rw [← heq]
        exact howns hmemberOwns
      · cases hmember
    · rw [if_neg heq] at hmember
      exact ⟨member, hmember, hmemberOwns⟩
  constructor
  · intro other member hmember hmemberOwns
    obtain ⟨owner, howner, hownerOwns⟩ := hold other member hmember hmemberOwns
    rw [hsocket]
    exact hsole.owned other owner howner hownerOwns
  · intro member hmember hmemberOwns other hother
    obtain ⟨place, hplace⟩ := List.getElem?_of_mem hmember
    obtain ⟨owner, howner, hownerOwns⟩ := hold place member hplace hmemberOwns
    rw [hinstances] at hother
    cases List.mem_or_eq_of_mem_set hother with
    | inl hmem =>
        exact hsole.alone owner (List.mem_of_getElem? howner) hownerOwns other hmem
    | inr heq =>
        rw [heq]
        exact hquiet

/-- The instance goes on in its program and stays what it is to the path. -/
theorem Sole.moveOn (hsole : world.Sole) (hcoordinator : world.instances[index]? = some coordinator)
    (howns : changed.owns = true → coordinator.owns = true)
    (hlater : changed.unlinksLater = true → coordinator.unlinksLater = true)
    (hsocket : later.socket = world.socket)
    (hinstances : later.instances = world.instances.set index changed) : later.Sole := by
  by_cases hunlinks : coordinator.unlinksLater = true
  · have hunowned := hsole.unowned_of_unlinksLater hcoordinator hunlinks coordinator
      (List.mem_of_getElem? hcoordinator)
    apply hsole.unlinking hcoordinator hunlinks _ hinstances
    by_contra hchanged
    rw [howns (by simpa using hchanged)] at hunowned
    cases hunowned
  · apply hsole.quiet (fun hchanged => ⟨coordinator, hcoordinator, howns hchanged⟩) _ hsocket
      hinstances
    by_contra hchanged
    exact hunlinks (hlater (by simpa using hchanged))

theorem Sole.exited (hsole : world.Sole) (hsocket : later.socket = world.socket)
    (hinstances : later.instances = world.instances.set index .exited) : later.Sole :=
  hsole.quiet (fun howns => absurd howns (by decide)) (by decide) hsocket hinstances

theorem Sole.launch (hsole : world.Sole) (hsocket : later.socket = world.socket)
    (hinstances : later.instances = world.instances ++ [⟨.starting, none⟩]) : later.Sole := by
  constructor
  · intro other member hmember howns
    rw [hinstances, List.getElem?_append] at hmember
    split at hmember
    · rw [hsocket]
      exact hsole.owned other member hmember howns
    · have hmem := List.mem_of_getElem? hmember
      rw [List.mem_singleton] at hmem
      rw [hmem] at howns
      exact absurd howns (by decide)
  · intro member hmember howns other hother
    rw [hinstances, List.mem_append, List.mem_singleton] at hmember hother
    cases hmember with
    | inl hmem =>
        cases hother with
        | inl hotherMem => exact hsole.alone member hmem howns other hotherMem
        | inr heq =>
            rw [heq]
            decide
    | inr heq =>
        rw [heq] at howns
        exact absurd howns (by decide)

theorem Sole.congr (hsole : world.Sole) (hsocket : later.socket = world.socket)
    (hinstances : later.instances = world.instances) :
    later.Sole where
  owned := by
    unfold EndpointOwned
    rw [hsocket, hinstances]
    exact hsole.owned
  alone := by
    rw [hinstances]
    exact hsole.alone

/-! ## Steps of an instance -/

theorem getD_instances (hcoordinator : world.instances[index]? = some coordinator) :
    world.instances.getD index .exited = coordinator := by
  simp [List.getD, hcoordinator]

/-- An owner which is past its `listen` answers a probe. -/
theorem isServed_of_owns (hsole : world.Sole)
    (hcoordinator : world.instances[index]? = some coordinator) (howns : coordinator.owns = true)
    (hlistens : coordinator.program ≠ .bound) : world.isServed = true := by
  have hstopping := CoordinatorInstance.stopping_of_owns howns
  unfold isServed
  rw [hsole.owned index coordinator hcoordinator howns]
  dsimp only
  rw [getD_instances hcoordinator]
  unfold CoordinatorInstance.owns at howns
  unfold CoordinatorInstance.accepts
  rw [hstopping]
  cases hprogram : coordinator.program <;> simp_all

theorem probe_sole (hsole : world.Sole) {stopping : Option Stopping}
    (hcoordinator : world.instances[index]? = some ⟨.starting, stopping⟩)
    (halone : world.BindsAlone (.instance index (.run .probe))) :
    (world.runStep index ⟨.starting, stopping⟩ .starting .probe).Sole := by
  have hlisten := halone (by rw [getD_instances hcoordinator])
  unfold runStep
  cases hsocket : world.socket with
  | none =>
      refine hsole.moveOn hcoordinator ?_ ?_ rfl rfl
      · intro howns
        simp [CoordinatorInstance.owns] at howns
      · exact id
  | some owner =>
      dsimp only
      by_cases hserved : world.isServed = true
      · rw [if_pos hserved]
        exact hsole.exited rfl rfl
      · rw [if_neg hserved]
        have hunowned : world.Unowned := by
          intro member hmember
          by_contra hmemberOwns
          obtain ⟨place, hplace⟩ := List.getElem?_of_mem hmember
          have howns : member.owns = true := by simpa using hmemberOwns
          exact hserved (isServed_of_owns hsole hplace howns (hlisten member hmember howns))
        exact (hunowned.put (by simp [CoordinatorInstance.owns]) rfl).sole

theorem bind_sole (hsole : world.Sole) {stopping : Option Stopping}
    (hcoordinator : world.instances[index]? = some ⟨.binding, stopping⟩)
    (halone : world.BindsAlone (.instance index (.run .bind))) :
    (world.runStep index ⟨.binding, stopping⟩ .binding .bind).Sole := by
  have hquiet := halone (by rw [getD_instances hcoordinator])
  rw [getD_instances hcoordinator] at hquiet
  unfold runStep
  cases hsocket : world.socket with
  | some owner => exact hsole.exited rfl rfl
  | none =>
      cases stopping with
      | some stopping =>
          exact hsole.unlinking hcoordinator
            (CoordinatorInstance.unlinksLater_of_stopping _ _)
            (CoordinatorInstance.owns_of_stopping _ _) rfl
      | none =>
          have hall := hquiet rfl
          constructor
          · intro other member hmember howns
            simp only [put, List.getElem?_set] at hmember
            by_cases heq : index = other
            · rw [heq]
            · rw [if_neg heq] at hmember
              -- the path is free
              have howned := hsole.owned other member hmember howns
              rw [hsocket] at howned
              cases howned
          · intro _ _ _ other hother
            cases List.mem_or_eq_of_mem_set hother with
            | inl hmem => exact hall other hmem
            | inr heq =>
                rw [heq]
                decide

theorem runStep_sole (hsole : world.Sole)
    (hcoordinator : world.instances[index]? = some coordinator) (step : RunStep)
    (halone : world.BindsAlone (.instance index (.run step))) :
    (world.runStep index coordinator coordinator.program step).Sole := by
  obtain ⟨program, stopping⟩ := coordinator
  cases step with
  | probe =>
      cases program with
      | starting => exact probe_sole hsole hcoordinator halone
      | _ => exact hsole
  | unlinkStale =>
      cases program with
      | staleSocket =>
          exact hsole.unlinking hcoordinator rfl (by simp [CoordinatorInstance.owns]) rfl
      | _ => exact hsole
  | bind =>
      cases program with
      | binding => exact bind_sole hsole hcoordinator halone
      | _ => exact hsole
  | listen =>
      cases program with
      | bound =>
          refine hsole.moveOn hcoordinator ?_ ?_ rfl rfl
          · exact id
          · exact id
      | _ => exact hsole
  | assignListener =>
      cases program with
      | constructed =>
          refine hsole.moveOn hcoordinator ?_ ?_ rfl rfl
          · exact id
          · exact id
      | _ => exact hsole
  | finish =>
      cases program with
      | serving =>
          exact hsole.stopped hcoordinator (CoordinatorInstance.owns_or_unlinksLater rfl)
            (CoordinatorInstance.owns_of_stopping _ _) rfl
      | _ => exact hsole
  | exit =>
      cases program with
      | finishing => exact hsole.exited rfl rfl
      | _ => exact hsole

theorem removeIfOwned_socket (instanceId : ℕ) :
    (world.removeIfOwned instanceId).socket = world.socket := by
  unfold removeIfOwned
  split
  · split <;> rfl
  · rfl

theorem removeIfOwned_instances (instanceId : ℕ) :
    (world.removeIfOwned instanceId).instances = world.instances := by
  unfold removeIfOwned
  split
  · split <;> rfl
  · rfl

/-- Whatever a stopping instance does, it changes its own state and stays one which stops. -/
theorem stoppingStep_instances (index : ℕ) (program : RunPhase) (stopping : Stopping)
    (shutdowns : List ShutdownPhase) (step : StoppingStep) :
    world.stoppingStep index program stopping shutdowns step = world ∨
      ∃ changed : Stopping,
        (world.stoppingStep index program stopping shutdowns step).instances =
          world.instances.set index ⟨program, some changed⟩ := by
  unfold stoppingStep
  split
  · split <;> exact .inr ⟨_, rfl⟩
  · exact .inr ⟨_, rfl⟩
  · rename_i outer
    refine .inr ⟨{ stopping with shutdowns := .removed :: outer }, ?_⟩
    dsimp only [put]
    rw [removeIfOwned_instances]
  · exact .inr ⟨_, rfl⟩
  · split
    · exact .inr ⟨_, rfl⟩
    · exact .inl rfl
  · split
    · exact .inr ⟨_, rfl⟩
    · exact .inl rfl
  · exact .inl rfl

theorem terminate_sole (hsole : world.Sole) (hsafe : world.SignalsSafely index) :
    (world.terminate index).Sole := by
  unfold terminate
  cases hcoordinator : world.instances[index]? with
  | none => exact hsole
  | some coordinator =>
      dsimp only
      by_cases hexited : coordinator.program = .exited
      · rw [if_pos hexited]
        exact hsole
      · rw [if_neg hexited]
        unfold SignalsSafely at hsafe
        rw [getD_instances hcoordinator] at hsafe
        have hshutdown : coordinator.shutdown.owns = false :=
          CoordinatorInstance.owns_of_stopping _ _
        obtain howns | hlater | hended | hunowned := hsafe
        · exact hsole.giveUp hcoordinator howns hshutdown rfl
        · exact hsole.unlinking hcoordinator hlater hshutdown rfl
        · exact absurd hended hexited
        · exact (Unowned.put hunowned hshutdown rfl).sole

theorem instanceStep_sole (hsole : world.Sole)
    (hcoordinator : world.instances[index]? = some coordinator) (step : InstanceStep)
    (halone : world.BindsAlone (.instance index step)) :
    (world.instanceStep index coordinator step).Sole := by
  cases step with
  | run step =>
      dsimp only [instanceStep]
      split
      · exact runStep_sole hsole hcoordinator step halone
      · exact hsole
  | stopping step =>
      obtain ⟨program, stopping⟩ := coordinator
      cases stopping with
      | none => exact hsole
      | some stopping =>
          obtain hsame | ⟨changed, hinstances⟩ := world.stoppingStep_instances index program
            stopping stopping.shutdowns step
          · dsimp only [instanceStep]
            rw [hsame]
            exact hsole
          · exact hsole.unlinking hcoordinator
              (CoordinatorInstance.unlinksLater_of_stopping _ _)
              (CoordinatorInstance.owns_of_stopping _ _) hinstances
  | publish expiresAt current =>
      dsimp only [instanceStep]
      split
      · exact hsole.congr rfl rfl
      · exact hsole
  | stop =>
      dsimp only [instanceStep]
      split
      · rename_i hserving
        exact hsole.stopped hcoordinator (CoordinatorInstance.owns_or_unlinksLater hserving)
          (CoordinatorInstance.owns_of_stopping _ _) rfl
      · exact hsole
  | signal => exact terminate_sole hsole halone
  | killed => exact hsole.exited rfl rfl

/-! ## Steps of a client -/

theorem clientStep_sole (hsole : world.Sole) (index : ℕ) (phase : ClientPhase)
    (step : ClientStep) (halone : world.BindsAlone (.client index step)) :
    (world.clientStep index phase step).Sole := by
  unfold clientStep
  split
  · split <;> exact hsole.congr rfl rfl
  · split <;> exact hsole.congr rfl rfl
  · split
    · exact hsole.congr rfl rfl
    · rename_i entry hentry
      have hsafe : world.SignalsSafely entry.instanceId := by
        simpa [BindsAlone, hentry] using halone
      split
      · exact hsole.congr (removeIfOwned_socket _) (removeIfOwned_instances _)
      · exact (terminate_sole hsole hsafe).congr rfl rfl
  · rename_i instanceId
    have hexited : (world.put instanceId .exited).Sole := hsole.exited rfl rfl
    exact hexited.congr (removeIfOwned_socket _) (removeIfOwned_instances _)
  · exact hsole.launch rfl rfl
  · split
    · exact hsole.congr rfl rfl
    · exact hsole
  · exact hsole

theorem step_sole (hsole : world.Sole) (event : EndpointEvent)
    (halone : world.BindsAlone event) : (world.step event).Sole := by
  cases event with
  | launch => exact hsole.launch rfl rfl
  | arrive => exact hsole.congr rfl rfl
  | «instance» index step =>
      dsimp only [EndpointWorld.step]
      cases hcoordinator : world.instances[index]? with
      | none => exact hsole
      | some coordinator => exact instanceStep_sole hsole hcoordinator step halone
  | client index step =>
      dsimp only [EndpointWorld.step]
      cases world.clients[index]? with
      | none => exact hsole
      | some phase => exact clientStep_sole hsole index phase step halone

theorem new_unowned : new.Unowned := by
  intro coordinator hmem
  cases hmem

end EndpointWorld

def comesUp (index : ℕ) : List EndpointEvent :=
  [.instance index (.run .probe), .instance index (.run .bind), .instance index (.run .listen),
    .instance index (.run .assignListener)]

def orderlyReplacement : List EndpointEvent :=
  .launch :: comesUp 0 ++
    [.instance 0 (.publish 3600 true), .instance 0 .signal, .instance 0 (.stopping .closeListener),
      .instance 0 (.stopping .unlinkListener), .instance 0 (.stopping .removeIfOwned),
      .instance 0 (.stopping .cleanupEndpoint), .instance 0 (.run .finish),
      .instance 0 (.stopping .closeListener), .instance 0 (.stopping .removeIfOwned),
      .instance 0 (.stopping .cleanupEndpoint), .instance 0 (.run .exit), .arrive,
      .client 0 .acquire, .client 0 .probeAgain, .client 0 (.replaceOrCleanup 3600),
      .client 0 .spawnCandidate] ++
    comesUp 1 ++ [.client 0 .release]

def OwnersKeepTheEndpoint : Prop :=
  ∀ events : List EndpointEvent,
    ∀ later ∈ reached EndpointWorld.step .new events, later.EndpointOwned

/-- The idle instance closes its listener and shuts its sessions down; its record
has expired, so the client which replaces it does not wait for it. -/
def lateCleanup : List EndpointEvent :=
  .launch :: comesUp 0 ++
    [.instance 0 (.publish 3600 true), .instance 0 .stop, .instance 0 (.stopping .idleClose),
      .instance 0 (.stopping .idleUnlink), .instance 0 (.run .finish),
      .instance 0 (.stopping .closeListener), .arrive, .client 0 .acquire, .client 0 .probeAgain,
      .client 0 (.replaceOrCleanup 3600), .client 0 .spawnCandidate] ++
    comesUp 1 ++
    [.instance 1 (.publish 7200 true), .client 0 .release, .instance 0 (.stopping .removeIfOwned),
      .instance 0 (.stopping .cleanupEndpoint)]

end SuitCode
