import SuitCode.LspMessages
import Mathlib.Data.Rat.Floor

/-!
# Managed sessions of the coordinator

One language server shared by the requests for an attachment: it is launched on
demand, probed by a warm-up worker, closed when it is idle and dropped after a
failure, which also puts off the next attempt.
-/

namespace SuitCode

inductive ServerFamily where
  | gopls
  | basedpyright
  | typescriptLanguageServer
  deriving DecidableEq, Repr

def ServerFamily.value : ServerFamily → String
  | .gopls => "gopls"
  | .basedpyright => "basedpyright"
  | .typescriptLanguageServer => "typescript-language-server"

inductive ManagedServerState where
  | starting
  | ready
  | warming
  | degraded
  | stopped
  deriving DecidableEq, Repr

def ManagedServerState.value : ManagedServerState → String
  | .starting => "starting"
  | .ready => "ready"
  | .warming => "warming"
  | .degraded => "degraded"
  | .stopped => "stopped"

/-- The clients of a session are numbered in the order in which they are made. -/
structure ManagedSession where
  family : ServerFamily
  attachmentRoot : String
  idleTtlSeconds : ℚ
  state : ManagedServerState
  lastActivityAt : Option ℚ
  lastFailureAt : Option ℚ
  nextRetryAt : Option ℚ
  failureCount : ℕ
  client : Option ℕ
  warmupInProgress : Bool
  warmProbeCompleted : Bool
  created : ℕ
  deriving DecidableEq, Repr

def maxRetryBackoffSeconds : ℚ := 60

def retryBackoff (failureCount : ℕ) : ℚ :=
  min maxRetryBackoffSeconds (2 ^ min failureCount 6)

namespace ManagedSession

def new (family : ServerFamily) (attachmentRoot : String) (idleTtlSeconds : ℚ) :
    ManagedSession where
  family := family
  attachmentRoot := attachmentRoot
  idleTtlSeconds := idleTtlSeconds
  state := .stopped
  lastActivityAt := none
  lastFailureAt := none
  nextRetryAt := none
  failureCount := 0
  client := none
  warmupInProgress := false
  warmProbeCompleted := false
  created := 0

/-- `_shutdown_locked`, where the client comes back from its own shutdown. -/
def shutdownLocked (session : ManagedSession) : ManagedSession :=
  { session with client := none, warmProbeCompleted := false }

def markFailure (session : ManagedSession) (now : ℚ) : ManagedSession :=
  { session with
    failureCount := session.failureCount + 1
    lastFailureAt := some now
    nextRetryAt := some (now + retryBackoff (session.failureCount + 1))
    state := .degraded }.shutdownLocked

/-- `self.next_retry_at is not None and now < self.next_retry_at`. -/
def mustWait (session : ManagedSession) (now : ℚ) : Bool :=
  match session.nextRetryAt with
  | some retryAt => now < retryAt
  | none => false

def isIdle (session : ManagedSession) (now : ℚ) : Bool :=
  match session.client, session.lastActivityAt with
  | some _, some activeAt => session.idleTtlSeconds ≤ now - activeAt
  | _, _ => false

/-! ## Warm-up requests -/

def requestWarmup (session : ManagedSession) (now : ℚ) : Bool × ManagedSession :=
  if session.client.isSome && session.warmProbeCompleted then
    (false, { session with lastActivityAt := some now, state := .ready })
  else if session.warmupInProgress then (false, session)
  else if session.mustWait now then (false, { session with state := .degraded })
  else
    (true, { session with
      warmupInProgress := true, state := .warming, lastActivityAt := some now })

def cancelWarmupRequest (session : ManagedSession) : ManagedSession :=
  if session.client.isNone && session.state = .warming then
    { session with warmupInProgress := false, state := .stopped }
  else { session with warmupInProgress := false }

/-! ## Errors -/

def retryAfterSeconds (session : ManagedSession) (now : ℚ) : ℤ :=
  match session.state, session.nextRetryAt with
  | .degraded, some retryAt => max 1 (min 60 ⌈retryAt - now⌉)
  | _, _ => 15

def notReadyMessage (session : ManagedSession) (state : ManagedServerState) (now : ℚ) :
    String :=
  session.family.value ++ " is " ++ state.value ++ " for attachment `" ++
    session.attachmentRoot ++ "`; retry after " ++ toString (session.retryAfterSeconds now) ++ "s"

def runtimeNotReadyError (session : ManagedSession) (state : ManagedServerState) (now : ℚ) :
    LspError :=
  ⟨.coordinatorRuntimeNotReadyError, session.notReadyMessage state now⟩

def requestTimeoutError (session : ManagedSession) (now : ℚ) : LspError :=
  ⟨.coordinatorRequestTimeoutError, session.notReadyMessage .degraded now⟩

/-- `_mark_failure` and the exception which is raised behind it. -/
def failWith {α : Type} (session : ManagedSession) (now : ℚ) (start finish : String)
    (error : LspError) : LspResult α × ManagedSession :=
  let failed := session.markFailure now
  if error.errorClass = .lspTimeoutError then (.error (failed.requestTimeoutError now), failed)
  else
    (.error ⟨.coordinatorUnavailableError, start ++ session.family.value ++ finish ++
      " for attachment `" ++ session.attachmentRoot ++ "`: " ++ error.message⟩, failed)

/-! ## Requests -/

/-- `_ensure_initialized`: `launched` is what resolving the command and
`initialize` come to when a client must be made. -/
def ensureInitialized (session : ManagedSession) (now : ℚ) (markWarming : Bool)
    (launched : LspResult Unit) (failedAt : ℚ) : LspResult ℕ × ManagedSession :=
  let session :=
    if session.isIdle now then { session.shutdownLocked with state := .stopped } else session
  if session.mustWait now then
    (.error (session.runtimeNotReadyError .degraded now), session)
  else
    match session.client with
    | some client =>
        (.ok client, { session with
          lastActivityAt := some now
          state := if session.warmProbeCompleted then .ready else .warming })
    | none =>
        let session := { session with state := if markWarming then .warming else .starting }
        match launched with
        | .error error => session.failWith failedAt "failed to start " "" error
        | .ok () =>
            (.ok session.created, { session with
              client := some session.created
              created := session.created + 1
              failureCount := 0
              nextRetryAt := none
              lastFailureAt := none
              lastActivityAt := some now
              warmProbeCompleted := false
              state := .warming })

/-- `_invoke`: `operation` is what the operation comes to on the client that is held. -/
def invoke {α : Type} (session : ManagedSession) (now : ℚ) (launched : LspResult Unit)
    (operation : LspResult α) (finishedAt : ℚ) : LspResult α × ManagedSession :=
  match session.ensureInitialized now false launched finishedAt with
  | (.error error, session) => (.error error, session)
  | (.ok _, session) =>
      if session.warmProbeCompleted then
        match operation with
        | .error error => session.failWith finishedAt "" " request failed" error
        | .ok result =>
            (.ok result, { session with lastActivityAt := some finishedAt, state := .ready })
      else
        let session := { session with state := .warming }
        (.error (session.runtimeNotReadyError .warming now), session)

/-! ## The warm probe -/

def runProbeOperation {α : Type} (session : ManagedSession) (operation : LspResult α)
    (finishedAt : ℚ) : LspResult α × ManagedSession :=
  let session := { session with state := .warming }
  match operation with
  | .error error => session.failWith finishedAt "" " warm-up probe failed" error
  | .ok result => (.ok result, { session with lastActivityAt := some finishedAt })

def markProbeComplete (session : ManagedSession) (now : ℚ) : ManagedSession :=
  { session with warmProbeCompleted := true, lastActivityAt := some now, state := .ready }

/-! ## Closing -/

def closeIfIdle (session : ManagedSession) (now : ℚ) : ManagedSession :=
  if session.isIdle now then { session.shutdownLocked with state := .stopped } else session

def shutdown (session : ManagedSession) : ManagedSession :=
  { session.shutdownLocked with state := .stopped }

end ManagedSession

end SuitCode
