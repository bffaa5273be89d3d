import SuitCode.LspReader
import SuitCode.Library.Runs

/-!
# Operations of a client and the end of its reader

No operation has a deadline.  An operation which asks the server waits at the
queue; the reader puts finitely many items and then its failure, which one
request takes.  A later request finds the queue empty and waits for ever.  A
reader which waits for the end of a pipe puts no failure at all, and a message
which the server never takes is waited for at the pipe.
-/

namespace SuitCode

open PosixText Runs

/-! ## Operations -/

inductive PipeWrite where
  | taken
  /-- The server has closed its end. -/
  | refused
  /-- The pipe is full, and the server reads no more. -/
  | full
  deriving DecidableEq

/-- What a client does around one request for an open document: the text it
reads and what becomes of its three messages. -/
structure DocumentExchange where
  text : LspResult String
  opened : PipeWrite
  sent : PipeWrite
  closed : PipeWrite

inductive LspOperation where
  /-- `initialize`: the output of a process it starts, whether an earlier
  reader is still alive, and what becomes of its messages. -/
  | start (launched : Option ServerOutput) (readerAlive : Bool) (sent notified : PipeWrite)
  | workspaceSymbol (sent : PipeWrite)
  | documentSymbol (exchange : DocumentExchange)
  | definition (line column : ℤ) (exchange : DocumentExchange)
  | references (line column : ℤ) (exchange : DocumentExchange)
  | implementation (line column : ℤ) (exchange : DocumentExchange)
  | shutdown (sent exited : PipeWrite)

/-- The payload which an operation returns or the exception it raises, and
`none` where it never comes back. -/
abbrev Outcome := Option (LspResult LspValue)

structure LspSession where
  command : List String
  nextRequestId : ℕ
  initialized : Bool
  running : Bool
  /-- What the reader puts until it stops or waits for ever. -/
  queue : List QueueItem
  /-- The reader comes to its end. -/
  stops : Bool
  /-- What the server has written behind the place where the reader stops. -/
  unread : ServerOutput
  waiting : Bool

/-- `_lsp_position`. -/
def checkPosition (line column : ℤ) : LspResult Unit :=
  if line < 1 ∨ column < 1 then
    .error ⟨.valueError, "line and column must be >= 1"⟩
  else .ok ()

namespace LspSession

def new (command : List String) : LspSession :=
  ⟨command, 1, false, false, [], true, ⟨[], true⟩, false⟩

/-- `_write_message`, which does not come back from a full pipe. -/
def writeMessage (session : LspSession) (write : PipeWrite) : Option (LspResult Unit) :=
  if session.running then
    match write with
    | .taken => some (.ok ())
    | .refused => some (.error ⟨.osError, "[Errno 32] Broken pipe"⟩)
    | .full => none
  else some (.error ⟨.lspProcessError, "language server process has not been started"⟩)

def countRequest (session : LspSession) : LspSession :=
  { session with nextRequestId := session.nextRequestId + 1 }

def request (session : LspSession) (method : String) (sent : PipeWrite) :
    Outcome × LspSession :=
  match session.writeMessage sent with
  | none => (none, session.countRequest)
  | some (.error error) => (some (.error error), session.countRequest)
  | some (.ok ()) =>
      match awaitAnswer session.nextRequestId method session.queue with
      | none => (none, { session.countRequest with queue := [] })
      | some (result, queue) => (some result, { session.countRequest with queue := queue })

/-- `_request_for_open_document`; the closing notification is written in any case. -/
def requestForOpenDocument (session : LspSession) (method : String)
    (exchange : DocumentExchange) : Outcome × LspSession :=
  match exchange.text with
  | .error error => (some (.error error), session)
  | .ok _ =>
      match session.writeMessage exchange.opened with
      | none => (none, session)
      | some (.error error) => (some (.error error), session)
      | some (.ok ()) =>
          match session.request method exchange.sent with
          | (none, later) => (none, later)
          | (some result, later) =>
              match later.writeMessage exchange.closed with
              | none => (none, later)
              | some (.error error) => (some (.error error), later)
              | some (.ok ()) => (some result, later)

def requestAtPosition (session : LspSession) (method : String) (line column : ℤ)
    (exchange : DocumentExchange) : Outcome × LspSession :=
  match checkPosition line column with
  | .error error => (some (.error error), session)
  | .ok () => session.requestForOpenDocument method exchange

def stopProcess (session : LspSession) : LspSession := { session with running := false }

section Reader

variable (decodeBody : List UInt8 → LspResult LspValue)

def startReader (session : LspSession) (output : ServerOutput) : LspSession :=
  { session with
    queue := readerItems decodeBody output
    stops := readerStops decodeBody output
    unread := unreadOutput decodeBody output }

/-- `start` of the process and `_ensure_reader_started`; a reader which does not stop is alive. -/
def ensureStarted (session : LspSession) (launched : Option ServerOutput)
    (readerAlive : Bool) : LspResult LspSession :=
  if session.running then
    if readerAlive || !session.stops then .ok session
    else .ok (session.startReader decodeBody session.unread)
  else
    match launched with
    | none =>
        .error ⟨.lspProcessError,
          "failed to start language server: " ++ join " " session.command⟩
    | some output => .ok { session.startReader decodeBody output with running := true }

/-- `initialize`. -/
def initializeSession (session : LspSession) (launched : Option ServerOutput)
    (readerAlive : Bool) (sent notified : PipeWrite) : Outcome × LspSession :=
  if session.initialized then (some (.ok .null), session)
  else
    match session.ensureStarted decodeBody launched readerAlive with
    | .error error => (some (.error error), session)
    | .ok started =>
        match started.request "initialize" sent with
        | (none, later) => (none, later)
        | (some (.error error), later) => (some (.error error), later)
        | (some (.ok _), later) =>
            match later.writeMessage notified with
            | none => (none, later)
            | some (.error error) => (some (.error error), later)
            | some (.ok ()) => (some (.ok .null), { later with initialized := true })

/-- `shutdown`; the process is stopped in any case. -/
def shutdown (session : LspSession) (sent exited : PipeWrite) : Outcome × LspSession :=
  if session.initialized then
    match session.request "shutdown" sent with
    | (none, later) => (none, later)
    | (some (.error error), later) =>
        (some (.error error), { later.stopProcess with initialized := false })
    | (some (.ok _), later) =>
        match later.writeMessage exited with
        | none => (none, later)
        | some (.error error) =>
            (some (.error error), { later.stopProcess with initialized := false })
        | some (.ok ()) => (some (.ok .null), { later.stopProcess with initialized := false })
  else (some (.ok .null), session.stopProcess)

def perform (session : LspSession) : LspOperation → Outcome × LspSession
  | .start launched readerAlive sent notified =>
      session.initializeSession decodeBody launched readerAlive sent notified
  | .workspaceSymbol sent => session.request "workspace/symbol" sent
  | .documentSymbol exchange =>
      session.requestForOpenDocument "textDocument/documentSymbol" exchange
  | .definition line column exchange =>
      session.requestAtPosition "textDocument/definition" line column exchange
  | .references line column exchange =>
      session.requestAtPosition "textDocument/references" line column exchange
  | .implementation line column exchange =>
      session.requestAtPosition "textDocument/implementation" line column exchange
  | .shutdown sent exited => session.shutdown sent exited

/-- One operation; behind an operation which waits for ever nothing happens. -/
def step (session : LspSession) (operation : LspOperation) : LspSession :=
  if session.waiting then session
  else
    { (session.perform decodeBody operation).2 with
      waiting := (session.perform decodeBody operation).1.isNone }

end Reader

/-! ## What an operation finds in the queue -/

def EndsInFailure (queue : List QueueItem) : Prop :=
  queue = [] ∨ ∃ items error, queue = items ++ [.failed error]

/-- A request finds the failure of the reader, which no earlier request took, or, of a reader
which does not stop, an answer. -/
def FindsAnswer (session : LspSession) (method : String) : Prop :=
  (∃ error, .failed error ∈ session.queue) ∨
    session.stops = false ∧
      ∃ item ∈ session.queue, answer session.nextRequestId method item ≠ none

/-- A request of a running process does not come back: its message is not taken, or it finds
no answer. -/
def Stuck (session : LspSession) (method : String) (sent : PipeWrite) : Prop :=
  sent = .full ∨ sent = .taken ∧ ¬ session.FindsAnswer method

def Succeeds (session : LspSession) (method : String) (sent : PipeWrite) : Prop :=
  sent = .taken ∧
    ∃ value queue, awaitAnswer session.nextRequestId method session.queue =
      some (.ok value, queue)

def StuckInExchange (session : LspSession) (method : String) (exchange : DocumentExchange) :
    Prop :=
  (∃ text, exchange.text = .ok text) ∧
    (exchange.opened = .full ∨
      exchange.opened = .taken ∧
        (session.Stuck method exchange.sent ∨ exchange.closed = .full))

section Reader

variable (decodeBody : List UInt8 → LspResult LspValue)

/-- The operation comes to a request which is stuck, or writes another message to a full pipe. -/
def Hangs (session : LspSession) : LspOperation → Prop
  | .start launched readerAlive sent notified =>
      session.initialized = false ∧
        ∃ started, session.ensureStarted decodeBody launched readerAlive = .ok started ∧
          (started.Stuck "initialize" sent ∨
            started.Succeeds "initialize" sent ∧ notified = .full)
  | .workspaceSymbol sent => session.running = true ∧ session.Stuck "workspace/symbol" sent
  | .documentSymbol exchange =>
      session.running = true ∧ session.StuckInExchange "textDocument/documentSymbol" exchange
  | .definition line column exchange =>
      (1 ≤ line ∧ 1 ≤ column) ∧ session.running = true ∧
        session.StuckInExchange "textDocument/definition" exchange
  | .references line column exchange =>
      (1 ≤ line ∧ 1 ≤ column) ∧ session.running = true ∧
        session.StuckInExchange "textDocument/references" exchange
  | .implementation line column exchange =>
      (1 ≤ line ∧ 1 ≤ column) ∧ session.running = true ∧
        session.StuckInExchange "textDocument/implementation" exchange
  | .shutdown sent exited =>
      session.initialized = true ∧ session.running = true ∧
        (session.Stuck "shutdown" sent ∨ session.Succeeds "shutdown" sent ∧ exited = .full)

end Reader

/-- A reader which stops leaves its failure at the end of the queue until it is taken. -/
def Reported (session : LspSession) : Prop :=
  session.stops = true → EndsInFailure session.queue

def Uses (session later : LspSession) : Prop :=
  later.stops = session.stops ∧ later.queue <:+ session.queue

theorem Uses.refl (session : LspSession) : session.Uses session :=
  ⟨rfl, List.suffix_rfl⟩

theorem Uses.reported {session later : LspSession} (huses : session.Uses later)
    (hreported : session.Reported) : later.Reported := by
  intro hstops
  rw [huses.1] at hstops
  obtain hempty | ⟨items, error, heq⟩ := hreported hstops
  · have hsuffix := huses.2
    rw [hempty, List.suffix_nil] at hsuffix
    exact .inl hsuffix
  · have hsuffix := huses.2
    rw [heq, List.suffix_concat_iff] at hsuffix
    obtain hnil | ⟨rest, hrest, -⟩ := hsuffix
    · exact .inl hnil
    · exact .inr ⟨rest, error, hrest⟩

theorem reported_startReader (decodeBody : List UInt8 → LspResult LspValue)
    (session : LspSession) (output : ServerOutput) :
    (session.startReader decodeBody output).Reported := by
  intro hstops
  simp only [startReader, readerStops, Option.isSome_iff_exists] at hstops
  obtain ⟨error, herror⟩ := hstops
  right
  simp only [startReader, readerItems, herror, Option.toList_some, List.map_cons, List.map_nil]
  exact ⟨_, error, rfl⟩

theorem awaitAnswer_eq_none_iff {requestId : ℕ} {method : String} {queue : List QueueItem} :
    awaitAnswer requestId method queue = none ↔
      ∀ item ∈ queue, answer requestId method item = none := by
  induction queue with
  | nil => simp [awaitAnswer]
  | cons item items ih =>
      rw [awaitAnswer, List.forall_mem_cons]
      cases answer requestId method item with
      | none => simp [ih]
      | some result => simp

theorem awaitAnswer_suffix {requestId : ℕ} {method : String} {queue rest : List QueueItem}
    {result : LspResult LspValue}
    (hawait : awaitAnswer requestId method queue = some (result, rest)) : rest <:+ queue := by
  induction queue with
  | nil => cases hawait
  | cons item items ih =>
      rw [awaitAnswer] at hawait
      cases hanswer : answer requestId method item with
      | none =>
          rw [hanswer] at hawait
          exact (ih hawait).trans (List.suffix_cons item items)
      | some found =>
          rw [hanswer] at hawait
          cases hawait
          exact List.suffix_cons item _

theorem awaitAnswer_eq_none_iff_not_findsAnswer {session : LspSession} (method : String)
    (hreported : session.Reported) :
    awaitAnswer session.nextRequestId method session.queue = none ↔
      ¬ session.FindsAnswer method := by
  rw [awaitAnswer_eq_none_iff]
  constructor
  · rintro hnone (⟨error, hmem⟩ | ⟨-, item, hmem, hanswer⟩)
    · have hfailed := hnone _ hmem
      cases hfailed
    · exact hanswer (hnone item hmem)
  · intro hfinds item hmem
    by_contra hanswer
    apply hfinds
    cases hstops : session.stops with
    | false => exact .inr ⟨hstops, item, hmem, hanswer⟩
    | true =>
        obtain hempty | ⟨items, error, heq⟩ := hreported hstops
        · rw [hempty] at hmem
          cases hmem
        · exact .inl ⟨error, by simp [heq]⟩

/-! ## Requests -/

section Requests

variable {session : LspSession}

theorem request_uses (session : LspSession) (method : String) (sent : PipeWrite) :
    session.Uses (session.request method sent).2 := by
  unfold request
  cases session.writeMessage sent with
  | none => exact ⟨rfl, List.suffix_rfl⟩
  | some written =>
      cases written with
      | error error => exact ⟨rfl, List.suffix_rfl⟩
      | ok written =>
          dsimp only
          cases hawait : awaitAnswer session.nextRequestId method session.queue with
          | none => exact ⟨rfl, List.nil_suffix⟩
          | some found => exact ⟨rfl, awaitAnswer_suffix hawait⟩

theorem request_running (session : LspSession) (method : String) (sent : PipeWrite) :
    (session.request method sent).2.running = session.running := by
  unfold request
  cases session.writeMessage sent with
  | none => rfl
  | some written =>
      cases written with
      | error error => rfl
      | ok written =>
          dsimp only
          cases awaitAnswer session.nextRequestId method session.queue <;> rfl

theorem request_eq_none_iff (method : String) (sent : PipeWrite)
    (hreported : session.Reported) :
    (session.request method sent).1 = none ↔
      session.running = true ∧ session.Stuck method sent := by
  have hawait := awaitAnswer_eq_none_iff_not_findsAnswer method hreported
  unfold request writeMessage Stuck
  cases session.running with
  | false => simp
  | true =>
      cases sent with
      | refused => simp
      | full => simp
      | taken =>
          simp only [if_true, reduceCtorEq, false_or, true_and]
          rw [← hawait]
          cases awaitAnswer session.nextRequestId method session.queue <;> simp

theorem request_succeeds_iff (session : LspSession) (method : String) (sent : PipeWrite) :
    (∃ value, (session.request method sent).1 = some (.ok value)) ↔
      session.running = true ∧ session.Succeeds method sent := by
  unfold request writeMessage Succeeds
  cases session.running with
  | false => simp
  | true =>
      cases sent with
      | refused => simp
      | full => simp
      | taken =>
          simp only [if_true, true_and]
          cases awaitAnswer session.nextRequestId method session.queue with
          | none => simp
          | some found => simp [Prod.ext_iff]

theorem requestForOpenDocument_eq_none_iff (method : String) (exchange : DocumentExchange)
    (hreported : session.Reported) :
    (session.requestForOpenDocument method exchange).1 = none ↔
      session.running = true ∧ session.StuckInExchange method exchange := by
  have hrequest := request_eq_none_iff method exchange.sent hreported
  have hlater := request_running session method exchange.sent
  unfold requestForOpenDocument StuckInExchange
  cases exchange.text with
  | error error => simp
  | ok text =>
      cases hrunning : session.running with
      | false => simp [writeMessage, hrunning]
      | true =>
          rw [hrunning] at hrequest hlater
          cases exchange.opened with
          | refused => simp [writeMessage, hrunning]
          | full => simp [writeMessage, hrunning]
          | taken =>
              simp only [writeMessage, hrunning, if_true]
              cases hcase : session.request method exchange.sent with
              | mk outcome later =>
                  rw [hcase] at hrequest hlater
                  cases outcome with
                  | none => simp_all
                  | some result =>
                      have hnot : ¬ session.Stuck method exchange.sent := by
                        simpa using hrequest
                      dsimp only at hlater
                      cases exchange.closed <;> simp [hlater, hnot]

theorem requestForOpenDocument_uses (session : LspSession) (method : String)
    (exchange : DocumentExchange) :
    session.Uses (session.requestForOpenDocument method exchange).2 := by
  have hrequest := request_uses session method exchange.sent
  unfold requestForOpenDocument
  cases exchange.text with
  | error error => exact .refl session
  | ok text =>
      cases session.writeMessage exchange.opened with
      | none => exact .refl session
      | some written =>
          cases written with
          | error error => exact .refl session
          | ok written =>
              dsimp only
              cases hcase : session.request method exchange.sent with
              | mk outcome later =>
                  rw [hcase] at hrequest
                  cases outcome with
                  | none => exact hrequest
                  | some result =>
                      dsimp only
                      cases later.writeMessage exchange.closed with
                      | none => exact hrequest
                      | some closed => cases closed <;> exact hrequest

theorem requestAtPosition_eq_none_iff (method : String) (line column : ℤ)
    (exchange : DocumentExchange) (hreported : session.Reported) :
    (session.requestAtPosition method line column exchange).1 = none ↔
      (1 ≤ line ∧ 1 ≤ column) ∧ session.running = true ∧
        session.StuckInExchange method exchange := by
  have hdocument := requestForOpenDocument_eq_none_iff method exchange hreported
  unfold requestAtPosition checkPosition
  by_cases hposition : line < 1 ∨ column < 1
  · rw [if_pos hposition]
    simp only [reduceCtorEq, false_iff]
    omega
  · rw [if_neg hposition]
    have hbounds : 1 ≤ line ∧ 1 ≤ column := by omega
    simp only [hdocument, hbounds, and_self, true_and]

theorem requestAtPosition_uses (session : LspSession) (method : String) (line column : ℤ)
    (exchange : DocumentExchange) :
    session.Uses (session.requestAtPosition method line column exchange).2 := by
  unfold requestAtPosition
  cases checkPosition line column with
  | error error => exact .refl session
  | ok written => exact requestForOpenDocument_uses session method exchange

end Requests

/-! ## Start and shutdown -/

section Reader

variable (decodeBody : List UInt8 → LspResult LspValue) {session started : LspSession}

theorem ensureStarted_facts {launched : Option ServerOutput} {readerAlive : Bool}
    (hreported : session.Reported)
    (hstart : session.ensureStarted decodeBody launched readerAlive = .ok started) :
    started.running = true ∧ started.Reported := by
  unfold ensureStarted at hstart
  split at hstart
  · rename_i hrunning
    split at hstart
    · cases hstart
      exact ⟨hrunning, hreported⟩
    · cases hstart
      exact ⟨hrunning, reported_startReader decodeBody session session.unread⟩
  · split at hstart
    · cases hstart
    · rename_i output
      cases hstart
      exact ⟨rfl, reported_startReader decodeBody session output⟩

theorem initializeSession_eq_none_iff (launched : Option ServerOutput) (readerAlive : Bool)
    (sent notified : PipeWrite) (hreported : session.Reported) :
    (session.initializeSession decodeBody launched readerAlive sent notified).1 = none ↔
      session.Hangs decodeBody (.start launched readerAlive sent notified) := by
  unfold initializeSession Hangs
  cases session.initialized with
  | true => simp
  | false =>
      simp only [Bool.false_eq_true, if_false, true_and]
      cases hstart : session.ensureStarted decodeBody launched readerAlive with
      | error error => simp
      | ok started =>
          obtain ⟨hrunning, hstarted⟩ := ensureStarted_facts decodeBody hreported hstart
          have hrequest := request_eq_none_iff "initialize" sent hstarted
          have hsucceeds := request_succeeds_iff started "initialize" sent
          have hlater := request_running started "initialize" sent
          simp only [hrunning, true_and] at hrequest hsucceeds hlater
          simp only [Except.ok.injEq, exists_eq_left']
          rw [← hrequest, ← hsucceeds]
          cases hcase : started.request "initialize" sent with
          | mk outcome later =>
              rw [hcase] at hlater
              dsimp only at hlater
              cases outcome with
              | none => simp
              | some result =>
                  cases result with
                  | error error => simp
                  | ok payload => cases notified <;> simp [writeMessage, hlater]

theorem initializeSession_reported (launched : Option ServerOutput) (readerAlive : Bool)
    (sent notified : PipeWrite) (hreported : session.Reported) :
    (session.initializeSession decodeBody launched readerAlive sent notified).2.Reported := by
  unfold initializeSession
  split
  · exact hreported
  · cases hstart : session.ensureStarted decodeBody launched readerAlive with
    | error error => exact hreported
    | ok started =>
        have hstarted := (ensureStarted_facts decodeBody hreported hstart).2
        have hrequest := (request_uses started "initialize" sent).reported hstarted
        dsimp only
        cases hcase : started.request "initialize" sent with
        | mk outcome later =>
            rw [hcase] at hrequest
            cases outcome with
            | none => exact hrequest
            | some result =>
                cases result with
                | error error => exact hrequest
                | ok payload =>
                    dsimp only
                    cases later.writeMessage notified with
                    | none => exact hrequest
                    | some written => cases written <;> exact hrequest

theorem shutdown_eq_none_iff (sent exited : PipeWrite) (hreported : session.Reported) :
    (session.shutdown sent exited).1 = none ↔
      session.Hangs decodeBody (.shutdown sent exited) := by
  have hrequest := request_eq_none_iff "shutdown" sent hreported
  have hsucceeds := request_succeeds_iff session "shutdown" sent
  have hlater := request_running session "shutdown" sent
  unfold shutdown Hangs
  cases session.initialized with
  | false => simp
  | true =>
      simp only [if_true, true_and]
      rw [and_or_left, ← and_assoc, ← hrequest, ← hsucceeds]
      cases hcase : session.request "shutdown" sent with
      | mk outcome later =>
          rw [hcase] at hlater hsucceeds
          dsimp only at hlater
          cases outcome with
          | none => simp
          | some result =>
              cases result with
              | error error => simp
              | ok payload =>
                  have hrunning := (hsucceeds.mp ⟨payload, rfl⟩).1
                  cases exited <;> simp [writeMessage, hlater, hrunning]

theorem shutdown_uses (session : LspSession) (sent exited : PipeWrite) :
    session.Uses (session.shutdown sent exited).2 := by
  have hrequest := request_uses session "shutdown" sent
  unfold shutdown
  split
  · cases hcase : session.request "shutdown" sent with
    | mk outcome later =>
        rw [hcase] at hrequest
        cases outcome with
        | none => exact hrequest
        | some result =>
            cases result with
            | error error => exact hrequest
            | ok payload =>
                dsimp only
                cases later.writeMessage exited with
                | none => exact hrequest
                | some written => cases written <;> exact hrequest
  · exact .refl session

/-! ## One operation -/

theorem perform_eq_none_iff (operation : LspOperation) (hreported : session.Reported) :
    (session.perform decodeBody operation).1 = none ↔ session.Hangs decodeBody operation := by
  cases operation with
  | start launched readerAlive sent notified =>
      exact initializeSession_eq_none_iff decodeBody launched readerAlive sent notified hreported
  | workspaceSymbol sent => exact request_eq_none_iff _ sent hreported
  | documentSymbol exchange => exact requestForOpenDocument_eq_none_iff _ exchange hreported
  | definition line column exchange =>
      exact requestAtPosition_eq_none_iff _ line column exchange hreported
  | references line column exchange =>
      exact requestAtPosition_eq_none_iff _ line column exchange hreported
  | implementation line column exchange =>
      exact requestAtPosition_eq_none_iff _ line column exchange hreported
  | shutdown sent exited => exact shutdown_eq_none_iff decodeBody sent exited hreported

theorem perform_reported (operation : LspOperation) (hreported : session.Reported) :
    (session.perform decodeBody operation).2.Reported := by
  cases operation with
  | start launched readerAlive sent notified =>
      exact initializeSession_reported decodeBody launched readerAlive sent notified hreported
  | workspaceSymbol sent => exact (request_uses session _ sent).reported hreported
  | documentSymbol exchange =>
      exact (requestForOpenDocument_uses session _ exchange).reported hreported
  | definition line column exchange =>
      exact (requestAtPosition_uses session _ line column exchange).reported hreported
  | references line column exchange =>
      exact (requestAtPosition_uses session _ line column exchange).reported hreported
  | implementation line column exchange =>
      exact (requestAtPosition_uses session _ line column exchange).reported hreported
  | shutdown sent exited => exact (shutdown_uses session sent exited).reported hreported

structure Live (session : LspSession) : Prop where
  returned : session.waiting = false
  reported : session.Reported

theorem step_returned_iff (operation : LspOperation) (hlive : session.Live) :
    (session.step decodeBody operation).waiting = false ↔
      ¬ session.Hangs decodeBody operation := by
  have hnone := perform_eq_none_iff decodeBody operation hlive.reported
  unfold step
  rw [hlive.returned, ← hnone, ← ne_eq, Option.ne_none_iff_isSome]
  simp

theorem live_step (operation : LspOperation) (hlive : session.Live)
    (hreturned : (session.step decodeBody operation).waiting = false) :
    (session.step decodeBody operation).Live := by
  refine ⟨hreturned, ?_⟩
  unfold step
  rw [hlive.returned]
  exact perform_reported decodeBody operation hlive.reported

theorem new_live (command : List String) : (new command).Live :=
  ⟨rfl, fun _ => .inl rfl⟩

end Reader

end LspSession

/-- Over whole runs: every operation comes back exactly when none writes to a full pipe, and
every request finds the failure of the reader in the queue, or, of a reader which waits for the
end of a pipe the server keeps open, an answer. -/
theorem operations_return_iff (decodeBody : List UInt8 → LspResult LspValue)
    (command : List String) (operations : List LspOperation) :
    (∀ later ∈ reached (LspSession.step decodeBody) (.new command) operations,
        later.waiting = false) ↔
      EveryStep (LspSession.step decodeBody)
        (fun session operation => ¬ session.Hangs decodeBody operation) (.new command)
        operations := by
  have hassumed : EveryStep (LspSession.step decodeBody) (fun _ _ => True) (.new command)
      operations := EveryStep.of_forall (fun _ _ => trivial) _ _
  refine forall_reached_iff LspSession.Live ?_ ?_ (LspSession.new_live command) hassumed
  · intro session operation hlive _
    exact LspSession.step_returned_iff decodeBody operation hlive
  · intro session operation hlive _ hreturned
    exact LspSession.live_step decodeBody operation hlive hreturned

/-! ## A request behind the failure of the reader -/

def OperationsReturn : Prop :=
  ∀ (decodeBody : List UInt8 → LspResult LspValue) (command : List String)
    (operations : List LspOperation),
    ∀ later ∈ reached (LspSession.step decodeBody) (.new command) operations,
      later.waiting = false

def responseBody : List UInt8 := asciiBytes "\x7b\"id\":1\x7d"

/-- The answer to `initialize`, and a message without a length. -/
def stalledOutput : List UInt8 :=
  asciiBytes "Content-Length: 8\r\n\r\n" ++ responseBody ++ asciiBytes "\r\n"

def decodeResponse (body : List UInt8) : LspResult LspValue :=
  if body = responseBody then .ok (.obj [("id", .int 1)])
  else .error ⟨.jsonDecodeError, "Expecting value: line 1 column 1 (char 0)"⟩

theorem readMessage_stalledOutput :
    readMessage decodeResponse stalledOutput =
      (.ok (.obj [("id", .int 1)]), asciiBytes "\r\n") := by
  have hheaders : readHeaders none stalledOutput =
      (.ok (some 8), responseBody ++ asciiBytes "\r\n") := by
    have hheader : readHeader none (readLine stalledOutput).1 = .ok (some 8) := by rfl
    rw [readHeaders, dif_neg (by decide), if_neg (by decide), hheader]
    dsimp only
    rw [readHeaders, dif_neg (by decide), if_pos (by decide)]
    rfl
  rw [readMessage, hheaders]
  rfl

def stalledServer : ServerOutput := ⟨stalledOutput, false⟩

theorem readerItems_stalledServer :
    ∃ error, readerItems decodeResponse stalledServer =
        [.payload (.obj [("id", .int 1)]), .failed error] ∧
      readerStops decodeResponse stalledServer = true := by
  let reader := messageReader decodeResponse false
  let failure : LspError :=
    ⟨.lspProtocolError, "language server response is missing Content-Length header"⟩
  have hlast : readMessage decodeResponse (asciiBytes "\r\n") = (.error failure, []) := by
    have hheaders : readHeaders none (asciiBytes "\r\n") = (.ok none, []) := by
      rw [readHeaders, dif_neg (by decide), if_pos (by decide)]
      rfl
    rw [readMessage, hheaders]
    rfl
  have hwhole : readsToEnd none (asciiBytes "\r\n") = false := by
    rw [readsToEnd, dif_neg (by decide), if_pos (by decide)]
  have hend : reader.read (asciiBytes "\r\n") = (.error (some failure), []) := by
    simp only [reader, messageReader, hlast, hwhole]
    rfl
  have hstart : reader.read stalledServer.bytes =
      (.ok (.obj [("id", .int 1)]), asciiBytes "\r\n") := by
    simp only [reader, messageReader, stalledServer, readMessage_stalledOutput]
    rfl
  have hdrained : reader.drain stalledServer.bytes =
      ⟨[.obj [("id", .int 1)]], some failure, []⟩ := by
    rw [Drain.Reader.drain_of_ok hstart, Drain.Reader.drain_of_error hend]
  have hserver : messageReader decodeResponse stalledServer.closed = reader := rfl
  refine ⟨failure, ?_, ?_⟩
  · rw [readerItems, hserver, hdrained]
    rfl
  · rw [readerStops, hserver, hdrained]
    rfl

def stalledRun : List LspOperation :=
  [.start (some stalledServer) true .taken .taken,
    .documentSymbol ⟨.ok "package main\n", .taken, .taken, .taken⟩, .shutdown .taken .taken]

/-- A shutdown waits for a reader which has failed. -/
theorem shutdown_waits_behind_readerFailure : ¬ OperationsReturn := by
  intro hall
  obtain ⟨error, hitems, hstops⟩ := readerItems_stalledServer
  let step := LspSession.step decodeResponse
  let started : LspSession :=
    ⟨["gopls"], 2, true, true, [.failed error], true,
      unreadOutput decodeResponse stalledServer, false⟩
  have hstarted : step (.new ["gopls"]) (.start (some stalledServer) true .taken .taken) =
      started := by
    simp only [step, started, LspSession.step, LspSession.new, LspSession.perform,
      LspSession.initializeSession, LspSession.ensureStarted, LspSession.startReader, hitems,
      hstops]
    rfl
  have hasked : step started (.documentSymbol ⟨.ok "package main\n", .taken, .taken, .taken⟩) =
      { started with nextRequestId := 3, queue := [] } := rfl
  have hwaits : (step { started with nextRequestId := 3, queue := [] }
      (.shutdown .taken .taken)).waiting = true := rfl
  have hreturned := hall decodeResponse ["gopls"] stalledRun
    (step { started with nextRequestId := 3, queue := [] } (.shutdown .taken .taken)) (by
      rw [← hasked, ← hstarted]
      simp [step, stalledRun, reached])
  rw [hwaits] at hreturned
  cases hreturned

end SuitCode
