import SuitCode.LspMessages
import SuitCode.Library.Runs

/-!
# Requests and the answers they take

The client and the reader thread share one queue.  A run interleaves what the
reader puts with the requests of the client, what they take from the queue and
the deadlines which pass.  A request takes the first object with its own id,
also where the object is a request of the server.
-/

namespace SuitCode

open Runs

/-! ## The client -/

structure AnsweredRequest where
  requestId : ℕ
  method : String
  item : QueueItem
  outcome : LspResult LspValue

structure LspClient where
  nextRequestId : ℕ
  requestTimeoutSeconds : Option ℚ
  queue : List QueueItem
  pending : Option (ℕ × String)
  /-- Everything the reader thread has put into a queue. -/
  received : List QueueItem
  answered : List AnsweredRequest
  timedOut : List LspError

namespace LspClient

def new (requestTimeoutSeconds : Option ℚ) : LspClient :=
  ⟨1, requestTimeoutSeconds, [], none, [], [], []⟩

/-- `f"{seconds:.0f}"`: the nearest integer, the even one of two. -/
def formatSeconds (seconds : ℚ) : String :=
  let below := seconds.floor
  let rest := seconds - below
  if rest < 1 / 2 then toString below
  else if 1 / 2 < rest then toString (below + 1)
  else if below % 2 = 0 then toString below
  else toString (below + 1)

def timeoutError (seconds : ℚ) (method : String) : LspError :=
  ⟨.lspTimeoutError, "language server timed out waiting for `" ++ method ++ "` after " ++
    formatSeconds seconds ++ "s"⟩

inductive Event where
  /-- The reader thread puts an item into the queue. -/
  | put (item : QueueItem)
  /-- `_request` writes its message and begins to wait. -/
  | request (method : String)
  /-- `_request` takes an id and raises while it writes its message. -/
  | unsent
  /-- `get` returns an item to the waiting request. -/
  | get
  /-- The deadline of the waiting request passes. -/
  | expire
  /-- A new reader thread starts with a new queue. -/
  | startReader

/-- `get` hands an item to the waiting request. -/
def take (client : LspClient) (requestId : ℕ) (method : String) (item : QueueItem)
    (queue : List QueueItem) : LspClient :=
  match answer requestId method item with
  | none => { client with queue := queue }
  | some outcome =>
      { client with
        queue := queue
        pending := none
        answered := client.answered ++ [⟨requestId, method, item, outcome⟩] }

def step (client : LspClient) : Event → LspClient
  | .put item =>
      { client with queue := client.queue ++ [item], received := client.received ++ [item] }
  | .request method =>
      match client.pending with
      | some _ => client
      | none =>
          { client with
            nextRequestId := client.nextRequestId + 1
            pending := some (client.nextRequestId, method) }
  | .unsent =>
      match client.pending with
      | some _ => client
      | none => { client with nextRequestId := client.nextRequestId + 1 }
  | .get =>
      match client.pending, client.queue with
      | some (requestId, method), item :: queue => client.take requestId method item queue
      | _, _ => client
  | .expire =>
      match client.pending, client.requestTimeoutSeconds with
      | some (_, method), some seconds =>
          { client with
            pending := none
            timedOut := client.timedOut ++ [timeoutError seconds method] }
      | _, _ => client
  | .startReader => { client with queue := [] }

end LspClient

/-! ## Matching -/

/-- The request was answered by its own response, and a returned value is the
`result` of this response. -/
structure AnsweredRequest.Matched (request : AnsweredRequest) : Prop where
  result : ∀ value, request.outcome = .ok value → ∃ members,
    request.item = .payload (.obj members) ∧ IsResponse request.requestId members ∧
      value = resultOf members
  response : ∀ members, request.item = .payload (.obj members) → ¬ HasMethod members

variable {client : LspClient} {item : QueueItem} {method : String} {requestId : ℕ}

namespace LspClient

/-- Every answered request was answered by its response, which the server has sent. -/
def AnswersMatched (client : LspClient) : Prop :=
  ∀ request ∈ client.answered, request.Matched ∧ request.item ∈ client.received

structure Good (client : LspClient) : Prop where
  matched : client.AnswersMatched
  queue : client.queue ⊆ client.received

/-- The waiting request is not handed a request of the server with its own id. -/
def TakesNoServerRequest (client : LspClient) : Event → Prop
  | .get =>
      ∀ requestId method members queue, client.pending = some (requestId, method) →
        client.queue = .payload (.obj members) :: queue →
        hasRequestId requestId members = true → ¬ HasMethod members
  | _ => True

theorem matched_answer_iff {outcome : LspResult LspValue}
    (hanswer : answer requestId method item = some outcome) :
    (AnsweredRequest.mk requestId method item outcome).Matched ↔
      ∀ members, item = .payload (.obj members) → ¬ HasMethod members := by
  constructor
  · intro hmatched
    exact hmatched.response
  · intro hresponse
    constructor
    · intro value hvalue
      have hok : outcome = .ok value := hvalue
      rw [hok] at hanswer
      obtain ⟨members, hitem, hid, hresult⟩ := answer_eq_ok hanswer
      exact ⟨members, hitem, ⟨hid, hresponse members hitem⟩, hresult⟩
    · exact hresponse

theorem take_matched_iff {queue : List QueueItem} (hgood : client.Good)
    (hitem : item ∈ client.received) :
    (client.take requestId method item queue).AnswersMatched ↔
      ∀ members, item = .payload (.obj members) → hasRequestId requestId members = true →
        ¬ HasMethod members := by
  unfold take
  cases hanswer : answer requestId method item with
  | none =>
      constructor
      · intro _ members hpayload hid
        rw [hpayload, answer_payload_obj, if_pos hid] at hanswer
        cases hanswer
      · intro _
        exact hgood.matched
  | some outcome =>
      have hone := matched_answer_iff hanswer
      constructor
      · intro hmatched members hpayload _
        have hlast := hmatched ⟨requestId, method, item, outcome⟩ (by simp)
        exact hone.mp hlast.1 members hpayload
      · intro hresponse request hrequest
        rw [List.mem_append, List.mem_singleton] at hrequest
        cases hrequest with
        | inl hold => exact hgood.matched request hold
        | inr hnew =>
            subst hnew
            refine ⟨hone.mpr fun members hpayload => ?_, hitem⟩
            apply hresponse members hpayload
            rw [hpayload] at hanswer
            exact hasRequestId_of_answer hanswer

/-! ## One event -/

theorem get_matched_iff (hgood : client.Good) :
    (client.step .get).AnswersMatched ↔ client.TakesNoServerRequest .get := by
  cases hpending : client.pending with
  | none =>
      have hstep : client.step .get = client := by
        simp only [step, hpending]
      rw [hstep]
      constructor
      · intro _ requestId method members queue hsome
        rw [hpending] at hsome
        cases hsome
      · intro _
        exact hgood.matched
  | some pending =>
      obtain ⟨requestId, method⟩ := pending
      cases hqueue : client.queue with
      | nil =>
          have hstep : client.step .get = client := by
            simp only [step, hpending, hqueue]
          rw [hstep]
          constructor
          · intro _ requestId method members queue _ hcons
            rw [hqueue] at hcons
            cases hcons
          · intro _
            exact hgood.matched
      | cons item queue =>
          have hstep : client.step .get = client.take requestId method item queue := by
            simp only [step, hpending, hqueue]
          have hitem : item ∈ client.received := by
            apply hgood.queue
            rw [hqueue]
            exact List.mem_cons_self
          rw [hstep, take_matched_iff hgood hitem]
          constructor
          · intro hresponse requestId' method' members queue' hsome hcons
            rw [hpending, Option.some.injEq, Prod.mk.injEq] at hsome
            rw [hqueue, List.cons.injEq] at hcons
            rw [← hsome.1]
            exact hresponse members hcons.1
          · intro htakes members hpayload
            exact htakes requestId method members queue hpending (by rw [hqueue, hpayload])

theorem step_matched_iff (event : Event) (hgood : client.Good) :
    (client.step event).AnswersMatched ↔ client.TakesNoServerRequest event := by
  cases event with
  | get => exact get_matched_iff hgood
  | put item =>
      simp only [TakesNoServerRequest, iff_true]
      intro request hrequest
      have hold := hgood.matched request hrequest
      exact ⟨hold.1, List.mem_append_left _ hold.2⟩
  | request method =>
      simp only [TakesNoServerRequest, iff_true, step]
      cases client.pending <;> exact hgood.matched
  | unsent =>
      simp only [TakesNoServerRequest, iff_true, step]
      cases client.pending <;> exact hgood.matched
  | expire =>
      simp only [TakesNoServerRequest, iff_true, step]
      cases client.pending <;> cases client.requestTimeoutSeconds <;> exact hgood.matched
  | startReader =>
      simp only [TakesNoServerRequest, iff_true]
      exact hgood.matched

theorem queue_take_subset {queue : List QueueItem} (hqueue : queue ⊆ client.received) :
    (client.take requestId method item queue).queue ⊆
      (client.take requestId method item queue).received := by
  unfold take
  cases answer requestId method item <;> exact hqueue

theorem queue_step_subset (event : Event) (hqueue : client.queue ⊆ client.received) :
    (client.step event).queue ⊆ (client.step event).received := by
  cases event with
  | put item => exact List.append_subset.mpr ⟨List.subset_append_of_subset_left _ hqueue,
      List.subset_append_right _ _⟩
  | request method =>
      simp only [step]
      cases client.pending <;> exact hqueue
  | unsent =>
      simp only [step]
      cases client.pending <;> exact hqueue
  | get =>
      simp only [step]
      split
      · rename_i requestId method item queue _ hcons
        apply queue_take_subset
        rw [hcons] at hqueue
        exact List.Subset.trans (List.subset_cons_self _ _) hqueue
      · exact hqueue
  | expire =>
      simp only [step]
      cases client.pending <;> cases client.requestTimeoutSeconds <;> exact hqueue
  | startReader => exact List.nil_subset _

theorem new_good (requestTimeoutSeconds : Option ℚ) : (new requestTimeoutSeconds).Good := by
  constructor
  · intro request hrequest
    cases hrequest
  · exact List.nil_subset _

end LspClient

/-- Over whole runs: every answered request was answered by its own response,
exactly when no waiting request is handed a request of the server with its id. -/
theorem answers_matched_iff (requestTimeoutSeconds : Option ℚ) (events : List LspClient.Event) :
    (∀ later ∈ reached LspClient.step (.new requestTimeoutSeconds) events,
        later.AnswersMatched) ↔
      EveryStep LspClient.step LspClient.TakesNoServerRequest (.new requestTimeoutSeconds)
        events := by
  have hassumed : EveryStep LspClient.step (fun _ _ => True) (.new requestTimeoutSeconds)
      events := EveryStep.of_forall (fun _ _ => trivial) _ _
  refine forall_reached_iff LspClient.Good ?_ ?_ (LspClient.new_good requestTimeoutSeconds)
    hassumed
  · intro client event hgood _
    exact LspClient.step_matched_iff event hgood
  · intro client event hgood _ hmatched
    exact ⟨hmatched, LspClient.queue_step_subset event hgood.queue⟩

/-! ## A request of the server with the id of the client's -/

def RequestsAreAnsweredByResponses : Prop :=
  ∀ (requestTimeoutSeconds : Option ℚ) (events : List LspClient.Event),
    ∀ later ∈ reached LspClient.step (.new requestTimeoutSeconds) events, later.AnswersMatched

/-- `workspace/configuration` with the id 1, as a server asks while it starts. -/
def configurationRequest : List (String × LspValue) :=
  [("jsonrpc", .str "2.0"), ("id", .int 1), ("method", .str "workspace/configuration"),
    ("params", .obj [("items", .arr [])])]

def collidingRun : List LspClient.Event :=
  [.request "initialize", .put (.payload (.obj configurationRequest)), .get]

/-- A request of the server is taken for the answer of a request. -/
theorem requests_answered_by_serverRequests : ¬ RequestsAreAnsweredByResponses := by
  intro hall
  have hsteps := hall none collidingRun
  have hlast := hsteps (((LspClient.new none).step (.request "initialize")).step
    (.put (.payload (.obj configurationRequest))) |>.step .get) (by simp [reached, collidingRun])
  have hmatched := hlast ⟨1, "initialize", .payload (.obj configurationRequest), .ok .null⟩
    (List.mem_singleton.mpr rfl)
  exact hmatched.1.response configurationRequest rfl (by decide)

end SuitCode
