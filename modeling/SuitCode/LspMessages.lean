import SuitCode.Library.KeyedList
import SuitCode.Library.PythonRepr
import Mathlib.Data.Rat.Defs
import Mathlib.Data.Nat.Notation

/-!
# Messages of a language server

Parsed JSON values as Python holds them, the exceptions of the client, and what
a waiting request makes of one item of the reader queue.
-/

namespace SuitCode

open KeyedList PythonRepr

/-! ## Values -/

/-- What `json.loads` returns.  A float is given by the text it prints and, when
it is finite, by its value. -/
inductive LspValue where
  | null
  | bool (value : Bool)
  | int (value : ℤ)
  | float (text : String) (value : Option ℚ)
  | str (value : String)
  | arr (items : List LspValue)
  | obj (members : List (String × LspValue))

namespace LspValue

/-- `payload.get(name)`, with `none` for an absent member. -/
def member? (members : List (String × LspValue)) (name : String) : Option LspValue :=
  (leader? Prod.fst members name).map Prod.snd

/-- `value == number`: truth values are the numbers 1 and 0. -/
def equalsInt (number : ℤ) : LspValue → Bool
  | .bool true => number = 1
  | .bool false => number = 0
  | .int value => value = number
  | .float _ (some value) => value = number
  | _ => false

def isNull : LspValue → Bool
  | .null => true
  | _ => false

mutual

def repr : LspValue → String
  | .null => "None"
  | .bool true => "True"
  | .bool false => "False"
  | .int value => toString value
  | .float text _ => text
  | .str value => pyRepr value
  | .arr items => "[" ++ ", ".intercalate (reprItems items) ++ "]"
  | .obj members => "\x7b" ++ ", ".intercalate (reprMembers members) ++ "\x7d"

def reprItems : List LspValue → List String
  | [] => []
  | item :: items => repr item :: reprItems items

def reprMembers : List (String × LspValue) → List String
  | [] => []
  | (name, value) :: members => (pyRepr name ++ ": " ++ repr value) :: reprMembers members

end

/-- `str(value)`. -/
def text : LspValue → String
  | .str value => value
  | value => repr value

end LspValue

/-! ## Exceptions -/

inductive LspErrorClass where
  | lspProtocolError
  | lspTimeoutError
  | lspProcessError
  | valueError
  | unicodeDecodeError
  | jsonDecodeError
  | osError
  | coordinatorUnavailableError
  | coordinatorProtocolError
  | coordinatorRuntimeNotReadyError
  | coordinatorRequestTimeoutError
  deriving DecidableEq, Repr

structure LspError where
  errorClass : LspErrorClass
  message : String
  deriving DecidableEq, Repr

abbrev LspResult := Except LspError

def raiseProtocolError {α : Type} (message : String) : LspResult α :=
  .error ⟨.lspProtocolError, message⟩

/-! ## Answers -/

inductive QueueItem where
  | payload (value : LspValue)
  | failed (error : LspError)

/-- `response.get("id") == request_id`. -/
def hasRequestId (requestId : ℕ) (members : List (String × LspValue)) : Bool :=
  match LspValue.member? members "id" with
  | some value => value.equalsInt requestId
  | none => false

/-- `response.get("result")`. -/
def resultOf (members : List (String × LspValue)) : LspValue :=
  (LspValue.member? members "result").getD .null

def readResponse (method : String) (members : List (String × LspValue)) : LspResult LspValue :=
  match LspValue.member? members "error" with
  | none => .ok (resultOf members)
  | some .null => .ok (resultOf members)
  | some error =>
      raiseProtocolError
        ("language server returned an error for `" ++ method ++ "`: " ++ error.text)

/-- What a request which waits for an answer makes of an item, or `none` where
it takes the next one. -/
def answer (requestId : ℕ) (method : String) : QueueItem → Option (LspResult LspValue)
  | .failed error => some (.error error)
  | .payload (.obj members) =>
      if hasRequestId requestId members then some (readResponse method members) else none
  | .payload _ => some (raiseProtocolError "language server response must be an object")

/-- `_request` without a deadline, over all the items it will ever find. -/
def awaitAnswer (requestId : ℕ) (method : String) :
    List QueueItem → Option (LspResult LspValue × List QueueItem)
  | [] => none
  | item :: items =>
      match answer requestId method item with
      | none => awaitAnswer requestId method items
      | some result => some (result, items)

/-! ## Kinds of messages -/

/-- A message with a `method` is a request or a notification of the server. -/
def HasMethod (members : List (String × LspValue)) : Prop :=
  (LspValue.member? members "method").isSome = true

instance (members : List (String × LspValue)) : Decidable (HasMethod members) :=
  inferInstanceAs (Decidable (_ = true))

def IsResponse (requestId : ℕ) (members : List (String × LspValue)) : Prop :=
  hasRequestId requestId members = true ∧ ¬ HasMethod members

theorem answer_payload_obj (requestId : ℕ) (method : String)
    (members : List (String × LspValue)) :
    answer requestId method (.payload (.obj members)) =
      if hasRequestId requestId members then some (readResponse method members) else none := rfl

theorem answer_eq_ok {requestId : ℕ} {method : String} {item : QueueItem} {value : LspValue}
    (hanswer : answer requestId method item = some (.ok value)) :
    ∃ members, item = .payload (.obj members) ∧ hasRequestId requestId members = true ∧
      value = resultOf members := by
  cases item with
  | failed error => simp [answer] at hanswer
  | payload payload =>
      cases payload with
      | obj members =>
          rw [answer_payload_obj] at hanswer
          by_cases hid : hasRequestId requestId members = true
          · rw [if_pos hid, Option.some.injEq] at hanswer
            refine ⟨members, rfl, hid, ?_⟩
            unfold readResponse at hanswer
            split at hanswer
            · simpa using hanswer.symm
            · simpa using hanswer.symm
            · cases hanswer
          · rw [if_neg hid] at hanswer
            cases hanswer
      | _ => simp [answer, raiseProtocolError] at hanswer

theorem hasRequestId_of_answer {requestId : ℕ} {method : String}
    {members : List (String × LspValue)} {result : LspResult LspValue}
    (hanswer : answer requestId method (.payload (.obj members)) = some result) :
    hasRequestId requestId members = true := by
  rw [answer_payload_obj] at hanswer
  by_contra hid
  rw [if_neg hid] at hanswer
  cases hanswer

end SuitCode
