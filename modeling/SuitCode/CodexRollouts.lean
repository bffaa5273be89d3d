import SuitCode.Exceptions
import SuitCode.Library.KeyedList
import SuitCode.Library.PosixText

/-!
# Codex rollouts

A rollout is a file of JSON lines, each an event.  The readers of rollouts share the
way in which lines are read, and how texts, paths, times and tool names are taken from
the events.
-/

namespace SuitCode

open PosixText KeyedList

/-! ## Decoded values -/

/-- What `json.loads` returns; a number is given by the text which prints it. -/
inductive RolloutValue where
  | null
  | bool (value : Bool)
  | number (text : String)
  | str (value : String)
  | arr (items : List RolloutValue)
  | obj (members : List (String × RolloutValue))

abbrev RolloutMembers := List (String × RolloutValue)

/-- `members.get(name)`; an absent member and a null are both `None`. -/
def RolloutMembers.get (members : RolloutMembers) (name : String) : RolloutValue :=
  match leader? Prod.fst members name with
  | some member => member.2
  | none => .null

namespace RolloutValue

/-- `value == text`. -/
def isText (value : RolloutValue) (text : String) : Bool :=
  match value with
  | .str found => found = text
  | _ => false

def isHashable : RolloutValue → Bool
  | .arr _ => false
  | .obj _ => false
  | _ => true

/-! ### `json.dumps` -/

def hexDigits (code : ℕ) : List Char :=
  [code / 4096 % 16, code / 256 % 16, code / 16 % 16, code % 16].map Nat.digitChar

def escapeAscii (c : Char) : List Char :=
  let code := c.toNat
  if c = '"' then ['\\', '"']
  else if c = '\\' then ['\\', '\\']
  else if c = '\n' then ['\\', 'n']
  else if c = '\r' then ['\\', 'r']
  else if c = '\t' then ['\\', 't']
  else if code = 8 then ['\\', 'b']
  else if code = 12 then ['\\', 'f']
  else if 32 ≤ code && code < 127 then [c]
  else if code < 65536 then '\\' :: 'u' :: hexDigits code
  else
    '\\' :: 'u' :: (hexDigits (0xd800 + (code - 0x10000) / 1024) ++
      '\\' :: 'u' :: hexDigits (0xdc00 + (code - 0x10000) % 1024))

def quoted (text : String) : String :=
  String.ofList ('"' :: (text.toList.flatMap escapeAscii ++ ['"']))

mutual

/-- `json.dumps(value, ensure_ascii=True, sort_keys=True)`. -/
def dumps : RolloutValue → String
  | .null => "null"
  | .bool true => "true"
  | .bool false => "false"
  | .number text => text
  | .str value => quoted value
  | .arr items => "[" ++ join ", " (dumpsItems items) ++ "]"
  | .obj members =>
      "\x7b" ++ join ", " ((sortedBy Prod.fst (dumpsMembers members)).map fun member =>
        quoted member.1 ++ ": " ++ member.2) ++ "\x7d"

def dumpsItems : List RolloutValue → List String
  | [] => []
  | item :: items => dumps item :: dumpsItems items

def dumpsMembers : List (String × RolloutValue) → List (String × String)
  | [] => []
  | (name, value) :: members => (name, dumps value) :: dumpsMembers members

end

def jsonLikeText : RolloutValue → String
  | .str value => value
  | value => dumps value

end RolloutValue

/-! ## Files -/

/-- A line of a rollout, as `json.loads` takes it. -/
inductive RolloutLine where
  | blank
  | invalidJson
  | notAnObject
  | event (members : RolloutMembers)

/-- The files with their lines, the resolution of paths and the times of the machine.
An instant is a time in UTC. -/
structure RolloutEnvironment where
  resolvePath : String → PyResult String
  rolloutLines : String → Option (List RolloutLine)
  fromIsoFormat : String → PyResult ℤ
  isoFormat : ℤ → String
  isoFormat_nonblank : ∀ instant, isBlank (isoFormat instant) = false

def openRollout (environment : RolloutEnvironment) (path : String) :
    PyResult (String × List RolloutLine) := do
  let artifactPath ← environment.resolvePath path
  match environment.rolloutLines artifactPath with
  | some lines => pure (artifactPath, lines)
  | none =>
      raiseValueError ("Codex session artifact does not exist: `" ++ artifactPath ++ "`")

def atLine (artifactPath : String) (lineNumber : ℕ) : String :=
  "`" ++ artifactPath ++ "` at line " ++ toString lineNumber

/-- A step for every event of `iter_rollout_events`, with its line number. -/
def foldRolloutEvents {σ : Type} (artifactPath : String)
    (step : ℕ → RolloutMembers → σ → PyResult σ) :
    ℕ → List RolloutLine → σ → PyResult σ
  | _, [], state => .ok state
  | lineNumber, .blank :: lines, state =>
      foldRolloutEvents artifactPath step (lineNumber + 1) lines state
  | lineNumber, .invalidJson :: _, _ =>
      raiseValueError ("invalid JSON in " ++ atLine artifactPath lineNumber)
  | lineNumber, .notAnObject :: _, _ =>
      raiseValueError ("invalid event object in " ++ atLine artifactPath lineNumber)
  | lineNumber, .event members :: lines, state => do
      let state ← step lineNumber members state
      foldRolloutEvents artifactPath step (lineNumber + 1) lines state

/-- A line which `iter_rollout_events` does not refuse. -/
def RolloutLine.isReadable : RolloutLine → Bool
  | .blank => true
  | .invalidJson => false
  | .notAnObject => false
  | .event _ => true

def numberedEvents : ℕ → List RolloutLine → List (ℕ × RolloutMembers)
  | _, [] => []
  | lineNumber, .event members :: lines =>
      (lineNumber, members) :: numberedEvents (lineNumber + 1) lines
  | lineNumber, _ :: lines => numberedEvents (lineNumber + 1) lines

theorem isReadable_of_fold {σ : Type} {artifactPath : String}
    {step : ℕ → RolloutMembers → σ → PyResult σ} {lineNumber : ℕ} {lines : List RolloutLine}
    {start last : σ}
    (hfold : foldRolloutEvents artifactPath step lineNumber lines start = .ok last) :
    ∀ line ∈ lines, line.isReadable = true := by
  induction lines generalizing lineNumber start with
  | nil => simp
  | cons line lines ih =>
      cases line with
      | blank =>
          intro line hline
          rcases List.mem_cons.mp hline with rfl | hline
          · rfl
          · exact ih hfold line hline
      | invalidJson => simp [foldRolloutEvents] at hfold
      | notAnObject => simp [foldRolloutEvents] at hfold
      | event members =>
          simp only [foldRolloutEvents, ExceptList.bind_eq_ok] at hfold
          rcases hfold with ⟨next, -, hrest⟩
          intro line hline
          rcases List.mem_cons.mp hline with rfl | hline
          · rfl
          · exact ih hrest line hline

theorem foldRolloutEvents_of_readable {σ : Type} (artifactPath : String)
    (step : ℕ → RolloutMembers → σ → PyResult σ) {lineNumber : ℕ} {lines : List RolloutLine}
    {start : σ} (hreadable : ∀ line ∈ lines, line.isReadable = true) :
    foldRolloutEvents artifactPath step lineNumber lines start =
      (numberedEvents lineNumber lines).foldlM
        (fun state event => step event.1 event.2 state) start := by
  induction lines generalizing lineNumber start with
  | nil => rfl
  | cons line lines ih =>
      have hrest : ∀ line ∈ lines, line.isReadable = true :=
        fun later hlater => hreadable later (List.mem_cons_of_mem _ hlater)
      cases line with
      | blank => exact ih hrest
      | invalidJson => simp [RolloutLine.isReadable] at hreadable
      | notAnObject => simp [RolloutLine.isReadable] at hreadable
      | event members =>
          simp only [foldRolloutEvents, numberedEvents, List.foldlM_cons, ih hrest]

/-! ## Texts, times and paths -/

def requiredNonEmpty (value : RolloutValue) (label artifactPath : String) :
    PyResult String :=
  match value with
  | .str text =>
      if isBlank text then
        raiseValueError ("invalid " ++ label ++ " in `" ++ artifactPath ++ "`")
      else
        .ok (strip text)
  | _ => raiseValueError ("invalid " ++ label ++ " in `" ++ artifactPath ++ "`")

def optionalNonEmpty : RolloutValue → Option String
  | .str text => if isBlank text then none else some (strip text)
  | _ => none

def optionalResolvedPath (environment : RolloutEnvironment) (value : RolloutValue)
    (artifactPath : String) : PyResult (Option String) :=
  match value with
  | .null => .ok none
  | .str text =>
      if isBlank text then
        raiseValueError ("invalid session cwd in `" ++ artifactPath ++ "`")
      else do
        let resolved ← environment.resolvePath text
        pure (some resolved)
  | _ => raiseValueError ("invalid session cwd in `" ++ artifactPath ++ "`")

def parseDatetime (environment : RolloutEnvironment) (value : String) : PyResult ℤ :=
  environment.fromIsoFormat
    (if endsWith value "Z" then removeSuffix "Z" value ++ "+00:00" else value)

/-- `_parse_event_timestamp`; both readers of rollouts have it. -/
def parseEventTimestamp (environment : RolloutEnvironment) (artifactPath : String)
    (lineNumber : ℕ) (event : RolloutMembers) : PyResult ℤ :=
  match event.get "timestamp" with
  | .str raw =>
      if isBlank raw then
        raiseValueError ("missing event timestamp in " ++ atLine artifactPath lineNumber)
      else
        parseDatetime environment raw
  | _ => raiseValueError ("missing event timestamp in " ++ atLine artifactPath lineNumber)

def messagePart : RolloutValue → Option String
  | .obj members =>
      match RolloutMembers.get members "text" with
      | .str text => if text = "" then none else some text
      | _ => none
  | _ => none

def messageText : RolloutValue → String
  | .arr items => join "\n" (items.filterMap messagePart)
  | _ => ""

/-! ## Tool names -/

def mcpPrefixes : List String := ["mcp__", "functions.mcp__"]

def suitcodePrefixes : List String :=
  ["mcp__suitcode__", "functions.mcp__suitcode__", "suitcode__", "suitcode."]

def isMcpToolName (toolName : String) : Bool := mcpPrefixes.any (startsWith toolName)

/-- `canonical_suitcode_tool_name` without a server name. -/
def canonicalSuitcodeToolName (toolName : String) : PyResult (Option String) :=
  let normalized := strip toolName
  match suitcodePrefixes.find? (startsWith normalized) with
  | none => .ok none
  | some start =>
      let suffix := strip (removePrefix start normalized)
      if suffix = "" then
        raiseValueError ("invalid SuitCode tool name `" ++ toolName ++ "`")
      else
        .ok (some suffix)

def highValueTools : List String :=
  ["understand_repository", "understand_file", "what_changes_if_i_edit_this",
    "what_should_i_run", "can_i_do_this", "repository_summary",
    "repository_summary_by_path", "describe_components", "describe_files",
    "describe_symbol_context", "analyze_change", "analyze_impact",
    "get_minimum_verified_change_set", "get_minimum_verified_change_set_by_path",
    "get_file_owner_by_path", "get_related_tests_by_path", "get_truth_coverage",
    "describe_test_target", "run_test_targets", "describe_build_target", "build_target",
    "build_project", "describe_runner", "run_runner"]

end SuitCode
