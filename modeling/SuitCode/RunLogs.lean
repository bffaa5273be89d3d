import SuitCode.ActionExecution
import SuitCode.PathContainment

/-!
# Logs of runs

The log of a run is named after its group, the second in which it is written and what is left of
its action id.  Runs which agree in all three write to one file.
-/

namespace SuitCode

open ExceptList IsoTimestamps KeyedList KeyedTable PosixText PythonLines

/-- A call with the world it finds. -/
structure RunCall where
  world : ActionWorld
  request : ActionRequest

/-- The calls are named after one second, one group and one sanitised action id. -/
structure SameLog (earlier later : RunCall) : Prop where
  group : runGroupOf earlier.request.runGroup = runGroupOf later.request.runGroup
  second : earlier.world.now.instant / 1000000 = later.world.now.instant / 1000000
  action : safeActionId earlier.request.actionId = safeActionId later.request.actionId

namespace ActionExecutionService

variable (service : ActionExecutionService)

def runAll : RunLogs → List RunCall → List (PyResult ActionExecutionResult) × RunLogs
  | logs, [] => ([], logs)
  | logs, call :: calls =>
      let (result, written) := service.run call.world call.request logs
      let (results, final) := runAll written calls
      (result :: results, final)

/-- The returned log paths are distinct, and at each is the output of the call which returned
it. -/
structure LogsKept (logs : RunLogs) (calls : List RunCall) : Prop where
  distinct : (service.runAll logs calls).1.Pairwise fun earlier later =>
    ∀ first second, earlier = .ok first → later = .ok second → first.logPath ≠ second.logPath
  kept : ∀ result, .ok result ∈ (service.runAll logs calls).1 →
    (service.runAll logs calls).2.lookup result.logPath = some ⟨result.logPath, result.output⟩

def Writes (call : RunCall) : Prop :=
  ∃ group execution, service.execute call.world call.request = .ok (group, execution)

/-- The call comes to write its log and its arguments are those of a result. -/
structure Returns (call : RunCall) : Prop where
  writes : service.Writes call
  actionId : isBlank call.request.actionId = false
  commandArgv : call.request.commandArgv.any isBlank = false
  commandCwd : call.request.commandCwd.any isBlank = false

def outputOf (call : RunCall) : Option String :=
  match service.execute call.world call.request with
  | .ok (_, execution) => some execution.output
  | .error _ => none

def IsLastWriter (calls : List RunCall) (call last : RunCall) : Prop :=
  ∃ front back, calls = front ++ last :: back ∧ service.Writes last ∧ SameLog call last ∧
    ∀ other ∈ back, service.Writes other → ¬ SameLog call other

/-- No two calls which return share a log, and a call which shares it and raises after the log is
written leaves the output which was there. -/
structure LogsApart (calls : List RunCall) : Prop where
  apart : calls.Pairwise fun earlier later =>
    service.Returns earlier → service.Returns later → ¬ SameLog earlier later
  restored : ∀ call ∈ calls, service.Returns call →
    ∀ last, service.IsLastWriter calls call last →
      service.outputOf last = service.outputOf call

end ActionExecutionService

variable {c : Char} {call : RunCall} {log row : RunLog} {result : ActionExecutionResult}
  {calls : List RunCall}

/-! ## Names of logs -/

theorem isDigit_of_mem_fixedDigits {width number : ℕ} (hc : c ∈ fixedDigits width number) :
    c.isDigit = true := by
  induction width generalizing number with
  | zero => cases hc
  | succ width ih =>
      cases List.mem_append.mp hc with
      | inl hfront => exact ih hfront
      | inr hlast =>
          rw [List.mem_singleton.mp hlast]
          exact digitChar_isDigit (Nat.mod_lt _ (by omega))

theorem isSafeChar_of_isDigit (hc : c.isDigit = true) : isSafeChar c = true := by
  simp [isSafeChar, Char.isAlphanum, hc]

theorem UtcTime.isSafeChar_of_mem_secondChars {time : UtcTime} (hc : c ∈ time.secondChars) :
    isSafeChar c = true := by
  simp only [secondChars, dateChars, List.mem_append, List.mem_cons, List.not_mem_nil,
    or_false] at hc
  rcases hc with (hc | hc | hc) | rfl | hc | hc | hc | rfl
  · exact isSafeChar_of_isDigit (isDigit_of_mem_fixedDigits hc)
  · exact isSafeChar_of_isDigit (isDigit_of_mem_fixedDigits hc)
  · exact isSafeChar_of_isDigit (isDigit_of_mem_fixedDigits hc)
  · decide
  · exact isSafeChar_of_isDigit (isDigit_of_mem_fixedDigits hc)
  · exact isSafeChar_of_isDigit (isDigit_of_mem_fixedDigits hc)
  · exact isSafeChar_of_isDigit (isDigit_of_mem_fixedDigits hc)
  · decide

theorem isSafeChar_of_mem_replaceUnsafe {chars : List Char} {inside : Bool}
    (hc : c ∈ replaceUnsafe inside chars) : isSafeChar c = true := by
  fun_induction replaceUnsafe inside chars with
  | case1 => cases hc
  | case2 inside head chars hsafe ih =>
      cases List.mem_cons.mp hc with
      | inl heq => rw [heq, hsafe]
      | inr hrest => exact ih hrest
  | case3 head chars hsafe ih => exact ih hc
  | case4 inside head chars hsafe hinside ih =>
      cases List.mem_cons.mp hc with
      | inl heq =>
          rw [heq]
          decide
      | inr hrest => exact ih hrest

theorem isSafeChar_of_mem_safeActionId {actionId : String} (hc : c ∈ (safeActionId actionId).toList) :
    isSafeChar c = true := by
  unfold safeActionId at hc
  simp only at hc
  split at hc
  · have hall : "action".toList.all isSafeChar = true := by decide
    exact List.all_eq_true.mp hall c hc
  · rw [String.toList_ofList] at hc
    exact isSafeChar_of_mem_replaceUnsafe
      ((List.dropWhile_sublist _).subset ((List.rdropWhile_prefix _ _).subset hc))

theorem isSafeChar_of_mem_runLogName {now : UtcTime} {actionId : String}
    (hc : c ∈ (runLogName now actionId).toList) : isSafeChar c = true := by
  simp only [runLogName, String.toList_append, String.toList_ofList, List.mem_append] at hc
  rcases hc with ((hsecond | hdash) | haction) | hending
  · exact UtcTime.isSafeChar_of_mem_secondChars hsecond
  · have hall : "-".toList.all isSafeChar = true := by decide
    exact List.all_eq_true.mp hall c hdash
  · exact isSafeChar_of_mem_safeActionId haction
  · have hall : ".log".toList.all isSafeChar = true := by decide
    exact List.all_eq_true.mp hall c hending

theorem isSafeChar_of_isGroupChar (hc : isGroupChar c = true) :
    isSafeChar c = true := by
  unfold isGroupChar at hc
  unfold isSafeChar Char.isAlphanum Char.isAlpha
  cases hlower : c.isLower with
  | true => simp
  | false =>
      cases hdigit : c.isDigit with
      | true => simp
      | false =>
          have hsymbol : c = '_' ∨ c = '-' := by simpa [hlower, hdigit] using hc
          cases hsymbol with
          | inl hunderscore => simp [hunderscore]
          | inr hdash => simp [hdash]

theorem toNat_of_isSafeChar (hc : isSafeChar c = true) :
    c.toNat = 45 ∨ c.toNat = 46 ∨ (48 ≤ c.toNat ∧ c.toNat ≤ 57) ∨
      (65 ≤ c.toNat ∧ c.toNat ≤ 90) ∨ c.toNat = 95 ∨ (97 ≤ c.toNat ∧ c.toNat ≤ 122) := by
  unfold isSafeChar Char.isAlphanum Char.isAlpha Char.isUpper Char.isLower Char.isDigit at hc
  simp only [Bool.or_eq_true, Bool.and_eq_true, decide_eq_true_eq, UInt32.le_iff_toNat_le,
    ge_iff_le] at hc
  change (((((65 ≤ c.toNat ∧ c.toNat ≤ 90) ∨ (97 ≤ c.toNat ∧ c.toNat ≤ 122)) ∨
    (48 ≤ c.toNat ∧ c.toNat ≤ 57)) ∨ c = '.') ∨ c = '_') ∨ c = '-' at hc
  rcases hc with ((((hupper | hlower) | hdigit) | rfl) | rfl) | rfl
  · omega
  · omega
  · omega
  · decide
  · decide
  · decide

theorem isSpace_of_isSafeChar (hc : isSafeChar c = true) : isSpace c = false := by
  have hbounds := toNat_of_isSafeChar hc
  simp only [isSpace, Bool.or_eq_false_iff, Bool.and_eq_false_iff, decide_eq_false_iff_not,
    beq_eq_false_iff_ne]
  omega

/-! ## Paths of logs -/

theorem normalizeRepositoryRelativePath_of_isPlain {path : String} (hplain : IsPlain path)
    (hback : '\\' ∉ path.toList) (hspace : ∀ c ∈ path.toList, isSpace c = false)
    (hup : (pieces path).head? ≠ some "..") :
    normalizeRepositoryRelativePath path = .ok path := by
  have hroot : startsWith path "/" = false := by
    by_contra hstart
    rw [Bool.not_eq_false, startsWith_iff_exists_append] at hstart
    obtain ⟨rest, hrest⟩ := hstart
    have hpieces : pieces path = pieces "" ++ pieces rest := by
      rw [hrest]
      exact pieces_append_slash "" rest
    have hmem : "" ∈ segments path := by
      rw [hplain, hpieces]
      exact List.mem_append_left _ (by decide)
    exact (mem_segments_iff.mp hmem).2.1 rfl
  have hpure : purePosixPath path = path := by
    rw [purePosixPath_of_relative hroot, hplain, if_neg (pieces_ne_nil path), join_pieces]
  have hremoved : removePrefix "./" path = path := by
    have h := removePrefix_purePosixPath hroot
    rwa [hpure] at h
  rw [normalizeRepositoryRelativePath_eq_ok, replaceChar_of_not_mem hback,
    strip_eq_self hspace, hremoved, hpure]
  refine ⟨rfl, hroot, ?_, ?_⟩
  · rintro rfl
    exact hup (by decide)
  · by_contra hstart
    rw [Bool.not_eq_false, startsWith_iff_exists_append] at hstart
    obtain ⟨rest, hrest⟩ := hstart
    apply hup
    have hpieces : pieces path = pieces ".." ++ pieces rest := by
      rw [hrest]
      exact pieces_append_slash ".." rest
    rw [hpieces, show pieces ".." = [".."] by decide]
    rfl

structure IsGroup (group : String) : Prop where
  ne_empty : group ≠ ""
  chars : ∀ c ∈ group.toList, isGroupChar c = true

theorem isGroup_of_runGroupOf {runGroup group : String} (hok : runGroupOf runGroup = .ok group) :
    IsGroup group := by
  unfold runGroupOf at hok
  simp only at hok
  split at hok
  · exact absurd hok raiseValueError_ne_ok
  · rename_i hempty
    split at hok
    · exact absurd hok raiseValueError_ne_ok
    · rename_i hchars
      rw [← Except.ok.inj hok]
      constructor
      case ne_empty => exact hempty
      case chars => simpa using hchars

section Paths

variable {group : String} {now : UtcTime} {actionId : String}

theorem not_mem_of_isSafeChar {symbol : Char} {chars : List Char}
    (hsymbol : isSafeChar symbol = false) (hchars : ∀ c ∈ chars, isSafeChar c = true) :
    symbol ∉ chars := by
  intro hmem
  rw [hchars symbol hmem] at hsymbol
  cases hsymbol

theorem isSafeChar_of_mem_parts (hgroup : IsGroup group) {part : String}
    (hpart : part ∈ [".suit", "runs", group, runLogName now actionId]) :
    ∀ c ∈ part.toList, isSafeChar c = true := by
  simp only [List.mem_cons, List.not_mem_nil, or_false] at hpart
  rcases hpart with rfl | rfl | rfl | rfl
  · exact List.all_eq_true.mp (by decide : ".suit".toList.all isSafeChar = true)
  · exact List.all_eq_true.mp (by decide : "runs".toList.all isSafeChar = true)
  · intro c hc
    exact isSafeChar_of_isGroupChar (hgroup.chars c hc)
  · intro c hc
    exact isSafeChar_of_mem_runLogName hc

theorem pieces_runLogPath (hgroup : IsGroup group) :
    pieces (runLogPath group now actionId) =
      [".suit", "runs", group, runLogName now actionId] := by
  apply pieces_join (by simp)
  intro part hpart
  exact not_mem_of_isSafeChar (by decide) (isSafeChar_of_mem_parts hgroup hpart)

theorem mem_runLogPath (hgroup : IsGroup group) (hc : c ∈ (runLogPath group now actionId).toList) :
    c = '/' ∨ isSafeChar c = true := by
  cases mem_toList_join hc with
  | inl hslash => exact Or.inl hslash
  | inr hpart =>
      obtain ⟨part, hmem, hchar⟩ := hpart
      exact Or.inr (isSafeChar_of_mem_parts hgroup hmem c hchar)

theorem IsGroup.ne_dot (hgroup : IsGroup group) : group ≠ "." := by
  rintro rfl
  exact absurd (hgroup.chars '.' (by decide)) (by decide)

theorem runLogName_ne_dot : runLogName now actionId ≠ "" ∧ runLogName now actionId ≠ "." := by
  have hlength : 4 ≤ (runLogName now actionId).toList.length := by
    simp only [runLogName, String.toList_append, List.length_append]
    have hending : ".log".toList.length = 4 := by decide
    omega
  constructor
  · intro heq
    rw [heq] at hlength
    exact absurd hlength (by decide)
  · intro heq
    rw [heq] at hlength
    exact absurd hlength (by decide)

theorem isPlain_runLogPath (hgroup : IsGroup group) :
    IsPlain (runLogPath group now actionId) := by
  have hname := @runLogName_ne_dot now actionId
  unfold IsPlain segments
  rw [pieces_runLogPath hgroup, List.filter_eq_self]
  intro part hpart
  simp only [List.mem_cons, List.not_mem_nil, or_false] at hpart
  rcases hpart with rfl | rfl | rfl | rfl
  · decide
  · decide
  · simp [hgroup.ne_empty, hgroup.ne_dot]
  · simp [hname]

theorem validateLogPath_runLogPath (hgroup : IsGroup group) :
    validateLogPath (runLogPath group now actionId) = .ok (runLogPath group now actionId) := by
  have hspace : ∀ c ∈ (runLogPath group now actionId).toList, isSpace c = false := by
    intro c hc
    cases mem_runLogPath hgroup hc with
    | inl hslash =>
        rw [hslash]
        decide
    | inr hsafe => exact isSpace_of_isSafeChar hsafe
  have hback : '\\' ∉ (runLogPath group now actionId).toList := by
    intro hc
    cases mem_runLogPath hgroup hc with
    | inl hslash => exact absurd hslash (by decide)
    | inr hsafe => exact absurd hsafe (by decide)
  have hup : (pieces (runLogPath group now actionId)).head? ≠ some ".." := by
    rw [pieces_runLogPath hgroup, List.head?_cons]
    exact fun heq => absurd (Option.some.inj heq) (by decide)
  have hnormalized := normalizeRepositoryRelativePath_of_isPlain
    (isPlain_runLogPath hgroup) hback hspace hup
  have hstrip : strip (runLogPath group now actionId) = runLogPath group now actionId :=
    strip_eq_self hspace
  have hne : runLogPath group now actionId ≠ "" := by
    intro heq
    have hpieces := @pieces_runLogPath group now actionId hgroup
    rw [heq] at hpieces
    exact absurd (congrArg List.length hpieces) (by simp [pieces])
  have hblank : isBlank (runLogPath group now actionId) = false := isBlank_eq_false hstrip hne
  unfold validateLogPath
  rw [hblank, if_neg Bool.false_ne_true]
  simp only
  rw [replaceChar_of_not_mem hback, hstrip]
  split
  · exact hnormalized
  · rfl

theorem UtcTime.secondChars_inj {left right : UtcTime} :
    left.secondChars = right.secondChars ↔ left.instant / 1000000 = right.instant / 1000000 := by
  have hdate : left.dateChars = right.dateChars ↔ left.date.ordinal = right.date.ordinal := by
    simp only [le_antisymm_iff, ← not_lt, UtcTime.dateChars_lt_iff]
  have hseconds : ∀ time : UtcTime, time.instant / 1000000 =
      time.date.ordinal * 86400 + ((time.hour * 60 + time.minute) * 60 + time.second) := by
    intro time
    have hmicrosecond := time.microsecond_lt
    unfold UtcTime.instant UtcTime.timeOfDay
    omega
  have hhour := left.hour_lt
  have hhour' := right.hour_lt
  have hminute := left.minute_lt
  have hminute' := right.minute_lt
  have hsecond := left.second_lt
  have hsecond' := right.second_lt
  rw [hseconds, hseconds]
  constructor
  · intro heq
    obtain ⟨hdates, htimes⟩ := List.append_inj heq (by simp [UtcTime.dateChars])
    obtain ⟨hhours, htimes⟩ := List.append_inj (List.cons.inj htimes).2 (by simp)
    obtain ⟨hminutes, htimes⟩ := List.append_inj htimes (by simp)
    obtain ⟨hsecs, -⟩ := List.append_inj htimes (by simp)
    rw [hdate.mp hdates, (fixedDigits_inj (by omega) (by omega)).mp hhours,
      (fixedDigits_inj (by omega) (by omega)).mp hminutes,
      (fixedDigits_inj (by omega) (by omega)).mp hsecs]
  · intro heq
    have hordinal : left.date.ordinal = right.date.ordinal := by omega
    have hhours : left.hour = right.hour := by omega
    have hminutes : left.minute = right.minute := by omega
    have hsecs : left.second = right.second := by omega
    unfold UtcTime.secondChars
    rw [hdate.mpr hordinal, hhours, hminutes, hsecs]

theorem runLogName_inj {otherNow : UtcTime} {otherAction : String} :
    runLogName now actionId = runLogName otherNow otherAction ↔
      now.instant / 1000000 = otherNow.instant / 1000000 ∧
        safeActionId actionId = safeActionId otherAction := by
  rw [← UtcTime.secondChars_inj]
  constructor
  · intro heq
    have hchars := congrArg String.toList heq
    simp only [runLogName, String.toList_append, String.toList_ofList, List.append_assoc]
      at hchars
    obtain ⟨hsecond, hrest⟩ := List.append_inj hchars
      (by simp [UtcTime.secondChars, UtcTime.dateChars])
    rw [List.append_cancel_left_eq, List.append_cancel_right_eq] at hrest
    exact ⟨hsecond, String.toList_injective hrest⟩
  · rintro ⟨hsecond, haction⟩
    rw [runLogName, runLogName, hsecond, haction]

theorem runLogPath_inj {otherGroup : String} {otherNow : UtcTime} {otherAction : String}
    (hgroup : IsGroup group) (hother : IsGroup otherGroup) :
    runLogPath group now actionId = runLogPath otherGroup otherNow otherAction ↔
      group = otherGroup ∧ now.instant / 1000000 = otherNow.instant / 1000000 ∧
        safeActionId actionId = safeActionId otherAction := by
  rw [← runLogName_inj]
  constructor
  · intro heq
    have hpieces := congrArg pieces heq
    rw [pieces_runLogPath hgroup, pieces_runLogPath hother] at hpieces
    simpa using hpieces
  · rintro ⟨hgroups, hnames⟩
    rw [runLogPath, runLogPath, hgroups, hnames]

end Paths

/-! ## The excerpt of an output -/

theorem strip_last {text : String} (hne : strip text ≠ "") :
    ∃ front c, (strip text).toList = front ++ [c] ∧ isSpace c = false := by
  have hchars : (text.toList.dropWhile isSpace).rdropWhile isSpace ≠ [] := by
    rw [← toList_strip, ne_eq, String.toList_eq_nil_iff]
    exact hne
  have hlast := List.rdropWhile_last_not isSpace (text.toList.dropWhile isSpace) hchars
  use ((text.toList.dropWhile isSpace).rdropWhile isSpace).dropLast,
    ((text.toList.dropWhile isSpace).rdropWhile isSpace).getLast hchars
  rw [toList_strip, List.dropLast_concat_getLast]
  exact ⟨rfl, Bool.not_eq_true _ ▸ hlast⟩

theorem isBoundary_of_isSpace (hc : isSpace c = false) : isBoundary c = false := by
  by_contra hboundary
  rw [Bool.not_eq_false] at hboundary
  simp only [isBoundary, List.mem_cons, List.not_mem_nil, or_false, decide_eq_true_eq]
    at hboundary
  simp only [isSpace, Bool.or_eq_false_iff, Bool.and_eq_false_iff, decide_eq_false_iff_not,
    beq_eq_false_iff_ne] at hc
  omega

theorem toList_join_concat (separator : String) (parts : List String) (last : String) :
    ∃ front, (join separator (parts ++ [last])).toList = front ++ last.toList := by
  induction parts with
  | nil => exact ⟨[], rfl⟩
  | cons part parts ih =>
      obtain ⟨front, hfront⟩ := ih
      cases parts with
      | nil =>
          use part.toList ++ separator.toList
          simp [join]
      | cons next parts =>
          use part.toList ++ separator.toList ++ front
          rw [List.cons_append, List.cons_append, join, String.toList_append,
            String.toList_append, ← List.cons_append, hfront]
          simp only [List.append_assoc]

theorem excerpt_not_blank {output text : String} (hsome : excerpt output = some text) :
    isBlank text = false := by
  unfold excerpt at hsome
  simp only at hsome
  split at hsome
  · cases hsome
  · rename_i hne
    obtain ⟨front, c, hstripped, hspace⟩ := strip_last hne
    obtain ⟨lines, line, hlines⟩ :=
      splitLines_append_singleton (isBoundary_of_isSpace hspace) front
    rw [hstripped, hlines, List.map_append, List.map_singleton, List.rtake_concat_succ] at hsome
    obtain ⟨start, hjoin⟩ := toList_join_concat "\n" ((lines.map String.ofList).rtake 39)
      (String.ofList (line ++ [c]))
    rw [hjoin, String.toList_ofList, ← List.append_assoc, List.rtake_concat_succ] at hsome
    rw [← Option.some.inj hsome, isBlank, String.toList_ofList, List.all_append]
    simp [hspace]

/-! ## What a call writes and returns -/

namespace ActionExecutionService

variable (service : ActionExecutionService)

def logOf (call : RunCall) : Option RunLog :=
  match service.execute call.world call.request with
  | .ok (group, execution) =>
      some ⟨runLogPath group call.world.now call.request.actionId, execution.output⟩
  | .error _ => none

def outcomeOf (call : RunCall) : PyResult ActionExecutionResult :=
  (service.run call.world call.request .empty).1

variable {service}

theorem run_eq (call : RunCall) (logs : RunLogs) :
    service.run call.world call.request logs =
      (service.outcomeOf call, logs.upsertAll (service.logOf call).toList) := by
  unfold outcomeOf run logOf
  cases service.execute call.world call.request with
  | error error => rfl
  | ok executed => rfl

theorem runAll_eq (logs : RunLogs) (calls : List RunCall) :
    service.runAll logs calls =
      (calls.map service.outcomeOf, logs.upsertAll (calls.filterMap service.logOf)) := by
  induction calls generalizing logs with
  | nil => rfl
  | cons call calls ih =>
      rw [runAll, run_eq]
      simp only [ih, List.map_cons, Prod.mk.injEq, true_and]
      cases hlog : service.logOf call with
      | none => simp [hlog, upsertAll]
      | some log => simp [hlog, upsertAll]

theorem logOf_eq_some_iff :
    service.logOf call = some log ↔ ∃ group execution,
      service.execute call.world call.request = .ok (group, execution) ∧
        log = ⟨runLogPath group call.world.now call.request.actionId, execution.output⟩ := by
  unfold logOf
  cases service.execute call.world call.request with
  | error error => simp
  | ok executed =>
      obtain ⟨group, execution⟩ := executed
      constructor
      · intro hlog
        exact ⟨group, execution, rfl, (Option.some.inj hlog).symm⟩
      · rintro ⟨_, _, heq, rfl⟩
        cases heq
        rfl

theorem writes_iff :
    service.Writes call ↔ ∃ log, service.logOf call = some log := by
  constructor
  · rintro ⟨group, execution, hexecute⟩
    exact ⟨_, logOf_eq_some_iff.mpr ⟨group, execution, hexecute, rfl⟩⟩
  · rintro ⟨log, hlog⟩
    obtain ⟨group, execution, hexecute, -⟩ := logOf_eq_some_iff.mp hlog
    exact ⟨group, execution, hexecute⟩

theorem outputOf_eq (hlog : service.logOf call = some log) :
    service.outputOf call = some log.text := by
  obtain ⟨group, execution, hexecute, rfl⟩ := logOf_eq_some_iff.mp hlog
  rw [outputOf, hexecute]

theorem of_execute {world : ActionWorld} {request : ActionRequest} {group : String}
    {execution : ProcessExecutionResult}
    (hexecute : service.execute world request = .ok (group, execution)) :
    runGroupOf request.runGroup = .ok group ∧ request.commandArgv ≠ [] := by
  unfold execute at hexecute
  obtain ⟨_, -, hexecute⟩ := bind_eq_ok.mp hexecute
  obtain ⟨accepted, hgroup, hexecute⟩ := bind_eq_ok.mp hexecute
  obtain ⟨workingDirectory, -, hexecute⟩ := bind_eq_ok.mp hexecute
  obtain ⟨argv, hargv, hexecute⟩ := bind_eq_ok.mp hexecute
  constructor
  · rw [hgroup]
    split at hexecute
    · cases pure_eq_ok.mp hexecute
      rfl
    · exact absurd hexecute raiseValueError_ne_ok
    · cases hexecute
  · intro hnil
    rw [hnil] at hargv
    cases hargv

theorem path_eq_iff {earlier later : RunCall} {first second : RunLog}
    (hfirst : service.logOf earlier = some first) (hsecond : service.logOf later = some second) :
    first.path = second.path ↔ SameLog earlier later := by
  obtain ⟨group, execution, hexecute, rfl⟩ := logOf_eq_some_iff.mp hfirst
  obtain ⟨otherGroup, otherExecution, hother, rfl⟩ := logOf_eq_some_iff.mp hsecond
  have hgroup := (of_execute hexecute).1
  have hotherGroup := (of_execute hother).1
  have hsame : runGroupOf earlier.request.runGroup = runGroupOf later.request.runGroup ↔
      group = otherGroup := by
    rw [hgroup, hotherGroup]
    constructor
    · exact Except.ok.inj
    · exact congrArg Except.ok
  rw [runLogPath_inj (isGroup_of_runGroupOf hgroup) (isGroup_of_runGroupOf hotherGroup), ← hsame]
  constructor
  · rintro ⟨hgroups, hseconds, hactions⟩
    exact ⟨hgroups, hseconds, hactions⟩
  · intro hlog
    exact ⟨hlog.group, hlog.second, hlog.action⟩

theorem toResult_eq_ok_iff {request : ActionRequest} {execution : ProcessExecutionResult}
    {logPath : String} (hpath : validateLogPath logPath = .ok logPath)
    (hargv : request.commandArgv ≠ []) :
    toResult request execution logPath = .ok result ↔
      (isBlank request.actionId = false ∧ request.commandArgv.any isBlank = false ∧
        request.commandCwd.any isBlank = false) ∧
      result =
        { actionId := request.actionId
          status := resolveStatus execution.exitCode execution.timedOut
          success := resolveStatus execution.exitCode execution.timedOut = .passed
          commandArgv := request.commandArgv
          commandCwd := request.commandCwd
          exitCode := execution.exitCode
          durationMs := execution.durationMs
          logPath := logPath
          outputExcerpt := excerpt execution.output
          output := execution.output } := by
  have hexcerpt : (excerpt execution.output).any isBlank = false := by
    cases htext : excerpt execution.output with
    | none => rfl
    | some text => exact excerpt_not_blank htext
  have htimeout : (decide (resolveStatus execution.exitCode execution.timedOut = .timeout) &&
      execution.exitCode.isSome) = false := by
    cases htimed : execution.timedOut with
    | true => simp [execution.exitCode_of_timedOut htimed]
    | false =>
        have hne : resolveStatus execution.exitCode false ≠ .timeout := by
          unfold resolveStatus
          rw [if_neg Bool.false_ne_true]
          split
          · decide
          · split
            · decide
            · decide
        simp [hne]
  have hempty : request.commandArgv.isEmpty = false := by simpa using hargv
  unfold toResult ActionExecutionResult.create
  simp only [hpath, ok_bind]
  rw [validated_eq_ok]
  simp only [actionResultChecks, List.forall_mem_cons, List.not_mem_nil, false_imp_iff,
    implies_true, and_true, hexcerpt, htimeout, hempty]
  constructor
  · rintro ⟨rfl, hid, -, hblank, hcwd, -⟩
    exact ⟨⟨hid, hblank, hcwd⟩, rfl⟩
  · rintro ⟨⟨hid, hblank, hcwd⟩, rfl⟩
    refine ⟨rfl, hid, trivial, hblank, hcwd, trivial, ?_, ?_⟩
    · simp
    · simp

theorem outcomeOf_eq_ok_iff :
    service.outcomeOf call = .ok result ↔ ∃ group execution,
      service.execute call.world call.request = .ok (group, execution) ∧
        toResult call.request execution
          (runLogPath group call.world.now call.request.actionId) = .ok result := by
  unfold outcomeOf run
  cases service.execute call.world call.request with
  | error error => simp
  | ok executed =>
      obtain ⟨group, execution⟩ := executed
      simp

theorem checked_of_outcomeOf (hok : service.outcomeOf call = .ok result) :
    result.actionId = call.request.actionId ∧ result.commandArgv = call.request.commandArgv ∧
      result.commandCwd = call.request.commandCwd ∧
      validateLogPath result.logPath = .ok result.logPath ∧
      ∀ check ∈ actionResultChecks result, check.1 = false := by
  obtain ⟨group, execution, hexecute, hresult⟩ := outcomeOf_eq_ok_iff.mp hok
  have hpath := @validateLogPath_runLogPath group call.world.now call.request.actionId
    (isGroup_of_runGroupOf (of_execute hexecute).1)
  simp only [toResult, ActionExecutionResult.create, hpath, ok_bind] at hresult
  obtain ⟨rfl, hchecks⟩ := validated_eq_ok.mp hresult
  exact ⟨rfl, rfl, rfl, hpath, hchecks⟩

theorem status_of_outcomeOf (hok : service.outcomeOf call = .ok result) :
    ∃ group execution, service.execute call.world call.request = .ok (group, execution) ∧
      result.status = resolveStatus execution.exitCode execution.timedOut ∧
      result.logPath = runLogPath group call.world.now call.request.actionId := by
  obtain ⟨group, execution, hexecute, hresult⟩ := outcomeOf_eq_ok_iff.mp hok
  obtain ⟨hgroup, hargv⟩ := of_execute hexecute
  have hpath := @validateLogPath_runLogPath group call.world.now call.request.actionId
    (isGroup_of_runGroupOf hgroup)
  obtain ⟨-, rfl⟩ := (toResult_eq_ok_iff hpath hargv).mp hresult
  exact ⟨group, execution, hexecute, rfl, rfl⟩

theorem logOf_of_outcomeOf (hok : service.outcomeOf call = .ok result) :
    service.Returns call ∧ service.logOf call = some ⟨result.logPath, result.output⟩ := by
  obtain ⟨group, execution, hexecute, hresult⟩ := outcomeOf_eq_ok_iff.mp hok
  obtain ⟨hgroup, hargv⟩ := of_execute hexecute
  have hpath := @validateLogPath_runLogPath group call.world.now call.request.actionId
    (isGroup_of_runGroupOf hgroup)
  obtain ⟨⟨hid, hblank, hcwd⟩, rfl⟩ := (toResult_eq_ok_iff hpath hargv).mp hresult
  constructor
  · exact ⟨⟨group, execution, hexecute⟩, hid, hblank, hcwd⟩
  · exact logOf_eq_some_iff.mpr ⟨group, execution, hexecute, rfl⟩

theorem exists_outcomeOf (hreturns : service.Returns call) :
    ∃ result, service.outcomeOf call = .ok result := by
  obtain ⟨group, execution, hexecute⟩ := hreturns.writes
  obtain ⟨hgroup, hargv⟩ := of_execute hexecute
  have hpath := @validateLogPath_runLogPath group call.world.now call.request.actionId
    (isGroup_of_runGroupOf hgroup)
  exact ⟨_, outcomeOf_eq_ok_iff.mpr ⟨group, execution, hexecute,
    (toResult_eq_ok_iff hpath hargv).mpr
      ⟨⟨hreturns.actionId, hreturns.commandArgv, hreturns.commandCwd⟩, rfl⟩⟩⟩

end ActionExecutionService

/-! ## Sequences of calls -/

section LastWritten

variable {ρ κ : Type} [DecidableEq κ] {key : ρ → κ}

theorem lastWritten_eq_some_iff {written : List ρ} {wanted : κ} {row : ρ} :
    lastWritten key written wanted = some row ↔
      ∃ front back, written = front ++ row :: back ∧ key row = wanted ∧
        ∀ other ∈ back, key other ≠ wanted := by
  induction written using List.reverseRecOn with
  | nil => simp [lastWritten, leader?]
  | append_singleton written last ih =>
      rw [lastWritten_append_singleton]
      by_cases hkey : key last = wanted
      · rw [if_pos hkey]
        constructor
        · intro heq
          rw [← Option.some.inj heq]
          exact ⟨written, [], rfl, hkey, by simp⟩
        · rintro ⟨front, back, hsplit, hrow, hbehind⟩
          cases back using List.reverseRecOn with
          | nil =>
              obtain ⟨-, hlast⟩ := List.append_inj' hsplit rfl
              rw [List.singleton_inj.mp hlast]
          | append_singleton back end_ =>
              rw [← List.cons_append, ← List.append_assoc] at hsplit
              obtain ⟨-, hlast⟩ := List.append_inj' hsplit rfl
              rw [List.singleton_inj.mp hlast] at hkey
              exact absurd hkey (hbehind end_ (by simp))
      · rw [if_neg hkey, ih]
        constructor
        · rintro ⟨front, back, rfl, hrow, hbehind⟩
          refine ⟨front, back ++ [last], by simp, hrow, ?_⟩
          intro other hother
          cases List.mem_append.mp hother with
          | inl hmem => exact hbehind other hmem
          | inr hmem => rwa [List.mem_singleton.mp hmem]
        · rintro ⟨front, back, hsplit, hrow, hbehind⟩
          cases back using List.reverseRecOn with
          | nil =>
              obtain ⟨-, hlast⟩ := List.append_inj' hsplit rfl
              rw [List.singleton_inj.mp hlast] at hkey
              exact absurd hrow hkey
          | append_singleton back end_ =>
              rw [← List.cons_append, ← List.append_assoc] at hsplit
              obtain ⟨hfront, -⟩ := List.append_inj' hsplit rfl
              refine ⟨front, back, hfront, hrow, ?_⟩
              intro other hother
              exact hbehind other (List.mem_append_left _ hother)

end LastWritten

namespace ActionExecutionService

variable {service : ActionExecutionService}

theorem lastWritten_logOf_iff (hlog : service.logOf call = some log) :
    lastWritten RunLog.path (calls.filterMap service.logOf) log.path = some row ↔
      ∃ last, service.IsLastWriter calls call last ∧ service.logOf last = some row := by
  rw [lastWritten_eq_some_iff]
  constructor
  · rintro ⟨front, back, hsplit, hpath, hbehind⟩
    obtain ⟨before, rest, rfl, -, hrest⟩ := List.filterMap_eq_append_iff.mp hsplit
    obtain ⟨skipped, last, after, rfl, hskipped, hlast, hafter⟩ :=
      List.filterMap_eq_cons_iff.mp hrest
    refine ⟨last, ⟨before ++ skipped, after, by simp, writes_iff.mpr ⟨row, hlast⟩, ?_, ?_⟩,
      hlast⟩
    · exact (path_eq_iff hlog hlast).mp hpath.symm
    · intro other hother hwrites hsame
      obtain ⟨otherLog, hotherLog⟩ := writes_iff.mp hwrites
      apply hbehind otherLog
      · rw [← hafter]
        exact List.mem_filterMap.mpr ⟨other, hother, hotherLog⟩
      · exact ((path_eq_iff hlog hotherLog).mpr hsame).symm
  · rintro ⟨last, ⟨front, back, rfl, -, hsame, hbehind⟩, hlast⟩
    refine ⟨front.filterMap service.logOf, back.filterMap service.logOf, ?_, ?_, ?_⟩
    · rw [List.filterMap_append, List.filterMap_cons, hlast]
    · exact ((path_eq_iff hlog hlast).mpr hsame).symm
    · intro other hother hpath
      obtain ⟨writer, hwriter, hotherLog⟩ := List.mem_filterMap.mp hother
      exact hbehind writer hwriter (writes_iff.mpr ⟨other, hotherLog⟩)
        ((path_eq_iff hlog hotherLog).mp hpath.symm)

theorem IsLastWriter.writes {last : RunCall} (hlast : service.IsLastWriter calls call last) :
    service.Writes last := by
  obtain ⟨front, back, -, hwrites, -⟩ := hlast
  exact hwrites

theorem exists_lastWriter (hcall : call ∈ calls) (hlog : service.logOf call = some log) :
    ∃ last, service.IsLastWriter calls call last ∧
      ∃ row, service.logOf last = some row ∧ row.path = log.path := by
  obtain ⟨row, hlast⟩ := exists_lastWritten RunLog.path
    (List.mem_filterMap.mpr ⟨call, hcall, hlog⟩)
  obtain ⟨last, hwriter, hrow⟩ := (lastWritten_logOf_iff hlog).mp hlast
  exact ⟨last, hwriter, row, hrow, (mem_of_lastWritten hlast).2⟩

theorem apart_of_logsKept {logs : RunLogs} (hkept : service.LogsKept logs calls) :
    calls.Pairwise fun earlier later =>
      service.Returns earlier → service.Returns later → ¬ SameLog earlier later := by
  have hdistinct := hkept.distinct
  rw [runAll_eq, List.pairwise_map] at hdistinct
  apply hdistinct.imp
  intro earlier later hpaths hearlier hlater hsame
  obtain ⟨first, hfirst⟩ := exists_outcomeOf hearlier
  obtain ⟨second, hsecond⟩ := exists_outcomeOf hlater
  apply hpaths first second hfirst hsecond
  exact (path_eq_iff (logOf_of_outcomeOf hfirst).2 (logOf_of_outcomeOf hsecond).2).mpr hsame

theorem lookup_final_iff {logs : RunLogs} (hcall : call ∈ calls)
    (hlog : service.logOf call = some log) :
    (logs.upsertAll (calls.filterMap service.logOf)).lookup log.path = some row ↔
      ∃ last, service.IsLastWriter calls call last ∧ service.logOf last = some row := by
  rw [← lastWritten_logOf_iff hlog, lookup_eq_some_iff, mem_upsertAll]
  constructor
  · rintro ⟨hmem, hpath⟩
    rw [hpath] at hmem
    cases hmem with
    | inl hlast => exact hlast
    | inr hold =>
        exact absurd (List.mem_map_of_mem (List.mem_filterMap.mpr ⟨call, hcall, hlog⟩)) hold.2
  · intro hlast
    have hpath := (mem_of_lastWritten hlast).2
    rw [hpath]
    exact ⟨Or.inl hlast, rfl⟩

theorem IsLastWriter.unique_log {last other : RunCall} {otherRow : RunLog}
    (hlog : service.logOf call = some log) (hlast : service.IsLastWriter calls call last)
    (hrow : service.logOf last = some row) (hother : service.IsLastWriter calls call other)
    (hotherRow : service.logOf other = some otherRow) : row = otherRow := by
  have hfirst : lastWritten RunLog.path (calls.filterMap service.logOf) log.path = some row :=
    (lastWritten_logOf_iff hlog).mpr ⟨last, hlast, hrow⟩
  have hsecond :
      lastWritten RunLog.path (calls.filterMap service.logOf) log.path = some otherRow :=
    (lastWritten_logOf_iff hlog).mpr ⟨other, hother, hotherRow⟩
  exact Option.some.inj (hfirst.symm.trans hsecond)

/-- Log paths are distinct and keep the outputs of their calls exactly where no two returning
calls share a log and what a raising call overwrites is restored. -/
theorem logsKept_iff (service : ActionExecutionService) (logs : RunLogs)
    (calls : List RunCall) : service.LogsKept logs calls ↔ service.LogsApart calls := by
  constructor
  · intro hkept
    constructor
    case apart => exact apart_of_logsKept hkept
    case restored =>
      intro call hcall hreturns last hlast
      obtain ⟨result, hresult⟩ := exists_outcomeOf hreturns
      have hlog := (logOf_of_outcomeOf hresult).2
      have hlookup := hkept.kept result (by
        rw [runAll_eq]
        exact List.mem_map.mpr ⟨call, hcall, hresult⟩)
      rw [runAll_eq] at hlookup
      obtain ⟨other, hother, hotherLog⟩ := (lookup_final_iff hcall hlog).mp hlookup
      obtain ⟨row, hrow⟩ := writes_iff.mp hlast.writes
      rw [outputOf_eq hrow, outputOf_eq hlog, hlast.unique_log hlog hrow hother hotherLog]
  · intro hapart
    constructor
    case distinct =>
      rw [runAll_eq, List.pairwise_map]
      apply hapart.apart.imp
      intro earlier later hshared first second hfirst hsecond hpaths
      obtain ⟨hearlier, hfirstLog⟩ := logOf_of_outcomeOf hfirst
      obtain ⟨hlater, hsecondLog⟩ := logOf_of_outcomeOf hsecond
      exact hshared hearlier hlater ((path_eq_iff hfirstLog hsecondLog).mp hpaths)
    case kept =>
      intro result hresult
      rw [runAll_eq] at hresult ⊢
      obtain ⟨call, hcall, houtcome⟩ := List.mem_map.mp hresult
      obtain ⟨hreturns, hlog⟩ := logOf_of_outcomeOf houtcome
      obtain ⟨last, hlast, row, hrow, hpath⟩ := exists_lastWriter hcall hlog
      apply (lookup_final_iff hcall hlog).mpr
      refine ⟨last, hlast, ?_⟩
      have houtput := hapart.restored call hcall hreturns last hlast
      rw [outputOf_eq hrow, outputOf_eq hlog] at houtput
      rw [hrow]
      cases row
      rw [Option.some.injEq] at houtput ⊢
      exact congrArg₂ RunLog.mk hpath houtput

def noonCall (output : String) : RunCall :=
  { world :=
      { tree := ⟨[], 0⟩
        which := fun executable => some ("/usr/bin/" ++ executable)
        sysExecutable := "/usr/bin/python3"
        findsPytest := false
        process := fun _ _ _ => .ok ⟨some 0, output, false, 17, by decide⟩
        now :=
          { LogSample.reading with
            date := ⟨2026, 3, 1, by decide, by decide, Nat.succ_pos 2, by decide,
              Nat.succ_pos 0, by decide⟩ } }
    request := ⟨"action:npm:build:app", ["npm", "run", "build"], none, 300, "builds"⟩ }

theorem noonCall_returns (output : String) :
    (⟨[]⟩ : ActionExecutionService).Returns (noonCall output) := by
  have hgroup : runGroupOf "builds" = .ok "builds" := by decide
  have hblank : isBlank "npm" = false := by decide
  constructor
  case writes =>
    use "builds", ⟨some 0, output, false, 17, by decide⟩
    unfold execute
    have htimeout : validateTimeoutSeconds (noonCall output).request.timeoutSeconds = .ok () := by
      rfl
    rw [htimeout, ok_bind]
    simp only [noonCall, hgroup, hblank, resolveCommandArgv, resolveWorkingDirectory, ok_bind,
      pure_eq_ok, Bool.false_eq_true, if_false]
  case actionId =>
    simp only [noonCall]
    decide
  case commandArgv =>
    simp only [noonCall]
    decide
  case commandCwd => rfl

/-- Two builds of one second share a log. -/
theorem logsKept_not_always :
    ¬ ∀ (service : ActionExecutionService) (logs : RunLogs) (calls : List RunCall),
      service.LogsKept logs calls := by
  intro halways
  have hkept := halways ⟨[]⟩ .empty [noonCall "built", noonCall "failed"]
  have happart := apart_of_logsKept hkept
  rw [List.pairwise_pair] at happart
  exact happart (noonCall_returns "built") (noonCall_returns "failed") ⟨rfl, rfl, rfl⟩

end ActionExecutionService

end SuitCode
