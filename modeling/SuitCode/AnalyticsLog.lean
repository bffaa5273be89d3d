import SuitCode.AnalyticsEvents
import SuitCode.Library.IsoTimestamps
import SuitCode.Library.StableOrder
import Mathlib.Data.List.Flatten

/-!
# The analytics log

Every event is written behind the active file of the log, which is put aside as an archive when
it would grow over its limit.  The archives are read in the order of their names, in which the
reading of the clock is followed by a counter where the reading was not the first of its
microsecond.
-/

namespace SuitCode

open CivilDates ExceptList IsoTimestamps KeyedList PosixText StableOrder

/-! ## Readings of the clock -/

/-- What `datetime.now(UTC)` gives. -/
structure UtcTime where
  date : CivilDate
  hour : ℕ
  minute : ℕ
  second : ℕ
  microsecond : ℕ
  hour_lt : hour < 24
  minute_lt : minute < 60
  second_lt : second < 60
  microsecond_lt : microsecond < 1000000
  deriving Repr

namespace UtcTime

def timeOfDay (time : UtcTime) : ℕ :=
  ((time.hour * 60 + time.minute) * 60 + time.second) * 1000000 + time.microsecond

def instant (time : UtcTime) : ℕ := time.date.ordinal * 86400000000 + time.timeOfDay

def dateChars (time : UtcTime) : List Char :=
  fixedDigits 4 time.date.year ++ (fixedDigits 2 time.date.month ++ fixedDigits 2 time.date.day)

def timeChars (time : UtcTime) : List Char :=
  fixedDigits 2 time.hour ++ (fixedDigits 2 time.minute ++
    (fixedDigits 2 time.second ++ (fixedDigits 6 time.microsecond ++ ['Z'])))

/-- `strftime("%Y%m%dT%H%M%S%fZ")`. -/
def chars (time : UtcTime) : List Char := time.dateChars ++ 'T' :: time.timeChars

@[simp] theorem length_chars (time : UtcTime) : time.chars.length = 22 := by
  simp [chars, dateChars, timeChars]

theorem timeOfDay_lt (time : UtcTime) : time.timeOfDay < 86400000000 := by
  have hhour := time.hour_lt
  have hminute := time.minute_lt
  have hsecond := time.second_lt
  have hmicrosecond := time.microsecond_lt
  unfold timeOfDay
  omega

variable {left right : UtcTime}

theorem dateChars_lt_iff :
    left.dateChars < right.dateChars ↔ left.date.ordinal < right.date.ordinal := by
  have hyear := left.date.year_le
  have hyear' := right.date.year_le
  have hmonth := left.date.month_le
  have hmonth' := right.date.month_le
  have hday := left.date.day_le
  have hday' := right.date.day_le
  have hmax := IsoStamp.daysInMonth_lt left.date.year left.date.month
  have hmax' := IsoStamp.daysInMonth_lt right.date.year right.date.month
  rw [dateChars, dateChars, append_lt_append_iff (by simp), append_lt_append_iff (by simp),
    fixedDigits_lt_iff (by omega) (by omega), fixedDigits_lt_iff (by omega) (by omega),
    fixedDigits_lt_iff (by omega) (by omega), fixedDigits_inj (by omega) (by omega),
    fixedDigits_inj (by omega) (by omega), CivilDate.ordinal_lt_iff]

theorem timeChars_lt_iff :
    left.timeChars < right.timeChars ↔ left.timeOfDay < right.timeOfDay := by
  have hhour := left.hour_lt
  have hhour' := right.hour_lt
  have hminute := left.minute_lt
  have hminute' := right.minute_lt
  have hsecond := left.second_lt
  have hsecond' := right.second_lt
  have hmicrosecond := left.microsecond_lt
  have hmicrosecond' := right.microsecond_lt
  have hZ : ¬ ['Z'] < ['Z'] := List.lt_irrefl _
  rw [timeChars, timeChars, append_lt_append_iff (by simp), append_lt_append_iff (by simp),
    append_lt_append_iff (by simp), append_lt_append_iff (by simp),
    fixedDigits_lt_iff (by omega) (by omega), fixedDigits_lt_iff (by omega) (by omega),
    fixedDigits_lt_iff (by omega) (by omega), fixedDigits_lt_iff (by omega) (by omega),
    fixedDigits_inj (by omega) (by omega), fixedDigits_inj (by omega) (by omega),
    fixedDigits_inj (by omega) (by omega)]
  simp only [hZ, and_false, or_false]
  unfold timeOfDay
  omega

theorem chars_lt_iff :
    left.chars < right.chars ↔ left.instant < right.instant := by
  have hleft := left.timeOfDay_lt
  have hright := right.timeOfDay_lt
  have hT : ¬ 'T' < 'T' := by decide
  have hdate : left.dateChars = right.dateChars ↔ left.date.ordinal = right.date.ordinal := by
    simp only [le_antisymm_iff, ← not_lt, dateChars_lt_iff]
  rw [chars, chars, append_lt_append_iff (by simp [dateChars]), List.cons_lt_cons_iff,
    dateChars_lt_iff, timeChars_lt_iff, hdate]
  simp only [hT, false_or, true_and]
  unfold instant
  omega

theorem chars_inj :
    left.chars = right.chars ↔ left.instant = right.instant := by
  simp only [le_antisymm_iff, ← not_lt, chars_lt_iff]

end UtcTime

/-! ## Archives -/

structure Archive where
  reading : UtcTime
  counter : ℕ
  events : List AnalyticsEvent

def archiveSuffix (counter : ℕ) : String :=
  if counter = 0 then ".jsonl" else "-" ++ toString counter ++ ".jsonl"

def archiveName (reading : UtcTime) (counter : ℕ) : String :=
  "events-" ++ String.ofList reading.chars ++ archiveSuffix counter

def Archive.name (archive : Archive) : String := archiveName archive.reading archive.counter

/-- The first name from a counter on which no file has; the names are as many as the files and
one more. -/
def freshCounterFrom (taken : List String) (reading : UtcTime) : ℕ → ℕ → ℕ
  | 0, counter => counter
  | fuel + 1, counter =>
      if archiveName reading counter ∈ taken then
        freshCounterFrom taken reading fuel (counter + 1)
      else counter

def freshCounter (taken : List String) (reading : UtcTime) : ℕ :=
  freshCounterFrom taken reading taken.length 0

section Names

variable {left right : ℕ}

theorem toDigits_inj (heq : Nat.toDigits 10 left = Nat.toDigits 10 right) :
    left = right := by
  induction left using Nat.strong_induction_on generalizing right with
  | h left ih =>
      have hdigits : ∀ number, Nat.toDigits 10 number =
          if number < 10 then [Nat.digitChar number]
          else Nat.toDigits 10 (number / 10) ++ [Nat.digitChar (number % 10)] := by
        intro number
        exact Nat.toDigits_eq_if (by decide)
      rw [hdigits left, hdigits right] at heq
      split_ifs at heq with hleft hright hright
      · exact (digitChar_inj hleft hright).mp (List.singleton_inj.mp heq)
      · have hlength := congrArg List.length heq
        have hpos := List.length_pos_iff.mpr (@Nat.toDigits_ne_nil (right / 10) 10)
        rw [List.length_append, List.length_singleton, List.length_singleton] at hlength
        omega
      · have hlength := congrArg List.length heq
        have hpos := List.length_pos_iff.mpr (@Nat.toDigits_ne_nil (left / 10) 10)
        rw [List.length_append, List.length_singleton, List.length_singleton] at hlength
        omega
      · obtain ⟨hfront, hlast⟩ := List.append_inj' heq rfl
        have hquotient := ih (left / 10) (by omega) hfront
        have hremainder := (digitChar_inj (Nat.mod_lt _ (by omega))
          (Nat.mod_lt _ (by omega))).mp (List.singleton_inj.mp hlast)
        omega

theorem archiveSuffix_inj (heq : archiveSuffix left = archiveSuffix right) :
    left = right := by
  have hhead : ∀ counter : ℕ, "-" ++ toString counter ++ ".jsonl" ≠ ".jsonl" := by
    intro counter hsame
    have hchars := congrArg String.toList hsame
    simp at hchars
  unfold archiveSuffix at heq
  split_ifs at heq with hleft hright hright
  · omega
  · exact absurd heq.symm (hhead right)
  · exact absurd heq (hhead left)
  · rw [String.append_left_inj, String.append_right_inj] at heq
    exact toDigits_inj (String.ofList_injective heq)

theorem archiveName_inj {reading : UtcTime}
    (heq : archiveName reading left = archiveName reading right) : left = right := by
  rw [archiveName, archiveName, String.append_right_inj] at heq
  exact archiveSuffix_inj heq

theorem toList_archiveName (reading : UtcTime) (counter : ℕ) :
    (archiveName reading counter).toList =
      "events-".toList ++ (reading.chars ++ (archiveSuffix counter).toList) := by
  simp [archiveName]

theorem archiveName_lt_iff {left right : UtcTime} {leftCounter rightCounter : ℕ} :
    archiveName left leftCounter < archiveName right rightCounter ↔
      left.instant < right.instant ∨ left.instant = right.instant ∧
        archiveSuffix leftCounter < archiveSuffix rightCounter := by
  have hlead : ¬ "events-".toList < "events-".toList := List.lt_irrefl _
  rw [String.lt_iff_toList_lt, String.lt_iff_toList_lt, toList_archiveName, toList_archiveName,
    append_lt_append_iff rfl, append_lt_append_iff (by simp), UtcTime.chars_lt_iff,
    UtcTime.chars_inj]
  simp only [hlead, false_or, true_and]

theorem archiveSuffix_lt_first {counter : ℕ} (hcounter : counter ≠ 0) :
    archiveSuffix counter < archiveSuffix 0 := by
  rw [archiveSuffix, archiveSuffix, if_neg hcounter, if_pos rfl, String.lt_iff_toList_lt]
  simp only [String.toList_append, String.append_assoc]
  exact List.cons_lt_cons_iff.mpr (Or.inl (by decide))

theorem taken_of_freshCounterFrom {taken : List String} {reading : UtcTime} {fuel counter : ℕ}
    (htaken : archiveName reading (freshCounterFrom taken reading fuel counter) ∈ taken) :
    ∀ step ≤ fuel, archiveName reading (counter + step) ∈ taken := by
  induction fuel generalizing counter with
  | zero =>
      intro step hstep
      obtain rfl : step = 0 := by omega
      exact htaken
  | succ fuel ih =>
      rw [freshCounterFrom] at htaken
      split_ifs at htaken with hfirst
      · intro step hstep
        cases step with
        | zero => exact hfirst
        | succ step =>
            have hlater := ih htaken step (by omega)
            rwa [Nat.add_right_comm, Nat.add_assoc] at hlater
      · exact absurd htaken hfirst

theorem freshCounter_not_taken (taken : List String) (reading : UtcTime) :
    archiveName reading (freshCounter taken reading) ∉ taken := by
  intro htaken
  have hall := taken_of_freshCounterFrom htaken
  have hnodup : ((List.range (taken.length + 1)).map (archiveName reading)).Nodup := by
    apply List.Nodup.map_on _ List.nodup_range
    intro left _ right _ heq
    exact archiveName_inj heq
  have hsubset : (List.range (taken.length + 1)).map (archiveName reading) ⊆ taken := by
    intro name hname
    obtain ⟨step, hstep, heq⟩ := List.mem_map.mp hname
    rw [List.mem_range] at hstep
    have hmem := hall step (by omega)
    rw [Nat.zero_add, heq] at hmem
    exact hmem
  have hlength := (List.subperm_of_subset hnodup hsubset).length_le
  simp at hlength

end Names

structure EventStream where
  archives : List Archive := []
  active : Option (List AnalyticsEvent) := none

namespace EventStream

/-- `_rollover` of the active file with these lines. -/
def rollover (stream : EventStream) (events : List AnalyticsEvent) (reading : UtcTime) :
    EventStream :=
  { archives := stream.archives ++
      [{ reading := reading
         counter := freshCounter (stream.archives.map Archive.name) reading
         events := events }]
    active := none }

def appendLine (lineBytes : AnalyticsEvent → ℕ) (maxFileBytes : ℕ) (stream : EventStream)
    (event : AnalyticsEvent) (reading : UtcTime) : EventStream :=
  let rolled :=
    match stream.active with
    | some events =>
        if (events.map lineBytes).sum + lineBytes event > maxFileBytes then
          stream.rollover events reading
        else stream
    | none => stream
  { rolled with active := some (rolled.active.getD [] ++ [event]) }

def iterLines (stream : EventStream) : List AnalyticsEvent :=
  (sortedBy Archive.name stream.archives).flatMap Archive.events ++ stream.active.getD []

end EventStream

/-! ## The store -/

structure AnalyticsSettings where
  globalEventsRoot : String
  repositoryEventsRoot : String → String
  maxFileBytes : ℕ
  lineBytes : AnalyticsEvent → ℕ

/-- A call of `append_event` with what the clock shows at each of its writes. -/
structure LogAppend where
  event : AnalyticsEvent
  repositoryRoot : Option String
  globalReading : UtcTime
  repositoryReading : UtcTime

structure LogWrite where
  root : String
  event : AnalyticsEvent
  reading : UtcTime

section Store

variable (settings : AnalyticsSettings)

def LogAppend.writes (call : LogAppend) : List LogWrite :=
  ⟨settings.globalEventsRoot, call.event, call.globalReading⟩ ::
    call.repositoryRoot.toList.map fun root =>
      ⟨settings.repositoryEventsRoot root, call.event, call.repositoryReading⟩

abbrev JsonlAnalyticsStore := String → EventStream

namespace JsonlAnalyticsStore

def write (store : JsonlAnalyticsStore) (line : LogWrite) : JsonlAnalyticsStore :=
  Function.update store line.root
    ((store line.root).appendLine settings.lineBytes settings.maxFileBytes line.event line.reading)

def appendEvent (store : JsonlAnalyticsStore) (call : LogAppend) : JsonlAnalyticsStore :=
  (call.writes settings).foldl (write settings) store

/-- A log which holds nothing, and then every event of the calls. -/
def appendAll (calls : List LogAppend) : JsonlAnalyticsStore :=
  calls.foldl (appendEvent settings) fun _ => {}

def streams (store : JsonlAnalyticsStore) (repositoryRoot : Option String)
    (includeGlobal : Bool) : List (String × List AnalyticsLine) :=
  ((if includeGlobal then [settings.globalEventsRoot] else []) ++
    repositoryRoot.toList.map settings.repositoryEventsRoot).map fun root =>
      (root, (store root).iterLines.map .record)

def loadEvents (clock : AnalyticsClock) (store : JsonlAnalyticsStore)
    (repositoryRoot : Option String) (includeGlobal : Bool) : PyResult (List AnalyticsEvent) :=
  loadEventStreams clock (streams settings store repositoryRoot includeGlobal)

end JsonlAnalyticsStore

end Store

/-! ## The files of a stream -/

/-- What is written to a stream is in its files, which have names of their own and were put aside
in the order of their readings. -/
structure EventStream.Holds (stream : EventStream) (events : List AnalyticsEvent)
    (readings : List UtcTime) : Prop where
  lines : stream.archives.flatMap Archive.events ++ stream.active.getD [] = events
  names : (stream.archives.map Archive.name).Nodup
  readings_mem : ∀ archive ∈ stream.archives, archive.reading ∈ readings
  inOrder : stream.archives.Pairwise fun left right =>
    left.reading.instant ≤ right.reading.instant

namespace EventStream

section Writing

variable {stream : EventStream} {events : List AnalyticsEvent} {readings : List UtcTime}
  {lineBytes : AnalyticsEvent → ℕ} {maxFileBytes : ℕ}

theorem Holds.rollover (hholds : stream.Holds events readings) {lines : List AnalyticsEvent}
    (hactive : stream.active = some lines) {reading : UtcTime}
    (hclock : ∀ earlier ∈ readings, earlier.instant ≤ reading.instant) :
    (stream.rollover lines reading).Holds events (readings ++ [reading]) := by
  constructor
  case lines =>
    have hlines := hholds.lines
    rw [hactive, Option.getD_some] at hlines
    rw [← hlines]
    simp [EventStream.rollover]
  case names =>
    have hfresh := freshCounter_not_taken (stream.archives.map Archive.name) reading
    simp only [EventStream.rollover, List.map_append, List.map_cons, List.map_nil]
    apply List.Nodup.append hholds.names (List.nodup_singleton _)
    rw [List.disjoint_singleton]
    exact hfresh
  case readings_mem =>
    intro archive harchive
    cases List.mem_append.mp harchive with
    | inl hearlier => exact List.mem_append_left _ (hholds.readings_mem archive hearlier)
    | inr hlast =>
        rw [List.mem_singleton.mp hlast]
        simp
  case inOrder =>
    apply List.pairwise_append.mpr
    constructor
    · exact hholds.inOrder
    · constructor
      · exact List.pairwise_singleton _ _
      · intro archive harchive last hlast
        rw [List.mem_singleton.mp hlast]
        exact hclock archive.reading (hholds.readings_mem archive harchive)

theorem Holds.mono (hholds : stream.Holds events readings) (reading : UtcTime) :
    stream.Holds events (readings ++ [reading]) :=
  ⟨hholds.lines, hholds.names,
    fun archive harchive => List.mem_append_left _ (hholds.readings_mem archive harchive),
    hholds.inOrder⟩

theorem Holds.appendLine (hholds : stream.Holds events readings) (event : AnalyticsEvent)
    {reading : UtcTime} (hclock : ∀ earlier ∈ readings, earlier.instant ≤ reading.instant) :
    (stream.appendLine lineBytes maxFileBytes event reading).Holds (events ++ [event])
      (readings ++ [reading]) := by
  have hadded : ∀ {rolled : EventStream}, rolled.Holds events (readings ++ [reading]) →
      EventStream.Holds { rolled with active := some (rolled.active.getD [] ++ [event]) }
        (events ++ [event]) (readings ++ [reading]) := by
    intro rolled hrolled
    constructor
    case lines =>
      rw [← hrolled.lines]
      simp
    case names => exact hrolled.names
    case readings_mem => exact hrolled.readings_mem
    case inOrder => exact hrolled.inOrder
  unfold EventStream.appendLine
  cases hactive : stream.active with
  | none => exact hadded (hholds.mono reading)
  | some lines =>
      dsimp only
      split_ifs with hlarge
      · exact hadded (hholds.rollover hactive hclock)
      · exact hadded (hholds.mono reading)

end Writing

theorem holds_foldl (lineBytes : AnalyticsEvent → ℕ) (maxFileBytes : ℕ) {lines : List LogWrite}
    (hclock : (lines.map LogWrite.reading).Pairwise fun left right =>
      left.instant ≤ right.instant) :
    (lines.foldl (fun (stream : EventStream) line =>
        stream.appendLine lineBytes maxFileBytes line.event line.reading) {}).Holds
      (lines.map LogWrite.event) (lines.map LogWrite.reading) := by
  induction lines using List.reverseRecOn with
  | nil => exact ⟨rfl, List.nodup_nil, by simp, List.Pairwise.nil⟩
  | append_singleton lines line ih =>
      rw [List.map_append, List.pairwise_append] at hclock
      rw [List.foldl_append, List.foldl_cons, List.foldl_nil, List.map_append, List.map_append]
      apply (ih hclock.1).appendLine
      intro earlier hearlier
      exact hclock.2.2 earlier hearlier line.reading (by simp)

end EventStream

/-! ## The order in which a stream is read -/

/-- An archive of the same reading whose name comes before that of another. -/
def Archive.Overtakes (other archive : Archive) : Prop :=
  other.reading.instant = archive.reading.instant ∧
    archiveSuffix other.counter < archiveSuffix archive.counter

namespace EventStream

/-- No archive with the second event overtakes one with the first. -/
def InTurn (stream : EventStream) (first second : AnalyticsEvent) : Prop :=
  second ∉ stream.archives.flatMap Archive.events ∨
    ∃ archive ∈ stream.archives, first ∈ archive.events ∧
      ∀ other ∈ stream.archives, second ∈ other.events → ¬ other.Overtakes archive

section Reading

variable {stream : EventStream} {events : List AnalyticsEvent} {readings : List UtcTime}
  {first second : AnalyticsEvent}

theorem pairwise_sortedArchives (hholds : stream.Holds events readings) :
    (sortedBy Archive.name stream.archives).Pairwise fun left right => left.name < right.name := by
  have hnodup : ((sortedBy Archive.name stream.archives).map Archive.name).Nodup :=
    ((sortedBy_perm Archive.name stream.archives).map Archive.name).nodup_iff.mpr hholds.names
  have hdistinct := List.pairwise_map.mp hnodup
  exact ((pairwise_sortedBy Archive.name stream.archives).and hdistinct).imp
    fun hpair => lt_of_le_of_ne hpair.1 hpair.2

theorem archives_in_order (hholds : stream.Holds events readings)
    (hback : ¬ [second, first].Sublist events) {archive other : Archive}
    (harchive : archive ∈ stream.archives) (hother : other ∈ stream.archives)
    (hfirst : first ∈ archive.events) (hsecond : second ∈ other.events) (hne : archive ≠ other) :
    [archive, other].Sublist stream.archives := by
  cases precedes_total harchive hother with
  | inl hprecedes => exact sublist_of_precedes hother hne hprecedes
  | inr hprecedes =>
      have hfiles := sublist_of_precedes harchive hne.symm hprecedes
      have hlines := hfiles.flatMap Archive.events
      have hpair : [second, first].Sublist ([other, archive].flatMap Archive.events) := by
        have hboth := (List.singleton_sublist.mpr hsecond).append
          (List.singleton_sublist.mpr hfirst)
        simpa using hboth
      have hall := (hpair.trans hlines).trans
        (List.sublist_append_left _ (stream.active.getD []))
      rw [hholds.lines] at hall
      exact absurd hall hback

theorem name_lt_iff_not_overtakes (hholds : stream.Holds events readings)
    {archive other : Archive} (hfiles : [archive, other].Sublist stream.archives) :
    archive.name < other.name ↔ ¬ other.Overtakes archive := by
  have hreadings := List.pairwise_iff_forall_sublist.mp hholds.inOrder hfiles
  have hnames : archive.name ≠ other.name := by
    have hpairs := List.pairwise_map.mp hholds.names
    exact List.pairwise_iff_forall_sublist.mp hpairs hfiles
  rw [Archive.name, Archive.name, archiveName_lt_iff, Archive.Overtakes]
  by_cases hsame : archive.reading.instant = other.reading.instant
  · have hsuffix : archiveSuffix archive.counter ≠ archiveSuffix other.counter := by
      intro heq
      apply hnames
      rw [Archive.name, Archive.name, archiveName, archiveName, heq,
        UtcTime.chars_inj.mpr hsame]
    simp only [hsame, lt_irrefl, false_or, true_and, not_lt]
    exact ⟨le_of_lt, fun hle => lt_of_le_of_ne hle hsuffix⟩
  · have hlt : archive.reading.instant < other.reading.instant := lt_of_le_of_ne hreadings hsame
    simp [hlt, hlt.ne']

theorem precedes_iterLines_iff (hholds : stream.Holds events readings) (hne : first ≠ second)
    (hfirst : first ∈ events) (hsecond : second ∈ events)
    (hback : ¬ [second, first].Sublist events) :
    Precedes stream.iterLines first second ↔ stream.InTurn first second := by
  have hmem : ∀ event, event ∈ (sortedBy Archive.name stream.archives).flatMap Archive.events ↔
      event ∈ stream.archives.flatMap Archive.events := by
    intro event
    simp only [List.mem_flatMap, mem_sortedBy]
  have hlines := hholds.lines
  rw [iterLines, precedes_append_iff, InTurn, hmem]
  by_cases hstored : second ∈ stream.archives.flatMap Archive.events
  · rw [precedes_flatMap_iff (pairwise_sortedArchives hholds)]
    simp only [hstored, not_true_eq_false, false_and, or_false, false_or, mem_sortedBy]
    apply exists_congr
    intro archive
    apply and_congr_right
    intro harchive
    apply and_congr_right
    intro hcontains
    apply forall_congr'
    intro other
    apply forall_congr'
    intro hother
    apply forall_congr'
    intro hcontains'
    by_cases hsame : archive = other
    · have hwithin : Precedes archive.events first second := by
        rw [← hsame] at hcontains'
        cases precedes_total hcontains hcontains' with
        | inl hprecedes => exact hprecedes
        | inr hprecedes =>
            have hpair := sublist_of_precedes hcontains hne.symm hprecedes
            have hfile : archive.events.Sublist (stream.archives.flatMap Archive.events) := by
              have hsingle := (List.singleton_sublist.mpr harchive).flatMap Archive.events
              simpa using hsingle
            have hall := (hpair.trans hfile).trans
              (List.sublist_append_left _ (stream.active.getD []))
            rw [hlines] at hall
            exact absurd hall hback
      have hnot : ¬ other.Overtakes archive := by
        rw [hsame]
        intro hovertakes
        exact lt_irrefl _ hovertakes.2
      constructor
      · intro _
        exact hnot
      · intro _
        exact Or.inr ⟨hsame, hwithin⟩
    · rw [name_lt_iff_not_overtakes hholds
        (archives_in_order hholds hback harchive hother hcontains hcontains' hsame)]
      simp [hsame]
  · have hactive : second ∈ stream.active.getD [] := by
      rw [← hlines, List.mem_append] at hsecond
      exact hsecond.resolve_left hstored
    simp only [hstored, not_false_eq_true, true_and, true_or, iff_true]
    by_cases hearlier : first ∈ stream.archives.flatMap Archive.events
    · left
      apply precedes_of_not_mem ((hmem first).mpr hearlier)
      rw [hmem]
      exact hstored
    · right
      have hfirst' : first ∈ stream.active.getD [] := by
        rw [← hlines, List.mem_append] at hfirst
        exact hfirst.resolve_left hearlier
      cases precedes_total hfirst' hactive with
      | inl hprecedes => exact hprecedes
      | inr hprecedes =>
          have hpair := sublist_of_precedes hfirst' hne.symm hprecedes
          have hall := hpair.trans
            (List.sublist_append_right (stream.archives.flatMap Archive.events) _)
          rw [hlines] at hall
          exact absurd hall hback

theorem mem_iterLines (hholds : stream.Holds events readings) {event : AnalyticsEvent} :
    event ∈ stream.iterLines ↔ event ∈ events := by
  rw [← hholds.lines, iterLines, List.mem_append, List.mem_append, List.mem_flatMap,
    List.mem_flatMap]
  simp only [mem_sortedBy]

end Reading

end EventStream

/-! ## The log as a whole -/

def AnalyticsEvent.instant (clock : AnalyticsClock) (event : AnalyticsEvent) : ℤ :=
  match clock.fromIsoFormat (removeSuffix "Z" event.timestampUtc ++ "+00:00") with
  | .ok time => time
  | .error _ => 0

namespace JsonlAnalyticsStore

section Writes

variable (settings : AnalyticsSettings) (calls : List LogAppend)

def writesTo (root : String) : List LogWrite :=
  (calls.flatMap (LogAppend.writes settings)).filter fun line => line.root = root

/-- The clock does not go back from one write to the next. -/
def ClockRuns : Prop :=
  ((calls.flatMap (LogAppend.writes settings)).map LogWrite.reading).Pairwise fun left right =>
    left.instant ≤ right.instant

theorem foldl_write (lines : List LogWrite) (store : JsonlAnalyticsStore) (root : String) :
    (lines.foldl (write settings) store) root =
      (lines.filter fun line => line.root = root).foldl (fun (stream : EventStream) line =>
        stream.appendLine settings.lineBytes settings.maxFileBytes line.event line.reading)
        (store root) := by
  induction lines generalizing store with
  | nil => rfl
  | cons line lines ih =>
      rw [List.foldl_cons, ih]
      by_cases hroot : line.root = root
      · rw [List.filter_cons_of_pos (by simpa using hroot), List.foldl_cons, write, hroot,
          Function.update_self]
      · rw [List.filter_cons_of_neg (by simpa using hroot), write,
          Function.update_of_ne (Ne.symm hroot)]

theorem holds_appendAll (hclock : ClockRuns settings calls) (root : String) :
    (appendAll settings calls root).Holds ((writesTo settings calls root).map LogWrite.event)
      ((writesTo settings calls root).map LogWrite.reading) := by
  have hstream : appendAll settings calls root =
      (writesTo settings calls root).foldl (fun (stream : EventStream) line =>
        stream.appendLine settings.lineBytes settings.maxFileBytes line.event line.reading)
        {} := by
    have hlines := foldl_write settings (calls.flatMap (LogAppend.writes settings))
      (fun _ => {}) root
    rw [List.foldl_flatMap] at hlines
    exact hlines
  rw [hstream]
  apply EventStream.holds_foldl
  have hpairs := List.pairwise_map.mp hclock
  exact List.pairwise_map.mpr (hpairs.filter _)

variable {settings calls}

theorem event_of_writes {call : LogAppend} {line : LogWrite} (hline : line ∈ call.writes settings) :
    line.event = call.event := by
  cases List.mem_cons.mp hline with
  | inl heq => rw [heq]
  | inr hrest =>
      obtain ⟨root, -, heq⟩ := List.mem_map.mp hrest
      rw [← heq]

theorem mem_of_mem_writesTo {root : String} {event : AnalyticsEvent}
    (hevent : event ∈ (writesTo settings calls root).map LogWrite.event) :
    event ∈ calls.map LogAppend.event := by
  obtain ⟨line, hline, rfl⟩ := List.mem_map.mp hevent
  obtain ⟨call, hcall, hwrites⟩ := List.mem_flatMap.mp (List.mem_filter.mp hline).1
  rw [event_of_writes hwrites]
  exact List.mem_map_of_mem hcall

theorem mem_writesTo_global {event : AnalyticsEvent} :
    event ∈ (writesTo settings calls settings.globalEventsRoot).map LogWrite.event ↔
      event ∈ calls.map LogAppend.event := by
  constructor
  · exact mem_of_mem_writesTo
  · intro hevent
    obtain ⟨call, hcall, rfl⟩ := List.mem_map.mp hevent
    apply List.mem_map.mpr
    use ⟨settings.globalEventsRoot, call.event, call.globalReading⟩
    constructor
    · apply List.mem_filter.mpr
      constructor
      · exact List.mem_flatMap.mpr ⟨call, hcall, List.mem_cons_self⟩
      · simp
    · rfl

theorem not_sublist_writesTo (hnodup : (calls.map LogAppend.event).Nodup)
    {first second : AnalyticsEvent} (hne : first ≠ second)
    (hprecedes : Precedes (calls.map LogAppend.event) first second) (root : String) :
    ¬ [second, first].Sublist ((writesTo settings calls root).map LogWrite.event) := by
  have hcalls := List.pairwise_map.mp (pairwise_precedes hnodup)
  have hall : (calls.flatMap (LogAppend.writes settings)).Pairwise fun left right =>
      left.event = right.event ∨
        Precedes (calls.map LogAppend.event) left.event right.event := by
    apply List.pairwise_flatMap.mpr
    constructor
    · intro call _
      apply List.Pairwise.imp_of_mem _ (List.pairwise_of_forall fun _ _ => trivial)
      intro left right hleft hright _
      exact Or.inl ((event_of_writes hleft).trans (event_of_writes hright).symm)
    · apply hcalls.imp
      intro earlier later horder left hleft right hright
      rw [event_of_writes hleft, event_of_writes hright]
      exact Or.inr horder
  intro hback
  have hpairs : ((writesTo settings calls root).map LogWrite.event).Pairwise fun left right =>
      left = right ∨ Precedes (calls.map LogAppend.event) left right :=
    List.pairwise_map.mpr (hall.filter _)
  cases List.pairwise_iff_forall_sublist.mp hpairs hback with
  | inl heq => exact hne heq.symm
  | inr hlater => exact precedes_asymm hne hprecedes hlater

end Writes

section Loading

variable {clock : AnalyticsClock} {settings : AnalyticsSettings} {calls : List LogAppend}

theorem nodup_events (hdistinct : (calls.map fun call => call.event.eventId).Nodup) :
    (calls.map LogAppend.event).Nodup := by
  apply List.Nodup.of_map AnalyticsEvent.eventId
  rw [List.map_map]
  exact hdistinct

theorem eq_of_eventId (hdistinct : (calls.map fun call => call.event.eventId).Nodup)
    {first second : AnalyticsEvent} (hfirst : first ∈ calls.map LogAppend.event)
    (hsecond : second ∈ calls.map LogAppend.event) (hid : first.eventId = second.eventId) :
    first = second := by
  have hnodup : ((calls.map LogAppend.event).map AnalyticsEvent.eventId).Nodup := by
    rw [List.map_map]
    exact hdistinct
  exact List.inj_on_of_nodup_map hnodup hfirst hsecond hid

theorem readAnalyticsLine_record {event : AnalyticsEvent}
    (hvalid : event.validate clock = .ok event) (root : String) :
    readAnalyticsLine clock root (.record event) = .ok event := by
  simp only [readAnalyticsLine, hvalid]

/-- The lines which `load_events` reads, those of the global stream first. -/
def linesRead (settings : AnalyticsSettings) (store : JsonlAnalyticsStore)
    (repositoryRoot : Option String) : List AnalyticsEvent :=
  (store settings.globalEventsRoot).iterLines ++
    repositoryRoot.toList.flatMap fun root =>
      (store (settings.repositoryEventsRoot root)).iterLines

theorem loadEvents_eq (hvalid : ∀ call ∈ calls, call.event.validate clock = .ok call.event)
    (hclock : ClockRuns settings calls) (repositoryRoot : Option String) :
    loadEvents settings clock (appendAll settings calls) repositoryRoot true =
      .ok (sortedBy AnalyticsEvent.timestampUtc
        (eventsById (linesRead settings (appendAll settings calls) repositoryRoot)).rows) := by
  have hread : ∀ root, ((appendAll settings calls root).iterLines.map AnalyticsLine.record).mapM
      (readAnalyticsLine clock root) = .ok (appendAll settings calls root).iterLines := by
    intro root
    have hlines : ∀ event ∈ (appendAll settings calls root).iterLines,
        readAnalyticsLine clock root (.record event) = .ok event := by
      intro event hevent
      have hwritten := (EventStream.mem_iterLines
        (holds_appendAll settings calls hclock root)).mp hevent
      obtain ⟨call, hcall, rfl⟩ := List.mem_map.mp (mem_of_mem_writesTo hwritten)
      exact readAnalyticsLine_record (hvalid call hcall) root
    rw [List.mapM_map]
    exact mapM_eq_ok_self_iff.mpr hlines
  unfold loadEvents loadEventStreams streams linesRead
  cases repositoryRoot with
  | none =>
      simp only [if_true, Option.toList_none, List.map_nil, List.append_nil, List.map_cons,
        List.mapM_cons, List.mapM_nil, hread, List.flatMap_nil]
      simp [ok_bind, pure, Except.pure]
  | some root =>
      simp only [if_true, Option.toList_some, List.map_cons, List.map_nil, List.cons_append,
        List.nil_append, List.mapM_cons, List.mapM_nil, hread, List.flatMap_cons,
        List.flatMap_nil, List.append_nil]
      simp [ok_bind, pure, Except.pure]

theorem mem_linesRead (hclock : ClockRuns settings calls) {repositoryRoot : Option String}
    {event : AnalyticsEvent} :
    event ∈ linesRead settings (appendAll settings calls) repositoryRoot ↔
      event ∈ calls.map LogAppend.event := by
  have hglobal := holds_appendAll settings calls hclock settings.globalEventsRoot
  rw [linesRead, List.mem_append, EventStream.mem_iterLines hglobal, mem_writesTo_global,
    List.mem_flatMap]
  constructor
  · intro hcases
    cases hcases with
    | inl hevent => exact hevent
    | inr hrepository =>
        obtain ⟨root, -, hevent⟩ := hrepository
        have hholds := holds_appendAll settings calls hclock (settings.repositoryEventsRoot root)
        exact mem_of_mem_writesTo ((EventStream.mem_iterLines hholds).mp hevent)
  · exact Or.inl

theorem precedes_linesRead_iff (hclock : ClockRuns settings calls)
    (hnodup : (calls.map LogAppend.event).Nodup) {repositoryRoot : Option String}
    {first second : AnalyticsEvent} (hne : first ≠ second)
    (hfirst : first ∈ calls.map LogAppend.event) (hsecond : second ∈ calls.map LogAppend.event)
    (hprecedes : Precedes (calls.map LogAppend.event) first second) :
    Precedes (linesRead settings (appendAll settings calls) repositoryRoot) first second ↔
      (appendAll settings calls settings.globalEventsRoot).InTurn first second := by
  have hglobal := holds_appendAll settings calls hclock settings.globalEventsRoot
  have hstored : second ∈ (appendAll settings calls settings.globalEventsRoot).iterLines :=
    (EventStream.mem_iterLines hglobal).mpr (mem_writesTo_global.mpr hsecond)
  rw [linesRead, precedes_append_iff]
  simp only [hstored, not_true_eq_false, false_and, or_false]
  exact EventStream.precedes_iterLines_iff hglobal hne (mem_writesTo_global.mpr hfirst)
    (mem_writesTo_global.mpr hsecond)
    (not_sublist_writesTo hnodup hne hprecedes settings.globalEventsRoot)

theorem sortedRows_iff (hdistinct : (calls.map fun call => call.event.eventId).Nodup)
    (hclock : ClockRuns settings calls) (repositoryRoot : Option String) :
    sortedBy AnalyticsEvent.timestampUtc
          (eventsById (linesRead settings (appendAll settings calls) repositoryRoot)).rows =
        sortedBy (AnalyticsEvent.instant clock) (calls.map LogAppend.event) ↔
      (∀ first ∈ calls.map LogAppend.event, ∀ second ∈ calls.map LogAppend.event,
        first.instant clock < second.instant clock →
          first.timestampUtc < second.timestampUtc) ∧
      (calls.map LogAppend.event).Pairwise fun first second =>
        first.instant clock = second.instant clock →
          first.timestampUtc < second.timestampUtc ∨
            first.timestampUtc = second.timestampUtc ∧
              (appendAll settings calls settings.globalEventsRoot).InTurn first second := by
  have hnodup := nodup_events hdistinct
  have hlines := @mem_linesRead settings calls hclock repositoryRoot
  have hsame : ∀ row ∈ linesRead settings (appendAll settings calls) repositoryRoot,
      ∀ other ∈ linesRead settings (appendAll settings calls) repositoryRoot,
        row.eventId = other.eventId → row = other := by
    intro row hrow other hother hid
    exact eq_of_eventId hdistinct (hlines.mp hrow) (hlines.mp hother) hid
  obtain ⟨hrows, horder⟩ := upsertAll_spec hsame
  have hperm : (calls.map LogAppend.event).Perm
      (eventsById (linesRead settings (appendAll settings calls) repositoryRoot)).rows := by
    apply (List.perm_ext_iff_of_nodup hnodup (List.Nodup.of_map _ (eventsById _).distinct)).mpr
    intro event
    exact (hlines.symm).trans (hrows event).symm
  have hinstant : ∀ first second : AnalyticsEvent, first.timestampUtc = second.timestampUtc →
      first.instant clock = second.instant clock := by
    intro first second heq
    rw [AnalyticsEvent.instant, AnalyticsEvent.instant, heq]
  rw [sortedBy_eq_sortedBy_iff hnodup hperm]
  constructor
  · intro hall
    constructor
    · intro first hfirst second hsecond hlt
      have hne : first ≠ second := by
        intro heq
        rw [heq] at hlt
        exact lt_irrefl _ hlt
      cases hall first hfirst second hsecond hne (Or.inl hlt) with
      | inl htext => exact htext
      | inr htext => exact absurd (hinstant first second htext.1) hlt.ne
    · apply ((pairwise_precedes hnodup).and hnodup).imp_of_mem
      intro first second hfirst hsecond hpair heq
      cases hall first hfirst second hsecond hpair.2 (Or.inr ⟨heq, hpair.1⟩) with
      | inl htext => exact Or.inl htext
      | inr htext =>
          right
          constructor
          · exact htext.1
          · exact (precedes_linesRead_iff hclock hnodup hpair.2 hfirst hsecond hpair.1).mp
              ((horder first second).mp htext.2)
  · intro hall first hfirst second hsecond hne hcases
    cases hcases with
    | inl hlt => exact Or.inl (hall.1 first hfirst second hsecond hlt)
    | inr hequal =>
        obtain ⟨heq, hprecedes⟩ := hequal
        have hsublist := sublist_of_precedes hsecond hne hprecedes
        cases List.pairwise_iff_forall_sublist.mp hall.2 hsublist heq with
        | inl htext => exact Or.inl htext
        | inr htext =>
            right
            constructor
            · exact htext.1
            · exact (horder first second).mpr
                ((precedes_linesRead_iff hclock hnodup hne hfirst hsecond hprecedes).mpr
                  htext.2)

/-- The log gives back every event once, in the order of the instants and then of the calls,
exactly when no text of a timestamp is against its instant and no later event of an equal
timestamp is in an archive which overtakes that of an earlier one. -/
theorem loadEvents_sorted_iff
    (hvalid : ∀ call ∈ calls, call.event.validate clock = .ok call.event)
    (hdistinct : (calls.map fun call => call.event.eventId).Nodup)
    (hclock : ClockRuns settings calls) (repositoryRoot : Option String) :
    loadEvents settings clock (appendAll settings calls) repositoryRoot true =
        .ok (sortedBy (AnalyticsEvent.instant clock) (calls.map LogAppend.event)) ↔
      (∀ first ∈ calls.map LogAppend.event, ∀ second ∈ calls.map LogAppend.event,
        first.instant clock < second.instant clock →
          first.timestampUtc < second.timestampUtc) ∧
      (calls.map LogAppend.event).Pairwise fun first second =>
        first.instant clock = second.instant clock →
          first.timestampUtc < second.timestampUtc ∨
            first.timestampUtc = second.timestampUtc ∧
              (appendAll settings calls settings.globalEventsRoot).InTurn first second := by
  rw [loadEvents_eq hvalid hclock, Except.ok.injEq]
  exact sortedRows_iff hdistinct hclock repositoryRoot

end Loading

end JsonlAnalyticsStore

namespace LogSample

def settings : AnalyticsSettings where
  globalEventsRoot := "/home/.suitcode/analytics/events"
  repositoryEventsRoot root := root ++ "/.suit/analytics/events"
  maxFileBytes := 1024
  lineBytes _ := 600

def reading : UtcTime where
  date := ⟨2024, 5, 1, by decide, by decide, by decide, by decide, by decide, by decide⟩
  hour := 12
  minute := 0
  second := 0
  microsecond := 0
  hour_lt := by decide
  minute_lt := Nat.succ_pos 59
  second_lt := Nat.succ_pos 59
  microsecond_lt := by decide

def event (eventId : String) : AnalyticsEvent where
  eventId := eventId
  sessionId := "s"
  timestampUtc := "1970-01-01T00:00:00.000Z"
  toolName := "find_symbols"
  argumentsFingerprintSha256 := "f"
  status := .started
  durationMs := 0

def call (eventId : String) : LogAppend where
  event := event eventId
  repositoryRoot := none
  globalReading := reading
  repositoryReading := reading

/-- Three events, of which two are put aside in one microsecond. -/
def calls : List LogAppend := [call "e1", call "e2", call "e3"]

theorem calls_valid (call : LogAppend) (hcall : call ∈ calls) :
    call.event.validate Sample.analyticsClock = .ok call.event := by
  simp only [calls, List.mem_cons, List.not_mem_nil, or_false] at hcall
  rcases hcall with rfl | rfl | rfl
  · decide
  · decide
  · decide

theorem calls_clock : JsonlAnalyticsStore.ClockRuns settings calls := by
  unfold JsonlAnalyticsStore.ClockRuns
  decide

theorem archives_calls :
    (JsonlAnalyticsStore.appendAll settings calls settings.globalEventsRoot).archives =
      [⟨reading, 0, [event "e1"]⟩, ⟨reading, 1, [event "e2"]⟩] := by
  rfl

end LogSample

namespace JsonlAnalyticsStore

theorem loadEvents_sorted_iff_calls :
    loadEvents LogSample.settings Sample.analyticsClock
          (appendAll LogSample.settings LogSample.calls) none true =
        .ok (sortedBy (AnalyticsEvent.instant Sample.analyticsClock)
          (LogSample.calls.map LogAppend.event)) ↔
      (∀ first ∈ LogSample.calls.map LogAppend.event,
        ∀ second ∈ LogSample.calls.map LogAppend.event,
        first.instant Sample.analyticsClock < second.instant Sample.analyticsClock →
          first.timestampUtc < second.timestampUtc) ∧
      (LogSample.calls.map LogAppend.event).Pairwise fun first second =>
        first.instant Sample.analyticsClock = second.instant Sample.analyticsClock →
          first.timestampUtc < second.timestampUtc ∨
            first.timestampUtc = second.timestampUtc ∧
              (appendAll LogSample.settings LogSample.calls
                LogSample.settings.globalEventsRoot).InTurn first second :=
  loadEvents_sorted_iff LogSample.calls_valid (by decide) LogSample.calls_clock none

/-- Two archives of one microsecond are read the other way round. -/
theorem loadEvents_not_always_sorted :
    ¬ ∀ (clock : AnalyticsClock) (settings : AnalyticsSettings) (calls : List LogAppend)
      (repositoryRoot : Option String),
      (∀ call ∈ calls, call.event.validate clock = .ok call.event) →
      (calls.map fun call => call.event.eventId).Nodup → ClockRuns settings calls →
        loadEvents settings clock (appendAll settings calls) repositoryRoot true =
          .ok (sortedBy (AnalyticsEvent.instant clock) (calls.map LogAppend.event)) := by
  intro hall
  have hdistinct : (LogSample.calls.map fun call => call.event.eventId).Nodup := by decide
  have hsorted := hall Sample.analyticsClock LogSample.settings LogSample.calls none
    LogSample.calls_valid hdistinct LogSample.calls_clock
  rw [loadEvents_eq LogSample.calls_valid LogSample.calls_clock, Except.ok.injEq,
    sortedRows_iff hdistinct LogSample.calls_clock] at hsorted
  have hpair : [LogSample.event "e1", LogSample.event "e2"].Sublist
      (LogSample.calls.map LogAppend.event) := by
    decide
  have hturn := List.pairwise_iff_forall_sublist.mp hsorted.2 hpair rfl
  have hnot : ¬ (appendAll LogSample.settings LogSample.calls
      LogSample.settings.globalEventsRoot).InTurn (LogSample.event "e1")
        (LogSample.event "e2") := by
    rw [EventStream.InTurn, LogSample.archives_calls]
    intro hcases
    cases hcases with
    | inl habsent => exact habsent (by decide)
    | inr hfound =>
        obtain ⟨archive, harchive, hfirst, hothers⟩ := hfound
        have hsecond : ¬ Archive.Overtakes ⟨LogSample.reading, 1, [LogSample.event "e2"]⟩
            archive := hothers _ (by simp) (by simp)
        have hfirstArchive : archive = ⟨LogSample.reading, 0, [LogSample.event "e1"]⟩ := by
          cases List.mem_cons.mp harchive with
          | inl heq => exact heq
          | inr hrest =>
              rw [List.mem_singleton.mp hrest] at hfirst
              exact absurd hfirst (by decide)
        rw [hfirstArchive] at hsecond
        exact hsecond ⟨rfl, archiveSuffix_lt_first (by decide)⟩
  cases hturn with
  | inl htext => exact lt_irrefl _ htext
  | inr hturn => exact hnot hturn.2

end JsonlAnalyticsStore

end SuitCode
