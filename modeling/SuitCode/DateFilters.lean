import SuitCode.AnalyticsLog
import SuitCode.TokenReports

/-!
# Date filters

The reports keep the events which are neither before the one nor after the other of two dates.
Both are compared as texts, with what `_normalize_date_filter` makes of a date.  The texts tell
the order of the instants where they are comparable, which the validator of an event does not
ask for.
-/

namespace SuitCode

open CivilDates ExceptList IsoTimestamps PosixText

theorem placeChars_append (zone : List Char) (place : ℕ) (digits : List ℕ) :
    placeChars zone place digits = placeChars [] place digits ++ zone := by
  induction digits generalizing place with
  | nil => rfl
  | cons digit digits ih =>
      rw [placeChars, placeChars, ih, List.append_assoc, List.append_assoc, List.append_assoc]

theorem stampChars_append (stamp : IsoStamp) (zone : List Char) :
    stamp.chars zone = stamp.chars [] ++ zone := by
  rw [IsoStamp.chars, IsoStamp.chars, placeChars_append, List.append_assoc]

theorem endsWith_stampText (stamp : IsoStamp) : endsWith stamp.text "Z" = true := by
  have hsuffix : ['Z'] <:+ stamp.text.toList := by
    rw [IsoStamp.text, String.toList_ofList, stampChars_append]
    exact List.suffix_append _ _
  exact List.isSuffixOf_iff_suffix.mpr hsuffix

theorem removeSuffix_stampText (stamp : IsoStamp) :
    removeSuffix "Z" stamp.text ++ "+00:00" = String.ofList (stamp.chars UtcOffset.utc.chars) := by
  have hlength : "Z".toList.length = 1 := rfl
  have hzone : UtcOffset.utc.chars = "+00:00".toList := by decide
  rw [removeSuffix, if_pos (endsWith_stampText stamp), hlength, IsoStamp.text,
    String.toList_ofList, stampChars_append stamp ['Z'], stampChars_append stamp
    UtcOffset.utc.chars, hzone, String.ofList_append, String.ofList_toList]
  congr 2
  simp

/-- The times of a machine in UTC: `datetime.fromisoformat` reads the extended format and raises
at other texts here, and `_timestamp` writes milliseconds. -/
def isoClock : AnalyticsClock where
  fromIsoFormat text :=
    match readInstant text.toList with
    | some instant => .ok instant
    | none => raiseValueError ("Invalid isoformat string: '" ++ text ++ "'")
  timestamp instant := (IsoStamp.ofInstant instant).text
  timestamp_endsWith instant := endsWith_stampText _
  timestamp_parses instant := by
    rw [removeSuffix_stampText, String.toList_ofList, readInstant_chars]
    rfl

theorem isoClock_fromIsoFormat (stamp : IsoStamp) (offset : UtcOffset) :
    isoClock.fromIsoFormat (String.ofList (stamp.chars offset.chars)) =
      .ok (stamp.instant - offset.microseconds) := by
  simp only [isoClock, String.toList_ofList, readInstant_chars]

theorem isoClock_accepts (stamp : IsoStamp) :
    isoClock.fromIsoFormat (removeSuffix "Z" stamp.text ++ "+00:00") = .ok stamp.instant := by
  rw [removeSuffix_stampText, isoClock_fromIsoFormat]
  simp [UtcOffset.utc, UtcOffset.microseconds]

/-! ## Filters -/

inductive DateFilter where
  | date (day : CivilDate)
  | utc (stamp : IsoStamp)
  | zoned (stamp : IsoStamp) (offset : UtcOffset)
      (hfirst : (firstInstant : ℤ) ≤ stamp.instant - offset.microseconds)
      (hlast : stamp.instant - offset.microseconds ≤ lastInstant)

namespace DateFilter

def dateChars (day : CivilDate) : List Char :=
  fixedDigits 4 day.year ++ '-' :: (fixedDigits 2 day.month ++ '-' :: fixedDigits 2 day.day)

def text : DateFilter → String
  | .date day => String.ofList (dateChars day)
  | .utc stamp => stamp.text
  | .zoned stamp offset _ _ => String.ofList (stamp.chars offset.chars)

/-- What a filter denotes; a date alone is its start, or its last microsecond. -/
def instant (endOfDay : Bool) : DateFilter → ℤ
  | .date day =>
      if endOfDay then (day.ordinal + 1) * 86400000000 - 1 else day.ordinal * 86400000000
  | .utc stamp => stamp.instant
  | .zoned stamp offset _ _ => stamp.instant - offset.microseconds

def ofDate (day : CivilDate) (endOfDay : Bool) : IsoStamp :=
  if endOfDay then
    { date := day
      hour := 23
      places := [59, 59, 9, 9, 9]
      hour_lt := by decide
      places_inRange := rfl }
  else
    { date := day
      hour := 0
      places := [0, 0, 0, 0, 0]
      hour_lt := Nat.succ_pos 23
      places_inRange := rfl }

/-- The time which stands for a filter in the comparison of texts. -/
def bound (endOfDay : Bool) : DateFilter → IsoStamp
  | .date day => ofDate day endOfDay
  | .utc stamp => stamp
  | .zoned stamp offset _ _ => IsoStamp.ofInstant (stamp.instant - offset.microseconds)

variable (filter : DateFilter) (endOfDay : Bool)

theorem length_stampChars (stamp : IsoStamp) (zone : List Char) :
    13 + zone.length ≤ (stamp.chars zone).length := by
  have hstart : stamp.start.length = 13 := by simp [IsoStamp.start]
  rw [stampChars_append, List.length_append, IsoStamp.chars, List.length_append, hstart]
  omega

theorem text_ofDate (day : CivilDate) :
    (ofDate day endOfDay).text =
      String.ofList (dateChars day) ++
        if endOfDay then "T23:59:59.999Z" else "T00:00:00.000Z" := by
  have hrest : ∀ chars : List Char, String.ofList (dateChars day) ++ String.ofList chars =
      String.ofList (dateChars day ++ chars) := by
    intro chars
    rw [String.ofList_append]
  cases endOfDay with
  | true =>
      have hlast : "T23:59:59.999Z" =
          String.ofList ('T' :: (fixedDigits 2 23 ++ placeChars ['Z'] 0 [59, 59, 9, 9, 9])) := by
        decide
      rw [if_pos rfl, hlast, hrest]
      simp [IsoStamp.text, IsoStamp.chars, IsoStamp.start, ofDate, dateChars]
  | false =>
      have hlast : "T00:00:00.000Z" =
          String.ofList ('T' :: (fixedDigits 2 0 ++ placeChars ['Z'] 0 [0, 0, 0, 0, 0])) := by
        decide
      rw [if_neg (by simp), hlast, hrest]
      simp [IsoStamp.text, IsoStamp.chars, IsoStamp.start, ofDate, dateChars]

theorem isEmpty_eq_false_of_length {text : String} (hlength : text.length ≠ 0) :
    ¬ text.isEmpty = true := by
  intro hempty
  rw [String.isEmpty_iff] at hempty
  exact hlength (by rw [hempty]; rfl)

theorem not_endsWith_zoned (stamp : IsoStamp) (offset : UtcOffset) :
    ¬ endsWith (String.ofList (stamp.chars offset.chars)) "Z" = true := by
  intro hends
  have hsuffix : ['Z'] <:+ (String.ofList (stamp.chars offset.chars)).toList :=
    List.isSuffixOf_iff_suffix.mp hends
  have hminutes : fixedDigits 2 offset.minutes =
      fixedDigits 1 (offset.minutes / 10) ++ [Nat.digitChar (offset.minutes % 10)] := rfl
  have hlast : stamp.chars offset.chars = (stamp.chars [] ++ offset.sign ::
      (fixedDigits 2 offset.hours ++ ':' :: fixedDigits 1 (offset.minutes / 10))) ++
        [Nat.digitChar (offset.minutes % 10)] := by
    rw [stampChars_append, UtcOffset.chars, hminutes]
    simp
  rw [String.toList_ofList] at hsuffix
  obtain ⟨front, hfront⟩ := hsuffix
  rw [hlast] at hfront
  have hdigit := List.singleton_inj.mp (List.append_inj' hfront rfl).2
  have hless := digitChar_lt_Z offset.minutes
  rw [← hdigit] at hless
  exact absurd hless (lt_irrefl _)

theorem normalizeDateFilter_eq {value : String} (hvalue : strip value = filter.text) :
    normalizeDateFilter isoClock value endOfDay = .ok (filter.bound endOfDay).text := by
  cases filter with
  | date day =>
      have htext : strip value = String.ofList (dateChars day) := hvalue
      have hlength : (String.ofList (dateChars day)).length = 10 := by
        rw [String.length_ofList]
        simp [dateChars]
      rw [normalizeDateFilter, htext]
      rw [if_neg (isEmpty_eq_false_of_length (by omega)), if_pos hlength, bound, text_ofDate]
      rfl
  | utc stamp =>
      have htext : strip value = stamp.text := hvalue
      have hlong : 14 ≤ stamp.text.length := by
        rw [IsoStamp.text, String.length_ofList]
        exact length_stampChars stamp ['Z']
      rw [normalizeDateFilter, htext]
      rw [if_neg (isEmpty_eq_false_of_length (by omega)), if_neg (by omega),
        if_pos (endsWith_stampText stamp), isoClock_accepts, ok_bind]
      rfl
  | zoned stamp offset hfirst hlast =>
      have htext : strip value = String.ofList (stamp.chars offset.chars) := hvalue
      have hlong : 19 ≤ (String.ofList (stamp.chars offset.chars)).length := by
        rw [String.length_ofList]
        have hoffset : offset.chars.length = 6 := by simp [UtcOffset.chars]
        have hlength := length_stampChars stamp offset.chars
        omega
      rw [normalizeDateFilter, htext]
      rw [if_neg (isEmpty_eq_false_of_length (by omega)), if_neg (by omega),
        if_neg (not_endsWith_zoned stamp offset), isoClock_fromIsoFormat, ok_bind]
      rfl

/-! ## Texts and instants -/

theorem bound_le_instant : ((filter.bound endOfDay).instant : ℤ) ≤ filter.instant endOfDay := by
  cases filter with
  | date day =>
      cases endOfDay with
      | true =>
          have hplaces : microseconds 0 [59, 59, 9, 9, 9] = 3599999000 := rfl
          simp only [bound, ofDate, instant, IsoStamp.instant, IsoStamp.hours, if_true, hplaces]
          omega
      | false =>
          have hplaces : microseconds 0 [0, 0, 0, 0, 0] = 0 := rfl
          simp only [bound, ofDate, instant, IsoStamp.instant, IsoStamp.hours]
          simp [hplaces]
          omega
  | utc stamp => exact le_rfl
  | zoned stamp offset hfirst hlast =>
      rw [bound, instant, IsoStamp.instant_ofInstant hfirst hlast]
      omega

end DateFilter

/-- The texts of two stamps are in the order of their instants. -/
def Ordered (lower upper : IsoStamp) : Prop :=
  lower.hours = upper.hours → Comparable 0 lower.places upper.places

section Comparisons

variable {value : String} {filter : DateFilter} (hvalue : strip value = filter.text)
  (event : IsoStamp)

include hvalue

theorem notBefore_told_iff :
    notBefore isoClock event.text value =
        .ok (decide (filter.instant false ≤ event.instant)) ↔
      (Ordered (filter.bound false) event ↔
        ¬ ((filter.bound false).instant ≤ event.instant ∧
          event.instant < filter.instant false)) := by
  have htext := @IsoStamp.text_lt_iff (filter.bound false) event
  have hbound := filter.bound_le_instant false
  have hcompare : notBefore isoClock event.text value =
      .ok (decide ((filter.bound false).text ≤ event.text)) := by
    rw [notBefore, DateFilter.normalizeDateFilter_eq _ _ hvalue, ok_bind]
    rfl
  rw [hcompare, Except.ok.injEq, decide_eq_decide, ← not_lt, Ordered, ← htext]
  by_cases hless : event.instant < (filter.bound false).instant
  · have hnot : ¬ filter.instant false ≤ event.instant := by omega
    simp [hless, hnot, Nat.not_le.mpr hless]
  · by_cases hbetween : event.instant < filter.instant false
    · have hle := Nat.not_lt.mp hless
      simp [hless, hle, hbetween, not_le.mpr hbetween]
    · simp [hless, hbetween, not_lt.mp hbetween]

theorem notAfter_told_iff :
    notAfter isoClock event.text value =
        .ok (decide ((event.instant : ℤ) ≤ filter.instant true)) ↔
      (Ordered event (filter.bound true) ↔
        ¬ ((filter.bound true).instant < event.instant ∧
          event.instant ≤ filter.instant true)) := by
  have htext := @IsoStamp.text_lt_iff event (filter.bound true)
  have hbound := filter.bound_le_instant true
  have hcompare : notAfter isoClock event.text value =
      .ok (decide (event.text ≤ (filter.bound true).text)) := by
    rw [notAfter, DateFilter.normalizeDateFilter_eq _ _ hvalue, ok_bind]
    rfl
  rw [hcompare, Except.ok.injEq, decide_eq_decide, ← not_lt, Ordered, ← htext]
  by_cases hmore : (filter.bound true).instant < event.instant
  · by_cases hbetween : (event.instant : ℤ) ≤ filter.instant true
    · simp [hmore, hbetween]
    · simp [hmore, hbetween]
  · have hle : (event.instant : ℤ) ≤ filter.instant true := by omega
    simp [hmore, hle]

/-- An event passes a filter exactly as the instants say where the texts are comparable, and,
where the bound has lost a part of a millisecond, the event is not in that part. -/
theorem dateFilters_iff :
    (notBefore isoClock event.text value =
          .ok (decide (filter.instant false ≤ event.instant)) ↔
        (Ordered (filter.bound false) event ↔
          ¬ ((filter.bound false).instant ≤ event.instant ∧
            event.instant < filter.instant false))) ∧
      (notAfter isoClock event.text value =
          .ok (decide ((event.instant : ℤ) ≤ filter.instant true)) ↔
        (Ordered event (filter.bound true) ↔
          ¬ ((filter.bound true).instant < event.instant ∧
            event.instant ≤ filter.instant true))) :=
  ⟨notBefore_told_iff hvalue event, notAfter_told_iff hvalue event⟩

end Comparisons

def mayDay : CivilDate := LogSample.reading.date

def noon (day : CivilDate) (places : List ℕ) (hplaces : inRange 0 places = true) : IsoStamp where
  date := day
  hour := 12
  places := places
  hour_lt := LogSample.reading.hour_lt
  places_inRange := hplaces

theorem dateFilters_iff_mayDay :
    strip " 2024-05-01" = (DateFilter.date mayDay).text ∧
      (notBefore isoClock (noon mayDay [30] rfl).text " 2024-05-01" =
          .ok (decide ((DateFilter.date mayDay).instant false ≤ (noon mayDay [30] rfl).instant)) ↔
        (Ordered ((DateFilter.date mayDay).bound false) (noon mayDay [30] rfl) ↔
          ¬ (((DateFilter.date mayDay).bound false).instant ≤ (noon mayDay [30] rfl).instant ∧
            (noon mayDay [30] rfl).instant < (DateFilter.date mayDay).instant false))) := by
  have hvalue : strip " 2024-05-01" = (DateFilter.date mayDay).text := by decide
  exact ⟨hvalue, (dateFilters_iff hvalue (noon mayDay [30] rfl)).1⟩

/-- Half a second after noon is left out of the events since noon. -/
theorem dateFilters_not_always :
    ¬ ∀ (filter : DateFilter) (value : String) (event : IsoStamp),
      strip value = filter.text →
        notBefore isoClock event.text value =
            .ok (decide (filter.instant false ≤ event.instant)) ∧
          notAfter isoClock event.text value =
            .ok (decide ((event.instant : ℤ) ≤ filter.instant true)) := by
  intro hall
  have hvalue : strip "2024-05-01T12:00:00Z" =
      (DateFilter.utc (noon mayDay [0, 0] rfl)).text := by decide
  have hsince := (hall (.utc (noon mayDay [0, 0] rfl)) "2024-05-01T12:00:00Z"
    (noon mayDay [0, 0, 5] rfl) hvalue).1
  rw [notBefore_told_iff hvalue] at hsince
  have hnot : ¬ Ordered (noon mayDay [0, 0] rfl) (noon mayDay [0, 0, 5] rfl) := by
    intro hordered
    have hcomparable : Comparable 0 [0, 0] [0, 0, 5] := hordered rfl
    simp [Comparable] at hcomparable
  apply hnot
  apply hsince.mpr
  intro hbetween
  exact absurd hbetween (by simp [DateFilter.bound, DateFilter.instant])

end SuitCode
