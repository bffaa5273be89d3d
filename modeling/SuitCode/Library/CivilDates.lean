import Mathlib.Data.Nat.Find
import Mathlib.Tactic.IntervalCases

/-!
# Civil dates

The dates of the proleptic Gregorian calendar, and their ordinals: January 1 of year 1 has
ordinal 1.  The ordinals are in the order of year, month and day, and every ordinal up to the
end of year 9999 is that of a date.
-/

namespace CivilDates

def isLeap (year : ℕ) : Bool :=
  decide (year % 4 = 0) && (decide (year % 100 ≠ 0) || decide (year % 400 = 0))

def daysInMonth (year month : ℕ) : ℕ :=
  if month = 0 then 0
  else if month = 2 then if isLeap year then 29 else 28
  else if month = 4 ∨ month = 6 ∨ month = 9 ∨ month = 11 then 30
  else 31

def daysBeforeYear (year : ℕ) : ℕ :=
  (year - 1) * 365 + (year - 1) / 4 - (year - 1) / 100 + (year - 1) / 400

def daysBeforeMonth (year : ℕ) : ℕ → ℕ
  | 0 => 0
  | month + 1 => daysBeforeMonth year month + daysInMonth year month

@[ext]
structure CivilDate where
  year : ℕ
  month : ℕ
  day : ℕ
  year_pos : 1 ≤ year
  year_le : year ≤ 9999
  month_pos : 1 ≤ month
  month_le : month ≤ 12
  day_pos : 1 ≤ day
  day_le : day ≤ daysInMonth year month
  deriving DecidableEq, Repr

def CivilDate.ordinal (date : CivilDate) : ℕ :=
  daysBeforeYear date.year + daysBeforeMonth date.year date.month + date.day

def maxOrdinal : ℕ := 3652059

/-! ## Years and months -/

theorem daysBeforeYear_succ {year : ℕ} (hpos : 1 ≤ year) :
    daysBeforeYear (year + 1) = daysBeforeYear year + if isLeap year then 366 else 365 := by
  unfold daysBeforeYear isLeap
  obtain ⟨before, rfl⟩ := Nat.exists_eq_add_of_le' hpos
  have hcentury : before / 100 ≤ before := Nat.div_le_self before 100
  simp only [Nat.add_sub_cancel, Nat.succ_div, Nat.dvd_iff_mod_eq_zero]
  generalize before / 4 = fours at *
  generalize before / 100 = centuries at *
  generalize before / 400 = fourCenturies at *
  by_cases hfour : (before + 1) % 4 = 0
  · by_cases hhundred : (before + 1) % 100 = 0
    · by_cases hfourHundred : (before + 1) % 400 = 0
      · simp [hfour, hhundred, hfourHundred]
        omega
      · simp [hfour, hhundred, hfourHundred]
        omega
    · have hfourHundred : (before + 1) % 400 ≠ 0 := by omega
      simp [hfour, hhundred, hfourHundred]
      omega
  · have hhundred : (before + 1) % 100 ≠ 0 := by omega
    have hfourHundred : (before + 1) % 400 ≠ 0 := by omega
    simp [hfour, hhundred, hfourHundred]
    omega

theorem daysBeforeMonth_thirteen (year : ℕ) :
    daysBeforeMonth year 13 = if isLeap year then 366 else 365 := by
  cases hleap : isLeap year with
  | true => simp [daysBeforeMonth, daysInMonth, hleap]
  | false => simp [daysBeforeMonth, daysInMonth, hleap]

theorem daysBeforeMonth_mono (year : ℕ) {month later : ℕ} (hle : month ≤ later) :
    daysBeforeMonth year month ≤ daysBeforeMonth year later := by
  induction later, hle using Nat.le_induction with
  | base => exact le_rfl
  | succ later _ ih =>
      rw [daysBeforeMonth]
      omega

theorem daysBeforeYear_mono {year later : ℕ} (hpos : 1 ≤ year) (hle : year ≤ later) :
    daysBeforeYear year ≤ daysBeforeYear later := by
  induction later, hle using Nat.le_induction with
  | base => exact le_rfl
  | succ later hle ih =>
      rw [daysBeforeYear_succ (by omega)]
      omega

theorem day_of_month_lt {year month later : ℕ} (hlt : month < later) {day : ℕ}
    (hday : day ≤ daysInMonth year month) :
    daysBeforeMonth year month + day ≤ daysBeforeMonth year later := by
  have hnext : daysBeforeMonth year (month + 1) ≤ daysBeforeMonth year later :=
    daysBeforeMonth_mono year hlt
  rw [daysBeforeMonth] at hnext
  omega

/-! ## Ordinals -/

namespace CivilDate

theorem day_of_year_le (date : CivilDate) :
    daysBeforeMonth date.year date.month + date.day ≤ if isLeap date.year then 366 else 365 := by
  rw [← daysBeforeMonth_thirteen]
  exact day_of_month_lt (Nat.lt_succ_of_le date.month_le) date.day_le

theorem ordinal_lt_of_year_lt {date later : CivilDate} (hyear : date.year < later.year) :
    date.ordinal < later.ordinal := by
  have hend := date.day_of_year_le
  have hnext := daysBeforeYear_mono (Nat.le_add_left 1 date.year) hyear
  have hpos := later.day_pos
  rw [daysBeforeYear_succ date.year_pos] at hnext
  unfold ordinal
  omega

theorem ordinal_lt_of_month_lt {date later : CivilDate} (hyear : date.year = later.year)
    (hmonth : date.month < later.month) : date.ordinal < later.ordinal := by
  have hnext := day_of_month_lt hmonth date.day_le
  have hpos := later.day_pos
  unfold ordinal
  rw [← hyear]
  omega

/-- Days are ordered as their year, month and day are. -/
theorem ordinal_lt_iff {date later : CivilDate} :
    date.ordinal < later.ordinal ↔
      date.year < later.year ∨ date.year = later.year ∧
        (date.month < later.month ∨ date.month = later.month ∧ date.day < later.day) := by
  constructor
  · intro hlt
    by_contra hnot
    push Not at hnot
    by_cases hyear : later.year < date.year
    · exact absurd hlt (Nat.lt_asymm (ordinal_lt_of_year_lt hyear))
    · have hsame : date.year = later.year := by omega
      by_cases hmonth : later.month < date.month
      · exact absurd hlt (Nat.lt_asymm (ordinal_lt_of_month_lt hsame.symm hmonth))
      · have hsameMonth : date.month = later.month := by
          have := (hnot.2 hsame).1
          omega
        have hday := (hnot.2 hsame).2 hsameMonth
        unfold ordinal at hlt
        rw [hsame, hsameMonth] at hlt
        omega
  · intro hcases
    cases hcases with
    | inl hyear => exact ordinal_lt_of_year_lt hyear
    | inr hsame =>
        obtain ⟨hyear, hcases⟩ := hsame
        cases hcases with
        | inl hmonth => exact ordinal_lt_of_month_lt hyear hmonth
        | inr hday =>
            unfold ordinal
            rw [hyear, hday.1]
            omega

theorem ordinal_inj {date other : CivilDate} : date.ordinal = other.ordinal ↔ date = other := by
  constructor
  · intro heq
    have hyear : date.year = other.year := by
      by_contra hne
      cases Nat.lt_or_gt_of_ne hne with
      | inl hlt => exact absurd heq (ordinal_lt_of_year_lt hlt).ne
      | inr hgt => exact absurd heq (ordinal_lt_of_year_lt hgt).ne'
    have hmonth : date.month = other.month := by
      by_contra hne
      cases Nat.lt_or_gt_of_ne hne with
      | inl hlt => exact absurd heq (ordinal_lt_of_month_lt hyear hlt).ne
      | inr hgt => exact absurd heq (ordinal_lt_of_month_lt hyear.symm hgt).ne'
    unfold ordinal at heq
    rw [hyear, hmonth] at heq
    exact CivilDate.ext hyear hmonth (by omega)
  · intro heq
    rw [heq]

end CivilDate

/-! ## The date of an ordinal -/

def yearOf (ordinal : ℕ) : ℕ := Nat.findGreatest (fun year => daysBeforeYear year < ordinal) 9999

def monthOf (year dayOfYear : ℕ) : ℕ :=
  Nat.findGreatest (fun month => daysBeforeMonth year month < dayOfYear) 12

theorem yearOf_spec {ordinal : ℕ} (hpos : 1 ≤ ordinal) (hle : ordinal ≤ maxOrdinal) :
    1 ≤ yearOf ordinal ∧ yearOf ordinal ≤ 9999 ∧ daysBeforeYear (yearOf ordinal) < ordinal ∧
      ordinal ≤ daysBeforeYear (yearOf ordinal) +
        if isLeap (yearOf ordinal) then 366 else 365 := by
  have hfirst : daysBeforeYear 1 < ordinal := hpos
  have hlow : 1 ≤ yearOf ordinal :=
    Nat.le_findGreatest (P := fun year => daysBeforeYear year < ordinal) (by decide) hfirst
  have hhigh : yearOf ordinal ≤ 9999 := Nat.findGreatest_le 9999
  have hbefore : daysBeforeYear (yearOf ordinal) < ordinal :=
    Nat.findGreatest_spec (P := fun year => daysBeforeYear year < ordinal) (by decide) hfirst
  refine ⟨hlow, hhigh, hbefore, ?_⟩
  rw [← daysBeforeYear_succ hlow]
  by_cases hlast : yearOf ordinal = 9999
  · rw [hlast]
    exact hle
  · by_contra hmore
    have hnext : yearOf ordinal + 1 ≤ yearOf ordinal :=
      Nat.le_findGreatest (P := fun year => daysBeforeYear year < ordinal) (by omega) (by omega)
    omega

theorem monthOf_spec {year dayOfYear : ℕ} (hpos : 1 ≤ dayOfYear)
    (hle : dayOfYear ≤ if isLeap year then 366 else 365) :
    1 ≤ monthOf year dayOfYear ∧ monthOf year dayOfYear ≤ 12 ∧
      daysBeforeMonth year (monthOf year dayOfYear) < dayOfYear ∧
      dayOfYear ≤ daysBeforeMonth year (monthOf year dayOfYear) +
        daysInMonth year (monthOf year dayOfYear) := by
  have hfirst : daysBeforeMonth year 1 < dayOfYear := hpos
  have hlow : 1 ≤ monthOf year dayOfYear :=
    Nat.le_findGreatest (P := fun month => daysBeforeMonth year month < dayOfYear)
      (by decide) hfirst
  have hhigh : monthOf year dayOfYear ≤ 12 := Nat.findGreatest_le 12
  have hbefore : daysBeforeMonth year (monthOf year dayOfYear) < dayOfYear :=
    Nat.findGreatest_spec (P := fun month => daysBeforeMonth year month < dayOfYear)
      (by decide) hfirst
  refine ⟨hlow, hhigh, hbefore, ?_⟩
  change dayOfYear ≤ daysBeforeMonth year (monthOf year dayOfYear + 1)
  by_cases hlast : monthOf year dayOfYear = 12
  · rw [hlast, daysBeforeMonth_thirteen]
    exact hle
  · by_contra hmore
    have hnext : monthOf year dayOfYear + 1 ≤ monthOf year dayOfYear :=
      Nat.le_findGreatest (P := fun month => daysBeforeMonth year month < dayOfYear)
        (by omega) (by omega)
    omega

theorem dayOfYear_spec {ordinal : ℕ} (hpos : 1 ≤ ordinal) (hle : ordinal ≤ maxOrdinal) :
    1 ≤ ordinal - daysBeforeYear (yearOf ordinal) ∧
      ordinal - daysBeforeYear (yearOf ordinal) ≤
        if isLeap (yearOf ordinal) then 366 else 365 := by
  have hyear := yearOf_spec hpos hle
  omega

/-- `date.fromordinal`. -/
def CivilDate.ofOrdinal (ordinal : ℕ) (hpos : 1 ≤ ordinal) (hle : ordinal ≤ maxOrdinal) :
    CivilDate :=
  let year := yearOf ordinal
  let dayOfYear := ordinal - daysBeforeYear year
  let month := monthOf year dayOfYear
  have hyear := yearOf_spec hpos hle
  have hday := dayOfYear_spec hpos hle
  have hmonth := monthOf_spec hday.1 hday.2
  { year := year
    month := month
    day := dayOfYear - daysBeforeMonth year month
    year_pos := hyear.1
    year_le := hyear.2.1
    month_pos := hmonth.1
    month_le := hmonth.2.1
    day_pos := Nat.sub_pos_of_lt hmonth.2.2.1
    day_le := Nat.sub_le_iff_le_add'.mpr hmonth.2.2.2 }

theorem CivilDate.ordinal_ofOrdinal {ordinal : ℕ} (hpos : 1 ≤ ordinal)
    (hle : ordinal ≤ maxOrdinal) : (ofOrdinal ordinal hpos hle).ordinal = ordinal := by
  have hyear := yearOf_spec hpos hle
  have hday := dayOfYear_spec hpos hle
  have hmonth := monthOf_spec hday.1 hday.2
  simp only [ofOrdinal, CivilDate.ordinal]
  omega

end CivilDates
